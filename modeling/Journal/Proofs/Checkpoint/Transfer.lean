import Journal.Checkpoint.Transfer
import Journal.Proofs.Bytes.Crc32

set_option autoImplicit false

namespace Journal

namespace Package

def arriving (package : Package) (body : List UInt8) : Package := { package with body := body }

section Receiving

variable {name : String} {bytes : List UInt8}

theorem receive_ofFile : (ofFile name bytes).receive = .ok (name, bytes) := by
  simp [receive, ofFile]

theorem receive_of_length_ne {body : List UInt8} (different : body.length ≠ bytes.length) :
    ((ofFile name bytes).arriving body).receive =
      .error (.shortFile name bytes.length body.length) :=
  if_pos different

theorem receive_of_set {position : Nat} (inside : position < bytes.length) {byte : UInt8}
    (changed : bytes[position] ≠ byte) :
    ((ofFile name bytes).arriving (bytes.set position byte)).receive =
      .error (.corruptedByte name) := by
  have length : ¬ (bytes.set position byte).length ≠ bytes.length := by simp
  exact (if_neg length).trans (if_pos (Crc32.checksum_set_ne inside changed))

theorem middle_lt (filled : bytes ≠ []) : bytes.length / 2 < bytes.length :=
  Nat.div_lt_self (List.length_pos_iff.mpr filled) (by decide)

theorem receive_truncate (filled : bytes ≠ []) :
    (ofFile name bytes).truncate.receive =
      .error (.shortFile name bytes.length (bytes.length / 2)) := by
  have middle := middle_lt filled
  have kept : (bytes.take (bytes.length / 2)).length = bytes.length / 2 :=
    List.length_take_of_le (Nat.le_of_lt middle)
  have shorter : (bytes.take (bytes.length / 2)).length ≠ bytes.length := by omega
  calc (ofFile name bytes).truncate.receive
    _ = .error (.shortFile name bytes.length (bytes.take (bytes.length / 2)).length) :=
      receive_of_length_ne shorter
    _ = .error (.shortFile name bytes.length (bytes.length / 2)) := by rw [kept]

theorem receive_corrupt (filled : bytes ≠ []) :
    (ofFile name bytes).corrupt.receive = .error (.corruptedByte name) := by
  have middle := middle_lt filled
  have inverted : bytes[bytes.length / 2] ≠ bytes[bytes.length / 2] ^^^ 0xFF := by
    intro same
    have cancelled : bytes[bytes.length / 2] ^^^ 0 = bytes[bytes.length / 2] ^^^ 0xFF := by
      rwa [UInt8.xor_zero]
    exact absurd ((UInt8.xor_right_inj _).mp cancelled) (by decide)
  have body : bytes.modify (bytes.length / 2) (· ^^^ 0xFF) =
      bytes.set (bytes.length / 2) (bytes[bytes.length / 2] ^^^ 0xFF) := by
    rw [List.modify_eq_set, List.getElem?_eq_getElem middle, Option.getD_some]
  have refused : ((ofFile name bytes).arriving _).receive = _ := receive_of_set middle inverted
  rwa [← body] at refused

theorem send_of_truncates {corrupts : Bool} (filled : bytes ≠ []) :
    send name bytes true corrupts = ((ofFile name bytes).truncate, some (.truncated name)) := by
  simp [send, filled]

theorem send_of_corrupts (filled : bytes ≠ []) :
    send name bytes false true = ((ofFile name bytes).corrupt, some (.corruptedByte name)) := by
  simp [send, filled]

end Receiving

section Sending

variable (name : String) (bytes : List UInt8) (truncates corrupts : Bool)

theorem send_cases :
    ((bytes = [] ∨ truncates = false ∧ corrupts = false) ∧
      send name bytes truncates corrupts = (ofFile name bytes, none)) ∨
    (bytes ≠ [] ∧ truncates = true ∧ send name bytes truncates corrupts =
      ((ofFile name bytes).truncate, some (.truncated name))) ∨
    bytes ≠ [] ∧ truncates = false ∧ corrupts = true ∧ send name bytes truncates corrupts =
      ((ofFile name bytes).corrupt, some (.corruptedByte name)) := by
  unfold send
  by_cases empty : bytes = []
  · simp [empty]
  · cases truncates <;> cases corrupts <;> simp [empty]

theorem arriving_send (body : List UInt8) :
    (send name bytes truncates corrupts).1.arriving body = (ofFile name bytes).arriving body := by
  -- What is stated of the file is stated before anything is done to it.
  rcases send_cases name bytes truncates corrupts with ⟨-, sent⟩ | ⟨-, -, sent⟩ | ⟨-, -, -, sent⟩ <;>
    rw [sent] <;> rfl

/-- What becomes of a file on its way: the damage done to it, and what the receiver makes of it. -/
inductive Transfer : Option Damage → Except TransferFault (String × List UInt8) → Prop
  | whole (spared : bytes = [] ∨ truncates = false ∧ corrupts = false) :
      Transfer none (.ok (name, bytes))
  | short {expected actual : Nat} :
      Transfer (some (.truncated name)) (.error (.shortFile name expected actual))
  | flipped : Transfer (some (.corruptedByte name)) (.error (.corruptedByte name))

theorem transfer_send :
    Transfer name bytes truncates corrupts (send name bytes truncates corrupts).2
      (send name bytes truncates corrupts).1.receive := by
  rcases send_cases name bytes truncates corrupts with
    ⟨spared, sent⟩ | ⟨filled, -, sent⟩ | ⟨filled, -, -, sent⟩ <;> rw [sent]
  · rw [receive_ofFile]
    exact .whole spared
  · rw [receive_truncate filled]
    exact .short
  · rw [receive_corrupt filled]
    exact .flipped

/-- A file that nothing is done to is received as it is. If some of its end is lost on the way, the
receiver tells how much came of how much, and if one byte, whichever it is, becomes another one, it tells
that. The faults that can be injected are of these two kinds. -/
theorem received_only_as_sent :
    ((send name bytes truncates corrupts).2 = none →
      (send name bytes truncates corrupts).1.receive = .ok (name, bytes)) ∧
    (∀ kept lost, kept ++ lost = bytes → lost ≠ [] →
      ((send name bytes truncates corrupts).1.arriving kept).receive =
        .error (.shortFile name bytes.length kept.length)) ∧
    (∀ position, (inside : position < bytes.length) → ∀ byte, bytes[position] ≠ byte →
      ((send name bytes truncates corrupts).1.arriving (bytes.set position byte)).receive =
        .error (.corruptedByte name)) ∧
    (bytes ≠ [] → truncates = true →
      (send name bytes truncates corrupts).2 = some (.truncated name) ∧
      (send name bytes truncates corrupts).1.receive =
        .error (.shortFile name bytes.length (bytes.length / 2))) ∧
    (bytes ≠ [] → truncates = false → corrupts = true →
      (send name bytes truncates corrupts).2 = some (.corruptedByte name) ∧
      (send name bytes truncates corrupts).1.receive = .error (.corruptedByte name)) := by
  refine ⟨fun spared => ?_, fun kept lost whole some => ?_, fun position inside byte changed => ?_,
    ?_, ?_⟩
  · rcases send_cases name bytes truncates corrupts with
      ⟨-, sent⟩ | ⟨-, -, sent⟩ | ⟨-, -, -, sent⟩ <;> rw [sent] at spared ⊢
    · exact receive_ofFile
    · contradiction
    · contradiction
  · rw [arriving_send]
    apply receive_of_length_ne
    have := List.length_pos_iff.mpr some
    rw [← whole, List.length_append]
    omega
  · rw [arriving_send]
    exact receive_of_set inside changed
  · rintro filled rfl
    rw [send_of_truncates filled]
    exact ⟨rfl, receive_truncate filled⟩
  · rintro filled rfl rfl
    rw [send_of_corrupts filled]
    exact ⟨rfl, receive_corrupt filled⟩

end Sending

theorem received_only_as_sent_three :
    (send "image_7" [1, 2, 3] true true).1.receive = .error (.shortFile "image_7" 3 1) ∧
      (send "image_7" [1, 2, 3] false true).1.receive = .error (.corruptedByte "image_7") ∧
      ((send "image_7" [1, 2, 3] false false).1.arriving [1, 2]).receive =
        .error (.shortFile "image_7" 3 2) ∧
      ((send "image_7" [1, 2, 3] false false).1.arriving [1, 2, 0xFF]).receive =
        .error (.corruptedByte "image_7") ∧
      (send "image_7" [] true true).1.receive = .ok ("image_7", []) := by
  obtain ⟨-, cut, changed, -, -⟩ := received_only_as_sent "image_7" [1, 2, 3] false false
  exact ⟨((received_only_as_sent "image_7" [1, 2, 3] true true).2.2.2.1 (by decide) rfl).2,
    ((received_only_as_sent "image_7" [1, 2, 3] false true).2.2.2.2 (by decide) rfl rfl).2,
    cut [1, 2] [3] rfl (by decide), changed 2 (by decide) 0xFF (by decide),
    (received_only_as_sent "image_7" [] true true).1 rfl⟩

end Package

end Journal
