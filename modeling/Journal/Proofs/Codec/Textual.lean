import Journal.Proofs.Json.Legible
import Journal.Record.Textual

set_option autoImplicit false

namespace Journal

theorem Opcode.ofRecordTag?_name (opcode : Opcode) : ofRecordTag? (.text opcode.name) = some opcode :=
  ofName?_name opcode

namespace Operation

theorem legible_payload (operation : Operation) :
    operation.opcode.schema.ofJson? (operation.opcode.schema.toJson operation.payload) =
      some operation.payload :=
  operation.opcode.composed.legible.read operation.payload

theorem ofMembers?_members {ofTag? : Json → Option Opcode} {operation : Operation}
    (tagged : ofTag? (.text operation.opcode.name) = some operation.opcode)
    (before : Members) (apart : ∀ member ∈ before, isPart member = false) :
    ofMembers? ofTag? (before ++ operation.members) = some operation := by
  have unseen (name : String) (part : name = "opcode" ∨ name = "data") :
      Json.valuesOf name before = [] := by
    apply Json.valuesOf_eq_nil
    intro member inside same
    have other := apart member inside
    rw [isPart, same] at other
    rcases part with rfl | rfl <;> simp at other
  have tag : Json.valuesOf "opcode" (before ++ operation.members) =
      [.text operation.opcode.name] := by
    rw [Json.valuesOf_append, unseen _ (.inl rfl)]
    simp [members, Json.valuesOf_eq]
  have data : Json.valuesOf "data" (before ++ operation.members) =
      [operation.opcode.schema.toJson operation.payload] := by
    rw [Json.valuesOf_append, unseen _ (.inr rfl)]
    simp [members, Json.valuesOf_eq]
  rw [ofMembers?, tag, data]
  simp only [ofTagged?, tagged, Option.bind_eq_bind, Option.bind_some, legible_payload]
  rfl

theorem writable_members (operation : Operation) :
    ∀ member ∈ operation.members, member.1.isSome = true ∧ Json.Writable 3 member.2 := by
  intro member inside
  simp only [members, List.mem_cons, List.not_mem_nil, or_false] at inside
  rcases inside with rfl | rfl
  · exact ⟨rfl, Json.writable_text _⟩
  · exact ⟨rfl, operation.opcode.composed.legible.writable operation.payload⟩

end Operation

namespace Record

theorem writable_toJson (record : Record) : Json.Writable 4 record.toJson := by
  have each : ∀ member ∈ (some "txid", .int record.txid.toNat) :: record.operation.members,
      member.1.isSome = true ∧ Json.Writable 3 member.2 := by
    intro member inside
    rcases List.mem_cons.mp inside with rfl | inside
    · exact ⟨rfl, .literal (decide_eq_true record.txid.toNat_lt)⟩
    · exact record.operation.writable_members member inside
  exact .object (fun member inside => (each member inside).1) fun member inside =>
    (each member inside).2

theorem ofJson?_toJson (record : Record) {levels : Nat} (deep : 4 ≤ levels) :
    ofJson? levels record.toJson = some record := by
  have sound : record.toJson.isSound levels = true := (record.writable_toJson.mono deep).isSound
  have small : (0 : Int) ≤ record.txid.toNat ∧ (record.txid.toNat : Int) < UInt64.size :=
    ⟨Int.natCast_nonneg _, Int.ofNat_lt.mpr record.txid.toNat_lt⟩
  have txid : txid? (.int record.txid.toNat) = some record.txid := by
    rw [Json.int, txid?, if_pos small, Int.toNat_natCast, UInt64.ofNat_toNat]
  have ids : Json.valuesOf "txid" ((some "txid", .int record.txid.toNat) ::
      record.operation.members) = [.int record.txid.toNat] := by
    simp [Operation.members, Json.valuesOf_eq]
  have operation : Operation.ofMembers? Opcode.ofRecordTag?
      ((some "txid", .int record.txid.toNat) :: record.operation.members) =
        some record.operation := by
    refine Operation.ofMembers?_members (Opcode.ofRecordTag?_name _)
      [(some "txid", .int record.txid.toNat)] ?_
    intro member inside
    rw [List.mem_singleton.mp inside]
    rfl
  unfold toJson at sound ⊢
  simp only [ofJson?, if_pos sound, ids, txid, operation]
  rfl

end Record

end Journal
