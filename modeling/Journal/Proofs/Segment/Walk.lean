import Journal.Proofs.Codec.Record
import Journal.Segment.Scan

set_option autoImplicit false

namespace Journal

namespace LayoutVersion

theorem length_header (version : LayoutVersion) : version.header.length = headerSize :=
  BigEndian.length_encode ..

theorem ofHeader?_append (version : LayoutVersion) (rest : List UInt8) :
    ofHeader? (version.header ++ rest) = some version := by
  have front : (version.header ++ rest).take headerSize = version.header :=
    List.take_left' version.length_header
  have number : BigEndian.decode version.header = version.number.toUInt32.toNat :=
    BigEndian.decode_encode_of_lt version.number.toUInt32.toNat_lt
  rw [ofHeader?, front, if_pos version.length_header, number, UInt32.ofNat_toNat,
    Int32.toInt32_toUInt32]

theorem header_of_ofHeader? {bytes : List UInt8} {version : LayoutVersion}
    (found : ofHeader? bytes = some version) :
    bytes = version.header ++ bytes.drop headerSize := by
  rw [ofHeader?] at found
  split at found
  · next long =>
    have small : BigEndian.decode (bytes.take headerSize) < 2 ^ 32 := by
      have bound := BigEndian.decode_lt (bytes.take headerSize)
      rwa [long] at bound
    have number : version.number.toUInt32.toNat = BigEndian.decode (bytes.take headerSize) := by
      rw [← Option.some.inj found, UInt32.toUInt32_toInt32, UInt32.toNat_ofNat',
        Nat.mod_eq_of_lt small]
    have written : version.header = bytes.take headerSize := by
      rw [header, number]
      conv => lhs; arg 1; rw [← long]
      exact BigEndian.encode_decode _
    rw [written, List.take_append_drop]
  · contradiction

theorem ofHeader?_of_short {bytes : List UInt8} (short : bytes.length < headerSize) :
    ofHeader? bytes = none := by
  rw [ofHeader?]
  apply if_neg
  rw [List.length_take]
  omega

end LayoutVersion

theorem isFill_iff {bytes : List UInt8} :
    isFill bytes = true ↔ bytes = List.replicate bytes.length Opcode.fillByte := by
  simp [isFill, List.eq_replicate_iff]

theorem ScanRules.read_eq_record {rules : ScanRules} {last : Option UInt64} {rest : Remainder}
    {record : Record} {size : Nat} :
    rules.read last rest = .record record size ↔
      Record.decodeInput rest.input rules.version = .ok (record, size) ∧
        follows last record.txid = true := by
  unfold ScanRules.read
  split
  · next empty =>
    have unread : Record.decodeInput rest.input rules.version = .error (.truncated 1 0) := by
      rw [Record.decodeInput, show rest.input.bytes = [] from empty]
    rw [unread]
    split <;> simp
  · next byte others filled =>
    by_cases fill : byte = Opcode.fillByte
    · rw [if_pos fill]
      have undecoded : Record.decodeInput rest.input rules.version ≠ .ok (record, size) := by
        intro decoded
        have code := (Record.decodeInput_eq_ok.mp decoded).1
        rw [show rest.input.bytes = byte :: others from filled, List.head?_cons, fill] at code
        exact record.toByte_ne_fillByte (Option.some.inj code).symm
      split <;> simp [undecoded]
    · rw [if_neg fill]
      cases decoded : Record.decodeInput rest.input rules.version with
      | error fault => simp
      | ok pair =>
        obtain ⟨found, length⟩ := pair
        cases last with
        | none => simp [follows]
        | some last =>
          by_cases early : found.txid < last
          · simp only [if_pos early, reduceCtorEq, Except.ok.injEq, Prod.mk.injEq, false_iff,
              follows, decide_eq_true_eq]
            rintro ⟨⟨rfl, -⟩, late⟩
            exact absurd late (UInt64.not_le.mpr early)
          · simp only [if_neg early, Reading.record.injEq, Except.ok.injEq, Prod.mk.injEq, follows,
              decide_eq_true_eq]
            constructor
            · rintro ⟨rfl, rfl⟩
              exact ⟨⟨rfl, rfl⟩, UInt64.not_lt.mp early⟩
            · rintro ⟨same, -⟩
              exact same

theorem ScanRules.read_eq_finished {rules : ScanRules} {last : Option UInt64} {rest : Remainder}
    {marked : Bool} :
    rules.read last rest = .finished marked ↔
      ∃ fill, rest.bytes = List.replicate fill Opcode.fillByte ∧ marked = decide (1 ≤ fill) ∧
        (rules.mode = .strict → rules.requireEndMarker = true → 1 ≤ fill) := by
  -- The walk ends in fill, which may be missing if no end marker is asked for.
  unfold ScanRules.read
  split
  · next empty =>
    have none : (∃ fill, rest.bytes = List.replicate fill Opcode.fillByte ∧
        marked = decide (1 ≤ fill) ∧
        (rules.mode = .strict → rules.requireEndMarker = true → 1 ≤ fill)) ↔
        marked = false ∧ ¬ (rules.mode = .strict ∧ rules.requireEndMarker = true) := by
      constructor
      · rintro ⟨fill, replicated, rfl, enough⟩
        have : fill = 0 := by
          simpa only [empty, List.length_nil, List.length_replicate] using
            (congrArg List.length replicated).symm
        subst this
        exact ⟨rfl, fun both => absurd (enough both.1 both.2) (by decide)⟩
      · rintro ⟨rfl, free⟩
        exact ⟨0, empty, rfl, fun strict required => absurd ⟨strict, required⟩ free⟩
    rw [none]
    by_cases strict : rules.mode = .strict <;>
      by_cases required : rules.requireEndMarker = true <;> simp [strict, required, eq_comm]
  · next byte others filled =>
    by_cases fill : byte = Opcode.fillByte
    · rw [if_pos fill]
      split
      · next all =>
        have same := isFill_iff.mp (rest.isFill_eq.symm.trans all)
        constructor
        · intro read
          cases read
          refine ⟨_, same, ?_, ?_⟩ <;> simp [filled]
        · rintro ⟨count, replicated, rfl, -⟩
          have : 1 ≤ count := by
            have length := congrArg List.length replicated
            simp only [filled, List.length_cons, List.length_replicate] at length
            omega
          simp [this]
      · next garbage =>
        simp only [reduceCtorEq, false_iff]
        rintro ⟨count, replicated, -⟩
        apply garbage
        rw [rest.isFill_eq, isFill_iff, replicated, List.length_replicate]
    · rw [if_neg fill]
      have unfilled : ¬ ∃ fill, rest.bytes = List.replicate fill Opcode.fillByte ∧
          marked = decide (1 ≤ fill) ∧
          (rules.mode = .strict → rules.requireEndMarker = true → 1 ≤ fill) := by
        rintro ⟨count, replicated, -⟩
        have first : byte ∈ List.replicate count Opcode.fillByte := by
          rw [← replicated, filled]
          exact List.mem_cons_self
        exact fill (List.eq_of_mem_replicate first)
      simp only [unfilled, iff_false]
      split
      · simp
      · split
        · simp
        · split <;> simp

theorem ScanRules.read_early {rules : ScanRules} {rest : Remainder} {record : Record} {size : Nat}
    (decoded : Record.decodeInput rest.input rules.version = .ok (record, size)) {last : UInt64}
    (early : record.txid < last) :
    rules.read (some last) rest = .failure (.outOfOrder last record.txid) := by
  have code := (Record.decodeInput_eq_ok.mp decoded).1
  unfold ScanRules.read
  split
  · next empty =>
    rw [show rest.input.bytes = [] from empty] at code
    contradiction
  · next byte others filled =>
    rw [show rest.input.bytes = byte :: others from filled, List.head?_cons] at code
    have unfilled : byte ≠ Opcode.fillByte := Option.some.inj code ▸ record.toByte_ne_fillByte
    simp only [if_neg unfilled, decoded, if_pos early]

theorem ScanRules.read_failure {rules : ScanRules} {rest : Remainder} {fault : DecodeFault}
    (undecoded : Record.decodeInput rest.input rules.version = .error fault)
    (unfilled : ∀ fill, rest.bytes ≠ List.replicate fill Opcode.fillByte) (last : Option UInt64) :
    ∃ fault, rules.read last rest = .failure fault := by
  cases read : rules.read last rest with
  | record record size =>
    have decoded := (read_eq_record.mp read).1
    rw [undecoded] at decoded
    contradiction
  | finished marked =>
    obtain ⟨fill, filled, -⟩ := read_eq_finished.mp read
    exact absurd filled (unfilled fill)
  | failure fault => exact ⟨fault, rfl⟩

theorem ScanRules.read_of_nil {rules : ScanRules} {rest : Remainder} (strict : rules.mode = .strict)
    (required : rules.requireEndMarker = true) (past : rest.bytes = []) (last : Option UInt64) :
    rules.read last rest = .failure (.truncated 1 0) := by
  unfold ScanRules.read
  split
  · simp [strict, required]
  · next filled => simp [past] at filled

theorem ScanRules.size_of_failure {rules : ScanRules} {last : Option UInt64} {rest : Remainder}
    (recovering : rules.mode = .recovery) {fault : DecodeFault}
    (read : rules.read last rest = .failure fault) : 0 < rest.size := by
  rcases Nat.eq_zero_or_pos rest.size with past | filled
  · have empty : rest.bytes = [] := List.length_eq_zero_iff.mp (rest.input.size_eq.symm.trans past)
    have finished : rules.read last rest = .finished false :=
      read_eq_finished.mpr ⟨0, empty, rfl, by simp [recovering]⟩
    rw [read] at finished
    contradiction
  · exact filled

theorem ScanRules.walk_finished {rules : ScanRules} {last : Option UInt64} {rest : Remainder}
    {marked : Bool} (read : rules.read last rest = .finished marked) (start : Nat)
    (events : Array ScanEvent) : rules.walk start last events rest = (events, marked) := by
  rw [walk]
  split <;> rename_i found <;> rw [read] at found <;> cases found
  rfl

theorem ScanRules.walk_record {rules : ScanRules} {last : Option UInt64} {rest : Remainder}
    {record : Record} {size : Nat} (read : rules.read last rest = .record record size)
    (start : Nat) (events : Array ScanEvent) :
    rules.walk start last events rest =
      rules.walk (start + size) (some record.txid)
        (events.push (.emitted start (start + size) record)) (rest.drop size) := by
  rw [walk]
  split <;> rename_i found <;> rw [read] at found <;> cases found
  rfl

theorem ScanRules.walk_failure {rules : ScanRules} (strict : rules.mode = .strict)
    {last : Option UInt64} {rest : Remainder} {fault : DecodeFault}
    (read : rules.read last rest = .failure fault) (start : Nat) (events : Array ScanEvent) :
    rules.walk start last events rest = (events.push (.failed ⟨start, fault⟩), false) := by
  rw [walk]
  split <;> rename_i found <;> rw [read] at found <;> cases found
  split
  · rfl
  · next recovering _ => rw [strict] at recovering; contradiction
  · next recovering _ => rw [strict] at recovering; contradiction

theorem ScanRules.walk_exhausted {rules : ScanRules} (recovering : rules.mode = .recovery)
    {last : Option UInt64} {rest : Remainder} {fault : DecodeFault}
    (read : rules.read last rest = .failure fault) (lost : rules.resume last rest = none)
    (start : Nat) (events : Array ScanEvent) :
    rules.walk start last events rest =
      ((events.push (.failed ⟨start, fault⟩)).push (.skipped start (start + rest.size)), false) := by
  rw [walk]
  split <;> rename_i found <;> rw [read] at found <;> cases found
  split
  · next stopping => rw [recovering] at stopping; contradiction
  · rfl
  · next resumed => rw [lost] at resumed; contradiction

theorem ScanRules.walk_resumed {rules : ScanRules} (recovering : rules.mode = .recovery)
    {last : Option UInt64} {rest : Remainder} {fault : DecodeFault} {passed : Nat}
    (read : rules.read last rest = .failure fault) (resumed : rules.resume last rest = some passed)
    (start : Nat) (events : Array ScanEvent) :
    rules.walk start last events rest =
      rules.walk (start + 1 + passed) last
        ((events.push (.failed ⟨start, fault⟩)).push (.skipped start (start + 1 + passed)))
        (rest.drop (1 + passed)) := by
  rw [walk]
  split <;> rename_i found <;> rw [read] at found <;> cases found
  split
  · next stopping => rw [recovering] at stopping; contradiction
  · next lost => rw [resumed] at lost; contradiction
  · next _ again => rw [resumed] at again; cases again; rfl

namespace Segment

inductive Laid (version : LayoutVersion) : Option UInt64 → List Record → List UInt8 → Prop
  | nil {last : Option UInt64} : Laid version last [] []
  | cons {last : Option UInt64} {record : Record} {records : List Record} {bytes rest : List UInt8}
      (encoded : record.encode version = .ok bytes) (later : follows last record.txid = true)
      (laid : Laid version (some record.txid) records rest) :
      Laid version last (record :: records) (bytes ++ rest)

def emissions (version : LayoutVersion) : (start : Nat) → List Record → List ScanEvent
  | _, [] => []
  | start, record :: records =>
    let stop := start + Record.encodedLength record.operation.body.length version
    .emitted start stop record :: emissions version stop records

theorem Laid.encoded {version : LayoutVersion} {last : Option UInt64} {records : List Record}
    {bytes : List UInt8} (laid : Laid version last records bytes) :
    ∀ record ∈ records, ∃ encoding, record.encode version = .ok encoding := by
  induction laid with
  | nil => exact nofun
  | cons encoded _ _ ih => exact List.forall_mem_cons.mpr ⟨⟨_, encoded⟩, ih⟩

end Segment

end Journal
