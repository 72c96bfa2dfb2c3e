import Journal.Proofs.Segment.Resync
import Journal.Proofs.Visitor
import Mathlib.Data.List.Forall2

set_option autoImplicit false

namespace Journal

def Tiles : (start : Nat) → List (Nat × Nat) → (stop : Nat) → Prop
  | start, [], stop => start = stop
  | start, (first, last) :: ranges, stop => first = start ∧ first < last ∧ Tiles last ranges stop

def covers (offset : Nat) (range : Nat × Nat) : Bool := range.1 ≤ offset && offset < range.2

namespace Tiles

variable {start stop : Nat} {ranges : List (Nat × Nat)}

theorem start_le (tiles : Tiles start ranges stop) : start ≤ stop := by
  induction ranges generalizing start with
  | nil => exact Nat.le_of_eq tiles
  | cons range ranges ih =>
    obtain ⟨rfl, filled, tiles⟩ := tiles
    exact Nat.le_trans (Nat.le_of_lt filled) (ih tiles)

theorem snd_le (tiles : Tiles start ranges stop) : ∀ range ∈ ranges, range.2 ≤ stop := by
  induction ranges generalizing start with
  | nil => exact nofun
  | cons range ranges ih =>
    obtain ⟨-, -, tiles⟩ := tiles
    exact List.forall_mem_cons.mpr ⟨tiles.start_le, ih tiles⟩

theorem countP_covers (tiles : Tiles start ranges stop) (offset : Nat) :
    ranges.countP (covers offset) = if start ≤ offset ∧ offset < stop then 1 else 0 := by
  induction ranges generalizing start with
  | nil =>
    obtain rfl : start = stop := tiles
    rw [List.countP_nil, if_neg (by omega)]
  | cons range ranges ih =>
    obtain ⟨first, last⟩ := range
    obtain ⟨rfl, filled, tiles⟩ := tiles
    have after := tiles.start_le
    rw [List.countP_cons, ih tiles]
    simp only [covers, Bool.and_eq_true, decide_eq_true_eq]
    split_ifs <;> omega

end Tiles

namespace Scan

def ranges (scan : Scan) : List (Nat × Nat) :=
  scan.events.filterMap fun
    | .emitted start stop _ | .skipped start stop => some (start, stop)
    | .failed _ => none

theorem ranges_perm (scan : Scan) : scan.ranges.Perm (scan.spans ++ scan.skipped) := by
  obtain ⟨mode, version, headerFault, events, closed⟩ := scan
  induction events with
  | nil => exact .nil
  | cons event events ih =>
    cases event with
    | emitted start stop record => exact ih.cons (start, stop)
    | failed error => exact ih
    | skipped start stop => exact (ih.cons (start, stop)).trans List.perm_middle.symm

theorem spans_sublist_ranges (scan : Scan) : scan.spans.Sublist scan.ranges := by
  obtain ⟨mode, version, headerFault, events, closed⟩ := scan
  induction events with
  | nil => exact .slnil
  | cons event events ih =>
    cases event with
    | emitted start stop record => exact ih.cons_cons (start, stop)
    | failed error => exact ih
    | skipped start stop => exact ih.cons (start, stop)

theorem skipped_sublist_ranges (scan : Scan) : scan.skipped.Sublist scan.ranges := by
  obtain ⟨mode, version, headerFault, events, closed⟩ := scan
  induction events with
  | nil => exact .slnil
  | cons event events ih =>
    cases event with
    | emitted start stop record => exact ih.cons (start, stop)
    | failed error => exact ih
    | skipped start stop => exact ih.cons_cons (start, stop)

def EndsInFill (scan : Scan) (tail : List UInt8) : Prop :=
  ∃ fill, tail = List.replicate fill Opcode.fillByte ∧ (scan.cleanlyClosed = true ↔ 1 ≤ fill)

/-- How a scan of `bytes` accounts for what lies from `start` on: up to `tail` by records and skips, from
there on by how it has ended. -/
structure Accounts (scan : Scan) (bytes : List UInt8) (start tail : Nat) : Prop where
  tiles : Tiles start scan.ranges tail
  within : tail ≤ bytes.length
  encoded : List.Forall₂ (fun record span =>
    record.encode scan.version = .ok ((bytes.take span.2).drop span.1)) scan.records scan.spans
  recovered : scan.mode = .recovery → scan.EndsInFill (bytes.drop tail)
  strict : scan.mode = .strict → scan.skipped = [] ∧
    match scan.firstError with
    | some error => tail = error.offset
    | none => scan.EndsInFill (bytes.drop tail)

theorem Accounts.once {scan : Scan} {bytes : List UInt8} {start tail : Nat}
    (accounts : scan.Accounts bytes start tail) {offset : Nat} (beyond : start ≤ offset) :
    scan.spans.countP (covers offset) + scan.skipped.countP (covers offset) +
      (if tail ≤ offset then 1 else 0) = 1 := by
  have tiled := accounts.tiles.countP_covers offset
  rw [scan.ranges_perm.countP_eq, List.countP_append] at tiled
  rw [tiled]
  split_ifs <;> omega

end Scan

namespace Segment

theorem endsInFill_of_finished {rules : ScanRules} {last : Option UInt64} {rest : Remainder}
    {marked : Bool} (read : rules.read last rest = .finished marked) {scan : Scan}
    (closed : scan.cleanlyClosed = marked) : scan.EndsInFill rest.bytes := by
  obtain ⟨fill, stands, rfl, -⟩ := ScanRules.read_eq_finished.mp read
  exact ⟨fill, stands, by rw [closed, decide_eq_true_iff]⟩

theorem accounts_of_trace {rules : ScanRules} {headerFault : Option DecodeFault}
    (headed : rules.mode = .strict → headerFault = none) {bytes : List UInt8} {start : Nat}
    {last : Option UInt64} {rest : Remainder} {events : List ScanEvent} {marked : Bool}
    (trace : rules.Trace start last rest events marked) (stands : rest.bytes = bytes.drop start)
    (inside : start ≤ bytes.length) :
    ∃ tail, Scan.Accounts ⟨rules.mode, rules.version, headerFault, events, marked⟩ bytes start
      tail := by
  -- Each step takes away the range at the front and leaves the rest to the steps after it.
  induction trace with
  | @finished start _ rest marked read =>
    have ended : Scan.EndsInFill ⟨rules.mode, rules.version, headerFault, [], marked⟩ rest.bytes :=
      endsInFill_of_finished read rfl
    rw [stands] at ended
    refine ⟨start, rfl, inside, .nil, fun _ => ended, fun strict => ⟨rfl, ?_⟩⟩
    obtain rfl := headed strict
    exact ended
  | @record start _ rest record size _ _ read _ ih =>
    obtain ⟨filled, bound⟩ := size_of_read read
    rw [Remainder.size_eq, stands, List.length_drop] at bound
    have beyond : (rest.drop size).bytes = bytes.drop (start + size) := by
      rw [Remainder.bytes_drop, stands, List.drop_drop]
    obtain ⟨tail, tiles, within, encoded, recovered, strict⟩ := ih beyond (by omega)
    have span : record.encode rules.version = .ok ((bytes.take (start + size)).drop start) := by
      rw [List.drop_take, Nat.add_sub_cancel_left, ← stands]
      exact Record.encode_of_decodeInput (ScanRules.read_eq_record.mp read).1
    exact ⟨tail, ⟨rfl, by omega, tiles⟩, within, .cons span encoded, recovered, strict⟩
  | @stopped start _ _ fault mode read =>
    refine ⟨start, rfl, inside, .nil, fun recovering => ?_, fun strict => ⟨rfl, ?_⟩⟩
    · rw [show rules.mode = .recovery from recovering] at mode
      contradiction
    · obtain rfl := headed strict
      rfl
  | @exhausted start _ rest fault recovering read lost =>
    have filled := ScanRules.size_of_failure recovering read
    have size : start + rest.size = bytes.length := by
      rw [Remainder.size_eq, stands, List.length_drop]
      omega
    refine ⟨start + rest.size, ⟨rfl, by omega, rfl⟩, by omega, .nil, fun _ => ⟨0, ?_, by simp⟩, ?_⟩
    · rw [size, List.drop_length]
      rfl
    · intro strict
      rw [show rules.mode = .strict from strict] at recovering
      contradiction
  | @resumed start _ rest fault passed _ _ recovering read found _ ih =>
    have bound := (ScanRules.of_resume_eq_some recovering found).1
    rw [ScanRules.lt_reach_iff stands] at bound
    have beyond : (rest.drop (1 + passed)).bytes = bytes.drop (start + 1 + passed) := by
      rw [Remainder.bytes_drop, stands, List.drop_drop, Nat.add_assoc]
    obtain ⟨tail, tiles, within, encoded, recovered, -⟩ := ih beyond (by omega)
    refine ⟨tail, ⟨rfl, by omega, tiles⟩, within, encoded, recovered, fun strict => ?_⟩
    rw [show rules.mode = .strict from strict] at recovering
    contradiction

theorem trustedEnd_of_scan {mode : ScanMode} {config : Config} {bytes : List UInt8} {found : Scan}
    (scanned : scan mode config bytes = .ok found) :
    found.trustedEnd =
      match found.spans.getLast? with
      | some span => span.2
      | none =>
        if (LayoutVersion.ofHeader? bytes).any (·.isSupported) then LayoutVersion.headerSize else 0 := by
  rw [Scan.trustedEnd]
  cases found.spans.getLast? with
  | some span => rfl
  | none =>
    rcases layout_cases (scan_eq_ok.mp scanned).1 with
      ⟨readable, headed, supported⟩ | ⟨⟨fault, unreadable⟩, -, -, unsupported⟩
    · simp [readable, headed, supported]
    · simp [unreadable, unsupported]

theorem trustedEnd_le {mode : ScanMode} {config : Config} {bytes : List UInt8} {found : Scan}
    (scanned : scan mode config bytes = .ok found) {start tail : Nat}
    (accounts : found.Accounts bytes start tail) : found.trustedEnd ≤ bytes.length := by
  rw [trustedEnd_of_scan scanned]
  cases last : found.spans.getLast? with
  | some span =>
    have listed := found.spans_sublist_ranges.subset (List.mem_of_getLast? last)
    exact Nat.le_trans (accounts.tiles.snd_le span listed) accounts.within
  | none =>
    rcases Nat.lt_or_ge bytes.length LayoutVersion.headerSize with short | long
    · simp [LayoutVersion.ofHeader?_of_short short]
    · dsimp only
      split_ifs
      · exact long
      · exact Nat.zero_le _

theorem bytes_accounted_once {υ : Type} [Visitor υ] {mode : ScanMode} {config : Config}
    {bytes : List UInt8} {visitor after : υ} {found : Scan} (accepts : Visitor.Accepts visitor)
    (scanned : scanInto mode config bytes visitor = (after, .ok found)) :
    after = (Visitor.onClose found.firstError (Visitor.fed found.version found.records visitor)).1 ∧
    found.mode = mode ∧
    (found.ranges.Perm (found.spans ++ found.skipped) ∧ found.spans.Sublist found.ranges ∧
      found.skipped.Sublist found.ranges) ∧
    (∃ tail, found.Accounts bytes (min LayoutVersion.headerSize bytes.length) tail ∧
      ∀ offset, min LayoutVersion.headerSize bytes.length ≤ offset → offset < bytes.length →
        found.spans.countP (covers offset) + found.skipped.countP (covers offset) +
          (if tail ≤ offset then 1 else 0) = 1) ∧
    found.recordsConsumed = found.spans.length ∧
    (found.trustedEnd =
      match found.spans.getLast? with
      | some span => span.2
      | none =>
        if (LayoutVersion.ofHeader? bytes).any (·.isSupported) then LayoutVersion.headerSize
        else 0) ∧
    found.trustedEnd ≤ bytes.length ∧
    (found.recoveryInvoked = true ↔ mode = .recovery ∧ found.firstError ≠ none) := by
  have parsed : scan mode config bytes = .ok found := scan_of_scanInto scanned
  obtain ⟨laidOut, same, -⟩ := scan_eq_ok.mp parsed
  have headed : mode = .strict → found.headerFault = none := by
    rintro rfl
    rcases layout_cases laidOut with ⟨readable, -⟩ | ⟨-, recovering, -⟩
    · exact readable
    · contradiction
  obtain ⟨rest, stands, trace⟩ := trace_of_scan parsed
  obtain ⟨tail, accounts⟩ := accounts_of_trace headed trace stands (Nat.min_le_right ..)
  subst same
  have taken := scanInto_of_scan accepts parsed
  refine ⟨congrArg Prod.fst (scanned.symm.trans taken), rfl, ⟨found.ranges_perm,
    found.spans_sublist_ranges, found.skipped_sublist_ranges⟩, ⟨tail, accounts, ?_⟩,
    accounts.encoded.length_eq, trustedEnd_of_scan parsed, trustedEnd_le parsed accounts, ?_⟩
  · exact fun offset beyond _ => accounts.once beyond
  · simp [Scan.recoveryInvoked, Option.isSome_iff_ne_none]

theorem bytes_accounted_once_garbage :
    ∃ after found tail, scanInto .recovery .standard
        [0xFF, 0xFF, 0xFF, 0xDA, 0x63, 0x18, 0, 0, 0, 0, 0, 0, 0, 0, 0, 0, 0, 7,
          0x17, 0, 0, 0, 0, 0, 0, 0, 0, 0, 0, 0, 8, 0xFF] Collection.empty = (after, .ok found) ∧
      found.spans = [(5, 18), (18, 31)] ∧ found.skipped = [(4, 5)] ∧
      found.Accounts [0xFF, 0xFF, 0xFF, 0xDA, 0x63, 0x18, 0, 0, 0, 0, 0, 0, 0, 0, 0, 0, 0, 7,
        0x17, 0, 0, 0, 0, 0, 0, 0, 0, 0, 0, 0, 8, 0xFF] 4 tail ∧ found.trustedEnd = 31 := by
  cases taken : scanInto .recovery .standard
      [0xFF, 0xFF, 0xFF, 0xDA, 0x63, 0x18, 0, 0, 0, 0, 0, 0, 0, 0, 0, 0, 0, 7,
        0x17, 0, 0, 0, 0, 0, 0, 0, 0, 0, 0, 0, 8, 0xFF] Collection.empty with
  | mk after result =>
    have same : _ = result := congrArg Prod.snd taken
    have known : result.map (fun found => (found.spans, found.skipped)) =
        .ok ([(5, 18), (18, 31)], [(4, 5)]) := by
      rw [← same]
      decide +kernel
    cases result with
    | error error => contradiction
    | ok found =>
      obtain ⟨spans, skipped⟩ := Prod.mk.inj (Except.ok.inj known)
      obtain ⟨-, -, -, ⟨tail, accounts, -⟩, -, trusted, -, -⟩ :=
        bytes_accounted_once (Collection.accepts _) taken
      rw [spans] at trusted
      exact ⟨after, found, tail, rfl, spans, skipped, accounts, trusted⟩

end Segment

end Journal
