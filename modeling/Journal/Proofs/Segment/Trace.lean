import Journal.Proofs.Outcome
import Journal.Proofs.Segment.Walk

/-!
What a walk goes through, as a derivation with one step for each thing that can happen. Walks and their
derivations determine each other, so what is proved along a derivation holds of every scan.
-/

set_option autoImplicit false

namespace Journal

namespace Remainder

def ofList (bytes : List UInt8) : Remainder := .ofInput (.ofList bytes)

@[simp] theorem bytes_ofList (bytes : List UInt8) : (ofList bytes).bytes = bytes := rfl

@[simp] theorem size_ofList (bytes : List UInt8) : (ofList bytes).size = bytes.length := rfl

theorem size_eq (rest : Remainder) : rest.size = rest.bytes.length := rest.input.size_eq

theorem eq_ofList {rest : Remainder} {bytes : List UInt8} (same : rest.bytes = bytes) :
    rest = ofList bytes := by
  obtain ⟨input, fill, rfl⟩ := rest
  obtain rfl : input = .ofList bytes := Input.ext same
  rfl

end Remainder

inductive ScanRules.Trace (rules : ScanRules) :
    (start : Nat) → (last : Option UInt64) → Remainder → List ScanEvent → (marked : Bool) → Prop
  | finished {start : Nat} {last : Option UInt64} {rest : Remainder} {marked : Bool}
      (read : rules.read last rest = .finished marked) : Trace rules start last rest [] marked
  | record {start : Nat} {last : Option UInt64} {rest : Remainder} {record : Record} {size : Nat}
      {events : List ScanEvent} {marked : Bool} (read : rules.read last rest = .record record size)
      (later : Trace rules (start + size) (some record.txid) (rest.drop size) events marked) :
      Trace rules start last rest (.emitted start (start + size) record :: events) marked
  | stopped {start : Nat} {last : Option UInt64} {rest : Remainder} {fault : DecodeFault}
      (strict : rules.mode = .strict) (read : rules.read last rest = .failure fault) :
      Trace rules start last rest [.failed ⟨start, fault⟩] false
  | exhausted {start : Nat} {last : Option UInt64} {rest : Remainder} {fault : DecodeFault}
      (recovering : rules.mode = .recovery) (read : rules.read last rest = .failure fault)
      (lost : rules.resume last rest = none) :
      Trace rules start last rest
        [.failed ⟨start, fault⟩, .skipped start (start + rest.size)] false
  | resumed {start : Nat} {last : Option UInt64} {rest : Remainder} {fault : DecodeFault}
      {passed : Nat} {events : List ScanEvent} {marked : Bool}
      (recovering : rules.mode = .recovery) (read : rules.read last rest = .failure fault)
      (found : rules.resume last rest = some passed)
      (later : Trace rules (start + 1 + passed) last (rest.drop (1 + passed)) events marked) :
      Trace rules start last rest
        (.failed ⟨start, fault⟩ :: .skipped start (start + 1 + passed) :: events) marked

namespace ScanRules

variable {rules : ScanRules}

theorem Trace.walk_eq {start : Nat} {last : Option UInt64} {rest : Remainder}
    {events : List ScanEvent} {marked : Bool} (trace : rules.Trace start last rest events marked)
    (before : Array ScanEvent) :
    rules.walk start last before rest = (before ++ events.toArray, marked) := by
  induction trace generalizing before with
  | finished read => simp [walk_finished read]
  | record read _ ih => simp [walk_record read, ih]
  | stopped strict read => simp [walk_failure strict read]
  | exhausted recovering read lost =>
    rw [walk_exhausted recovering read lost, Array.push_eq_append, Array.push_eq_append,
      Array.append_assoc]
    rfl
  | resumed recovering read found _ ih => simp [walk_resumed recovering read found, ih]

theorem exists_trace (rules : ScanRules) (start : Nat) (last : Option UInt64) (rest : Remainder) :
    ∃ events marked, rules.Trace start last rest events marked := by
  induction length : rest.size using Nat.strongRecOn generalizing start last rest with
  | ind length' ih =>
    cases read : rules.read last rest with
    | finished marked => exact ⟨_, _, .finished read⟩
    | record record size =>
      have bounds := size_of_read read
      obtain ⟨events, marked, later⟩ := ih (rest.drop size).size
        (by rw [Remainder.size_drop]; omega) (start + size) (some record.txid) _ rfl
      exact ⟨_, _, .record read later⟩
    | failure fault =>
      cases mode : rules.mode with
      | strict => exact ⟨_, _, .stopped mode read⟩
      | recovery =>
        cases found : rules.resume last rest with
        | none => exact ⟨_, _, .exhausted mode read found⟩
        | some passed =>
          have filled := size_of_resume found
          obtain ⟨events, marked, later⟩ := ih (rest.drop (1 + passed)).size
            (by rw [Remainder.size_drop]; omega) (start + 1 + passed) last _ rfl
          exact ⟨_, _, .resumed mode read found later⟩

theorem Trace.unique {start : Nat} {last : Option UInt64} {rest : Remainder}
    {events events' : List ScanEvent} {marked marked' : Bool}
    (trace : rules.Trace start last rest events marked)
    (again : rules.Trace start last rest events' marked') : events' = events ∧ marked' = marked := by
  have same := (again.walk_eq #[]).symm.trans (trace.walk_eq #[])
  simpa using same

end ScanRules

namespace Segment

theorem scan_eq_ok {mode : ScanMode} {config : Config} {bytes : List UInt8} {found : Scan} :
    scan mode config bytes = .ok found ↔
      layout mode (.ofList bytes) = .ok (found.version, found.headerFault) ∧ found.mode = mode ∧
        ScanRules.Trace ⟨mode, found.version, config.requireEndMarker, config.resync⟩
          (min LayoutVersion.headerSize bytes.length) none
          (.ofList (bytes.drop LayoutVersion.headerSize)) found.events found.cleanlyClosed := by
  have body : Remainder.ofInput ((Input.ofList bytes).drop LayoutVersion.headerSize) =
      .ofList (bytes.drop LayoutVersion.headerSize) := Remainder.eq_ofList rfl
  have size : (Input.ofList bytes).size = bytes.length := rfl
  rw [scan, bind_eq_ok]
  simp only [body, size, pure_eq_ok]
  constructor
  · rintro ⟨⟨version, headerFault⟩, laidOut, rfl⟩
    obtain ⟨events, marked, trace⟩ := ScanRules.exists_trace
      ⟨mode, version, config.requireEndMarker, config.resync⟩
      (min LayoutVersion.headerSize bytes.length) none
      (.ofList (bytes.drop LayoutVersion.headerSize))
    exact ⟨laidOut, rfl, by simpa [trace.walk_eq] using trace⟩
  · rintro ⟨laidOut, rfl, trace⟩
    exact ⟨_, laidOut, by simp [trace.walk_eq]⟩

theorem trace_of_scan {mode : ScanMode} {config : Config} {bytes : List UInt8} {found : Scan}
    (scanned : scan mode config bytes = .ok found) :
    ∃ rest : Remainder, rest.bytes = bytes.drop (min LayoutVersion.headerSize bytes.length) ∧
      ScanRules.Trace ⟨mode, found.version, config.requireEndMarker, config.resync⟩
        (min LayoutVersion.headerSize bytes.length) none rest found.events found.cleanlyClosed := by
  obtain ⟨-, -, trace⟩ := scan_eq_ok.mp scanned
  refine ⟨_, ?_, trace⟩
  rw [Remainder.bytes_ofList]
  rcases Nat.le_total LayoutVersion.headerSize bytes.length with long | short
  · rw [Nat.min_eq_left long]
  · rw [Nat.min_eq_right short, List.drop_length, List.drop_eq_nil_of_le short]

theorem layout_cases {mode : ScanMode} {bytes : List UInt8} {version : LayoutVersion}
    {headerFault : Option DecodeFault}
    (laidOut : layout mode (.ofList bytes) = .ok (version, headerFault)) :
    (headerFault = none ∧ LayoutVersion.ofHeader? bytes = some version ∧
        version.isSupported = true) ∨
      ((∃ fault, headerFault = some fault) ∧ mode = .recovery ∧ version = .current ∧
        (LayoutVersion.ofHeader? bytes).any (·.isSupported) = false) := by
  have whole : (Input.ofList bytes).bytes = bytes := rfl
  rw [layout, whole] at laidOut
  cases headed : LayoutVersion.ofHeader? bytes with
  | none =>
    rw [headed] at laidOut
    cases mode with
    | strict => contradiction
    | recovery =>
      cases laidOut
      exact .inr ⟨⟨_, rfl⟩, rfl, rfl, rfl⟩
  | some found =>
    simp only [headed] at laidOut
    split at laidOut
    · next supported =>
      cases laidOut
      exact .inl ⟨rfl, rfl, supported⟩
    · next unsupported =>
      cases mode with
      | strict => contradiction
      | recovery =>
        cases laidOut
        exact .inr ⟨⟨_, rfl⟩, rfl, rfl, eq_false_of_ne_true unsupported⟩

theorem supported_of_scan {mode : ScanMode} {config : Config} {bytes : List UInt8} {found : Scan}
    (scanned : scan mode config bytes = .ok found) : found.version.isSupported = true := by
  rcases layout_cases (scan_eq_ok.mp scanned).1 with ⟨-, -, supported⟩ | ⟨-, -, current, -⟩
  · exact supported
  · rw [current]
    decide

theorem layout_of_header {version : LayoutVersion} (supported : version.isSupported = true)
    (mode : ScanMode) (rest : List UInt8) :
    layout mode (.ofList (version.header ++ rest)) = .ok (version, none) := by
  have whole : (Input.ofList (version.header ++ rest)).bytes = version.header ++ rest := rfl
  rw [layout, whole, LayoutVersion.ofHeader?_append]
  exact if_pos supported

theorem scan_of_trace {mode : ScanMode} {config : Config} {version : LayoutVersion}
    (supported : version.isSupported = true) {body : List UInt8} {events : List ScanEvent}
    {marked : Bool}
    (trace : ScanRules.Trace ⟨mode, version, config.requireEndMarker, config.resync⟩
      LayoutVersion.headerSize none (.ofList body) events marked) :
    scan mode config (version.header ++ body) = .ok ⟨mode, version, none, events, marked⟩ := by
  refine scan_eq_ok.mpr ⟨layout_of_header supported mode body, rfl, ?_⟩
  rw [List.length_append, version.length_header, Nat.min_eq_left (Nat.le_add_right ..),
    List.drop_left' version.length_header]
  exact trace

theorem layout_recovery (bytes : List UInt8) :
    ∃ version headerFault, layout .recovery (.ofList bytes) = .ok (version, headerFault) := by
  rw [layout]
  split
  · split <;> exact ⟨_, _, rfl⟩
  · exact ⟨_, _, rfl⟩

def latest (last : Option UInt64) (records : List Record) : Option UInt64 :=
  records.foldl (fun _ record => some record.txid) last

theorem latest_of_getLast? {records : List Record} {record : Record}
    (ends : records.getLast? = some record) (last : Option UInt64) :
    latest last records = some record.txid := by
  obtain ⟨before, rfl⟩ := List.getLast?_eq_some_iff.mp ends
  rw [latest, List.foldl_append]
  rfl

def emitted (events : List ScanEvent) : List Record :=
  events.filterMap fun
    | .emitted _ _ record => some record
    | _ => none

theorem emitted_emissions (version : LayoutVersion) (start : Nat) (records : List Record) :
    emitted (emissions version start records) = records := by
  induction records generalizing start with
  | nil => rfl
  | cons record records ih => exact congrArg (record :: ·) (ih _)

def Undamaged (events : List ScanEvent) : Prop :=
  ∀ event ∈ events, ∃ start stop record, event = .emitted start stop record

theorem undamaged_nil : Undamaged [] := List.forall_mem_nil _

theorem Undamaged.cons {events : List ScanEvent} (undamaged : Undamaged events) (start stop : Nat)
    (record : Record) : Undamaged (.emitted start stop record :: events) :=
  List.forall_mem_cons.mpr ⟨⟨start, stop, record, rfl⟩, undamaged⟩

theorem undamaged_emissions (version : LayoutVersion) (start : Nat) (records : List Record) :
    Undamaged (emissions version start records) := by
  induction records generalizing start with
  | nil => exact undamaged_nil
  | cons record records ih => exact (ih _).cons _ _ record

theorem filterMap_of_undamaged {α : Type} {f : ScanEvent → Option α} {events : List ScanEvent}
    (undamaged : Undamaged events)
    (passed : ∀ start stop record, f (.emitted start stop record) = none) :
    events.filterMap f = [] := by
  refine List.filterMap_eq_nil_iff.mpr fun event member => ?_
  obtain ⟨start, stop, record, rfl⟩ := undamaged event member
  exact passed start stop record

section Undamaged

variable {before : List ScanEvent} (undamaged : Undamaged before) (mode : ScanMode)
  (version : LayoutVersion) (later : List ScanEvent) (closed : Bool)

include undamaged

theorem firstError_of_undamaged :
    Scan.firstError ⟨mode, version, none, before ++ later, closed⟩ =
      Scan.firstError ⟨mode, version, none, later, closed⟩ := by
  simp only [Scan.firstError, Scan.failures, List.filterMap_append]
  rw [filterMap_of_undamaged undamaged fun _ _ _ => rfl]
  rfl

theorem skipped_of_undamaged :
    Scan.skipped ⟨mode, version, none, before ++ later, closed⟩ =
      Scan.skipped ⟨mode, version, none, later, closed⟩ := by
  simp only [Scan.skipped, List.filterMap_append]
  rw [filterMap_of_undamaged undamaged fun _ _ _ => rfl]
  rfl

end Undamaged

theorem filterMap_emissions {α : Type} {f : ScanEvent → Option α}
    (passed : ∀ start stop record, f (.emitted start stop record) = none)
    (version : LayoutVersion) (start : Nat) (records : List Record) :
    (emissions version start records).filterMap f = [] :=
  filterMap_of_undamaged (undamaged_emissions version start records) passed

theorem laid_append {version : LayoutVersion} {last : Option UInt64} {first second : List Record}
    {bytes : List UInt8} :
    Laid version last (first ++ second) bytes ↔ ∃ front back, bytes = front ++ back ∧
      Laid version last first front ∧ Laid version (latest last first) second back := by
  induction first generalizing last bytes with
  | nil =>
    constructor
    · intro laid
      exact ⟨[], bytes, rfl, .nil, laid⟩
    · rintro ⟨front, back, rfl, none, laid⟩
      cases none
      exact laid
  | cons record first ih =>
    constructor
    · intro laid
      cases laid with
      | cons encoded later laid =>
        obtain ⟨front, back, rfl, before, after⟩ := ih.mp laid
        exact ⟨_, back, (List.append_assoc ..).symm, .cons encoded later before, after⟩
    · rintro ⟨front, back, rfl, before, after⟩
      cases before with
      | cons encoded later before =>
        rw [List.append_assoc]
        exact .cons encoded later (ih.mpr ⟨_, back, rfl, before, after⟩)

theorem Laid.weaken {version : LayoutVersion} {last earlier : Option UInt64}
    {records : List Record} {bytes : List UInt8} (laid : Laid version last records bytes)
    (weaker : ∀ txid, follows last txid = true → follows earlier txid = true) :
    Laid version earlier records bytes := by
  cases laid with
  | nil => exact .nil
  | cons encoded later laid => exact .cons encoded (weaker _ later) laid

def stopOf (version : LayoutVersion) : (start : Nat) → List Record → Nat
  | start, [] => start
  | start, record :: records =>
    stopOf version (start + Record.encodedLength record.operation.body.length version) records

theorem stopOf_append (version : LayoutVersion) (start : Nat) (first second : List Record) :
    stopOf version start (first ++ second) = stopOf version (stopOf version start first) second := by
  induction first generalizing start with
  | nil => rfl
  | cons record first ih => exact ih _

def offsetAfter (version : LayoutVersion) (records : List Record) : Nat :=
  stopOf version LayoutVersion.headerSize records

theorem Laid.stop {version : LayoutVersion} {last : Option UInt64} {records : List Record}
    {bytes : List UInt8} (laid : Laid version last records bytes) (start : Nat) :
    start + bytes.length = stopOf version start records := by
  induction laid generalizing start with
  | nil => rfl
  | cons encoded _ _ ih =>
    rw [List.length_append, stopOf, ← Record.length_encode encoded, ← ih, Nat.add_assoc]

theorem Laid.offset {version : LayoutVersion} {last : Option UInt64} {records : List Record}
    {bytes : List UInt8} (laid : Laid version last records bytes) :
    (version.header ++ bytes).length = offsetAfter version records := by
  rw [List.length_append, version.length_header, laid.stop, offsetAfter]

theorem Laid.trace {rules : ScanRules} {version : LayoutVersion} {last : Option UInt64}
    {records : List Record} {bytes tail : List UInt8} (laid : Laid version last records bytes)
    (same : rules.version = version) {start : Nat} {rest : Remainder}
    (stands : rest.bytes = bytes ++ tail) {events : List ScanEvent} {marked : Bool}
    (later : rules.Trace (start + bytes.length) (latest last records) (.ofList tail) events
      marked) :
    rules.Trace start last rest (emissions version start records ++ events) marked := by
  induction laid generalizing start rest with
  | nil =>
    rw [Remainder.eq_ofList stands]
    exact later
  | @cons last record records bytes others encoded follow laid ih =>
    rw [List.append_assoc] at stands
    have read : rules.read last rest = .record record bytes.length := by
      subst same
      exact ScanRules.read_eq_record.mpr ⟨Record.decodeInput_of_encode encoded stands, follow⟩
    rw [List.length_append, ← Nat.add_assoc] at later
    have beyond : (rest.drop bytes.length).bytes = others ++ tail := by
      rw [Remainder.bytes_drop, stands, List.drop_left]
    rw [emissions, ← Record.length_encode encoded]
    exact .record read (ih beyond later)

theorem trace_of_fill {rules : ScanRules} {fill : Nat}
    (enough : rules.mode = .strict → rules.requireEndMarker = true → 1 ≤ fill) (start : Nat)
    (last : Option UInt64) :
    rules.Trace start last (.ofList (List.replicate fill Opcode.fillByte)) []
      (decide (1 ≤ fill)) :=
  .finished (ScanRules.read_eq_finished.mpr ⟨fill, rfl, rfl, enough⟩)

theorem walk_of_laid {version : LayoutVersion} {last : Option UInt64} {records : List Record}
    {bytes : List UInt8} (laid : Laid version last records bytes) {rules : ScanRules}
    (same : rules.version = version) {fill : Nat}
    (enough : rules.requireEndMarker = true → 1 ≤ fill) {rest : Remainder}
    (stands : rest.bytes = bytes ++ List.replicate fill Opcode.fillByte) (start : Nat)
    (events : Array ScanEvent) :
    rules.walk start last events rest =
      (events ++ (emissions version start records).toArray, decide (1 ≤ fill)) := by
  have trace := laid.trace same stands (trace_of_fill (fun _ => enough) (start + bytes.length) _)
  rw [trace.walk_eq, List.append_nil]

theorem laid_of_trace {rules : ScanRules} (strict : rules.mode = .strict) {start : Nat}
    {last : Option UInt64} {rest : Remainder} {events : List ScanEvent} {marked : Bool}
    (trace : rules.Trace start last rest events marked) :
    (∃ error, .failed error ∈ events) ∨
      ∃ records bytes fill, Laid rules.version last records bytes ∧
        rest.bytes = bytes ++ List.replicate fill Opcode.fillByte ∧
        (rules.requireEndMarker = true → 1 ≤ fill) := by
  induction trace with
  | finished read =>
    obtain ⟨fill, stands, -, enough⟩ := ScanRules.read_eq_finished.mp read
    exact .inr ⟨[], [], fill, .nil, stands, enough strict⟩
  | @record _ _ rest record size _ _ read _ ih =>
    obtain ⟨decoded, later⟩ := ScanRules.read_eq_record.mp read
    rcases ih with ⟨error, member⟩ | ⟨records, bytes, fill, laid, stands, enough⟩
    · exact .inl ⟨error, List.mem_cons_of_mem _ member⟩
    · refine .inr ⟨record :: records, rest.bytes.take size ++ bytes, fill,
        .cons (Record.encode_of_decodeInput decoded) later laid, ?_, enough⟩
      rw [List.append_assoc, ← stands, Remainder.bytes_drop, List.take_append_drop]
  | stopped => exact .inl ⟨_, List.mem_cons_self⟩
  | exhausted => exact .inl ⟨_, List.mem_cons_self⟩
  | resumed => exact .inl ⟨_, List.mem_cons_self⟩

theorem laid_emitted {rules : ScanRules} {start : Nat} {last : Option UInt64} {rest : Remainder}
    {events : List ScanEvent} {marked : Bool} (trace : rules.Trace start last rest events marked) :
    ∃ bytes, Laid rules.version last (emitted events) bytes := by
  induction trace with
  | record read _ ih =>
    obtain ⟨decoded, later⟩ := ScanRules.read_eq_record.mp read
    obtain ⟨bytes, laid⟩ := ih
    exact ⟨_, .cons (Record.encode_of_decodeInput decoded) later laid⟩
  | resumed _ _ _ _ ih => exact ih
  | finished | stopped | exhausted => exact ⟨[], .nil⟩

theorem laid_of_walk {rules : ScanRules} (strict : rules.mode = .strict) (start : Nat)
    (last : Option UInt64) (events : Array ScanEvent) (rest : Remainder) :
    (∃ error, .failed error ∈ (rules.walk start last events rest).1.toList) ∨
      ∃ records bytes fill, Laid rules.version last records bytes ∧
        rest.bytes = bytes ++ List.replicate fill Opcode.fillByte ∧
        (rules.requireEndMarker = true → 1 ≤ fill) := by
  obtain ⟨later, marked, trace⟩ := rules.exists_trace start last rest
  rw [trace.walk_eq]
  rcases laid_of_trace strict trace with ⟨error, member⟩ | clean
  · exact .inl ⟨error, by simp [member]⟩
  · exact .inr clean

end Segment

end Journal
