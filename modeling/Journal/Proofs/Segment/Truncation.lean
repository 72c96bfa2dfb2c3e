import Journal.Proofs.Codec.Stability
import Journal.Proofs.Segment.Resync
import Journal.Proofs.Segment.Session
import Journal.Proofs.Visitor

set_option autoImplicit false

namespace Journal

open Segment

theorem Segment.RunOf.eq_nil {version : LayoutVersion} {needed fill : Nat} {last : Option UInt64}
    {run : List Record} (stands : RunOf version needed last run (List.replicate fill Opcode.fillByte)) :
    run = [] := by
  obtain ⟨_, tail, filled, laid, -⟩ := stands
  cases laid with
  | nil => rfl
  | @cons _ record _ encoding others encoded =>
    rw [List.append_assoc] at filled
    exact absurd filled.symm (Record.ne_fill_of_head (Record.head_encode encoded _) fill)

theorem Segment.RunOf.fill_of_nil {version : LayoutVersion} {needed : Nat} {last : Option UInt64}
    {bytes : List UInt8} (stands : RunOf version needed last [] bytes) (positive : 1 ≤ needed) :
    ∃ fill, bytes = List.replicate (fill + 1) Opcode.fillByte := by
  obtain ⟨_, tail, rfl, laid, enough⟩ := stands
  cases laid
  exact enough.resolve_left (Nat.not_le.mpr positive)

/-- From `stop` on, or from a place on that a search from `stop` gets to, there is nothing but fill. -/
def Segment.FillNear (window stop : Nat) (bytes : List UInt8) : Prop :=
  ∃ offset fill, stop ≤ offset ∧ offset ≤ stop + window ∧
    bytes.drop offset = List.replicate (fill + 1) Opcode.fillByte

theorem Segment.FillNear.getLast? {window stop : Nat} {bytes : List UInt8}
    (near : FillNear window stop bytes) : bytes.getLast? = some Opcode.fillByte := by
  obtain ⟨offset, fill, -, -, filled⟩ := near
  have last : (bytes.drop offset).getLast? = some Opcode.fillByte := by
    rw [filled, List.replicate_succ', List.getLast?_concat]
  rw [List.getLast?_drop] at last
  split at last
  · contradiction
  · exact last

def Segment.lastStop (start : Nat) (events : List ScanEvent) : Nat :=
  events.foldl (fun stop event =>
    match event with
    | .emitted _ next _ => next
    | _ => stop) start

theorem Segment.lastStop_append (start : Nat) (before after : List ScanEvent) :
    lastStop start (before ++ after) = lastStop (lastStop start before) after :=
  List.foldl_append

theorem Segment.lastStop_emissions (version : LayoutVersion) (start : Nat) (records : List Record) :
    lastStop start (emissions version start records) = stopOf version start records := by
  induction records generalizing start with
  | nil => rfl
  | cons record records ih => exact ih _

theorem Segment.lastStop_of_none {events : List ScanEvent} (none : emitted events = [])
    (start : Nat) : lastStop start events = start := by
  induction events with
  | nil => rfl
  | cons event events ih =>
    cases event with
    | emitted => contradiction
    | failed => exact ih none
    | skipped => exact ih none

theorem Segment.lastStop_of_some {events : List ScanEvent} (some : emitted events ≠ [])
    (start other : Nat) : lastStop start events = lastStop other events := by
  induction events with
  | nil => contradiction
  | cons event events ih =>
    cases event with
    | emitted => rfl
    | failed => exact ih some
    | skipped => exact ih some

theorem Scan.trustedEnd_eq_lastStop (mode : ScanMode) (version : LayoutVersion)
    (events : List ScanEvent) (closed : Bool) :
    Scan.trustedEnd ⟨mode, version, none, events, closed⟩ =
      lastStop LayoutVersion.headerSize events := by
  have found (start : Nat) :
      ((Scan.spans ⟨mode, version, none, events, closed⟩).getLast?.map Prod.snd).getD start =
        lastStop start events := by
    induction events generalizing start with
    | nil => rfl
    | cons event events ih =>
      cases event with
      | emitted first stop record =>
        have spans : Scan.spans ⟨mode, version, none, .emitted first stop record :: events, closed⟩ =
            (first, stop) :: Scan.spans ⟨mode, version, none, events, closed⟩ := rfl
        rw [spans, List.getLast?_cons, Option.map_some, Option.getD_some, lastStop, List.foldl_cons]
        refine Eq.trans ?_ (ih stop)
        cases (Scan.spans ⟨mode, version, none, events, closed⟩).getLast? <;> rfl
      | failed => exact ih start
      | skipped => exact ih start
  rw [← found, Scan.trustedEnd]
  cases (Scan.spans ⟨mode, version, none, events, closed⟩).getLast? <;> rfl

namespace ScanRules

variable {rules : ScanRules} {start : Nat} {last : Option UInt64} {rest : Remainder}
  {events : List ScanEvent} {marked : Bool}

theorem not_fillNear_of_exhausted (recovering : rules.mode = .recovery) {bytes : List UInt8}
    (stands : rest.bytes = bytes.drop start) {fault : DecodeFault}
    (read : rules.read last rest = .failure fault) (lost : rules.resume last rest = none) :
    ¬ FillNear rules.resync.window start bytes := by
  rintro ⟨offset, fill, beyond, near, filled⟩
  obtain ⟨passed, rfl⟩ := Nat.exists_eq_add_of_le beyond
  cases passed with
  | zero =>
    -- Where there is fill nothing fails.
    have ended : rules.read last rest = .finished true :=
      read_eq_finished.mpr ⟨fill + 1, stands.trans filled, by simp, fun _ _ => by omega⟩
    rw [read] at ended
    contradiction
  | succ passed =>
    have length := congrArg List.length filled
    rw [List.length_drop, List.length_replicate] at length
    have within : passed < rules.reach rest := (lt_reach_iff stands).mpr (by omega)
    rw [Nat.add_comm passed, ← List.drop_drop, ← stands] at filled
    exact of_resume_eq_none recovering lost passed within [] ⟨[], _, filled, .nil, .inr ⟨fill, rfl⟩⟩

theorem fillNear_of_resumed (recovering : rules.mode = .recovery) (positive : 1 ≤ rules.resync.run)
    {bytes : List UInt8} (stands : rest.bytes = bytes.drop start) {passed : Nat}
    (found : rules.resume last rest = some passed)
    (later : rules.Trace (start + 1 + passed) last (rest.drop (1 + passed)) events marked)
    (none : emitted events = []) : marked = true ∧ FillNear rules.resync.window start bytes := by
  obtain ⟨within, ⟨run, runs⟩, -⟩ := of_resume_eq_some recovering found
  rw [lt_reach_iff stands] at within
  rw [← Remainder.bytes_drop] at runs
  obtain ⟨more, rfl, ended⟩ := runs.trace later
  rw [emitted, List.filterMap_append] at none
  obtain ⟨unrun, -⟩ := List.append_eq_nil_iff.mp none
  obtain rfl : run = [] := (emitted_emissions ..).symm.trans unrun
  obtain ⟨fill, filled⟩ := runs.fill_of_nil positive
  rw [Remainder.bytes_drop, stands, List.drop_drop, ← Nat.add_assoc] at filled
  exact ⟨(ended positive).2, start + 1 + passed, fill, by omega, by omega, filled⟩

theorem Trace.marked_iff (trace : rules.Trace start last rest events marked)
    (recovering : rules.mode = .recovery) (positive : 1 ≤ rules.resync.run) {bytes : List UInt8}
    (stands : rest.bytes = bytes.drop start) :
    marked = true ↔ FillNear rules.resync.window (lastStop start events) bytes := by
  -- After a skip the last record has ended before it, unless there is a later one.
  induction trace with
  | @finished start _ _ _ read =>
    obtain ⟨fill, filled, rfl, -⟩ := read_eq_finished.mp read
    rw [stands] at filled
    rw [decide_eq_true_iff]
    constructor
    · intro some
      obtain ⟨fewer, rfl⟩ := Nat.exists_eq_add_of_le' some
      exact ⟨start, fewer, Nat.le_refl _, Nat.le_add_right .., filled⟩
    · rintro ⟨offset, fewer, beyond, -, same⟩
      obtain ⟨more, rfl⟩ := Nat.exists_eq_add_of_le beyond
      have length := congrArg List.length same
      rw [lastStop, List.foldl_nil, ← List.drop_drop, filled, List.drop_replicate,
        List.length_replicate, List.length_replicate] at length
      omega
  | record _ _ ih => exact ih (by rw [Remainder.bytes_drop, stands, List.drop_drop])
  | stopped strict =>
    rw [recovering] at strict
    contradiction
  | exhausted _ read lost =>
    exact iff_of_false Bool.false_ne_true (not_fillNear_of_exhausted recovering stands read lost)
  | @resumed start _ _ fault passed events _ _ _ found later ih =>
    by_cases none : emitted events = []
    · obtain ⟨closed, near⟩ := fillNear_of_resumed recovering positive stands found later none
      have skipped : lastStop start (.failed ⟨start, fault⟩ ::
          .skipped start (start + 1 + passed) :: events) = start := lastStop_of_none none start
      rw [skipped]
      exact iff_of_true closed near
    · have skipped : lastStop start (.failed ⟨start, fault⟩ ::
          .skipped start (start + 1 + passed) :: events) = lastStop (start + 1 + passed) events :=
        lastStop_of_some none start _
      rw [skipped]
      exact ih (by rw [Remainder.bytes_drop, stands, List.drop_drop, Nat.add_assoc])

structure Unread (rules : ScanRules) (start : Nat) (last : Option UInt64) (rest : Remainder)
    (events : List ScanEvent) (marked : Bool) : Prop where
  recovering : rules.mode = .recovery
  unread : rules.read last rest = .finished false ∨ ∃ fault, rules.read last rest = .failure fault
  trace : rules.Trace start last rest events marked

theorem unread_of_nil (recovering : rules.mode = .recovery) (past : rest.bytes = []) :
    rules.Unread start last rest [] false := by
  have read : rules.read last rest = .finished false :=
    read_eq_finished.mpr ⟨0, past, rfl, by simp [recovering]⟩
  exact ⟨recovering, .inl read, .finished read⟩

namespace Unread

variable (left : rules.Unread start last rest events marked)

include left

theorem lost_or_resumed :
    (emitted events = [] ∧ marked = false ∧ ∀ passed < rules.reach rest, ∀ run,
        RunOf rules.version rules.resync.run last run (rest.bytes.drop (1 + passed)) → run = []) ∨
      ∃ passed later, rules.resume last rest = some passed ∧ emitted events = emitted later ∧
        rules.Trace (start + 1 + passed) last (rest.drop (1 + passed)) later marked := by
  obtain ⟨recovering, unread, trace⟩ := left
  cases trace with
  | finished read =>
    left
    rcases unread with ended | ⟨fault, failed⟩
    · rw [read] at ended
      obtain rfl := Reading.finished.inj ended
      refine ⟨rfl, rfl, fun passed _ run stands => ?_⟩
      obtain ⟨fill, filled, -⟩ := read_eq_finished.mp read
      rw [filled, List.drop_replicate] at stands
      exact stands.eq_nil
    · rw [read] at failed
      contradiction
  | record read => simp [read] at unread
  | stopped strict =>
    rw [recovering] at strict
    contradiction
  | exhausted _ _ lost =>
    exact .inl ⟨rfl, rfl, fun passed less run stands =>
      absurd stands (of_resume_eq_none recovering lost passed less run)⟩
  | @resumed _ _ _ _ passed events _ _ _ found later =>
    exact .inr ⟨passed, events, found, rfl, later⟩

theorem unmarked_of_past (past : rest.bytes = []) : marked = false := by
  rcases left.lost_or_resumed with ⟨-, unmarked, -⟩ | ⟨passed, _, found, -⟩
  · exact unmarked
  · obtain ⟨within, -⟩ := of_resume_eq_some left.recovering found
    rw [reach, Remainder.size_eq, past] at within
    simp at within

theorem emitted_eq_nil (positive : 1 ≤ rules.resync.run) :
    emitted events = [] ↔ ∀ passed < rules.reach rest, ∀ run,
      RunOf rules.version rules.resync.run last run (rest.bytes.drop (1 + passed)) → run = [] := by
  rcases left.lost_or_resumed with ⟨none, -, untrusted⟩ | ⟨passed, later, found, same, onward⟩
  · exact iff_of_true none untrusted
  · obtain ⟨within, ⟨run, stands⟩, before⟩ := of_resume_eq_some left.recovering found
    rw [← Remainder.bytes_drop] at stands
    obtain ⟨more, rfl, ended⟩ := stands.trace onward
    have records : emitted events = run ++ emitted more := by
      rw [same, emitted, List.filterMap_append]
      exact congrArg (· ++ _) (emitted_emissions ..)
    rw [records]
    constructor
    · intro none other less run' stands'
      obtain ⟨rfl, -⟩ := List.append_eq_nil_iff.mp none
      obtain ⟨fill, filled⟩ := stands.fill_of_nil positive
      -- Before the place that was found no run stands, and after it there is only fill.
      by_cases earlier : other < passed
      · exact absurd stands' (before other earlier run')
      · obtain ⟨beyond, rfl⟩ := Nat.exists_eq_add_of_le (Nat.not_lt.mp earlier)
        rw [← Nat.add_assoc, ← List.drop_drop, ← Remainder.bytes_drop, filled,
          List.drop_replicate] at stands'
        exact stands'.eq_nil
    · intro untrusted
      obtain rfl := untrusted passed within run stands
      rw [(ended positive).1]
      rfl

end Unread

end ScanRules

namespace Segment

def fits (cut : Nat) : ScanEvent → Option Record
  | .emitted _ stop record => if stop ≤ cut then some record else none
  | _ => none

def wholeRecords (version : LayoutVersion) (cut : Nat) (records : List Record) : List Record :=
  (emissions version LayoutVersion.headerSize records).filterMap (fits cut)

theorem fits_beyond {version : LayoutVersion} {start cut : Nat} (beyond : cut < start)
    (records : List Record) : (emissions version start records).filterMap (fits cut) = [] := by
  induction records generalizing start with
  | nil => rfl
  | cons record records ih =>
    have past : ¬ start + Record.encodedLength record.operation.body.length version ≤ cut := by
      omega
    simp only [emissions, List.filterMap_cons, fits, if_neg past]
    exact ih (Nat.not_le.mp past)

theorem split_at_cut {version : LayoutVersion} {start cut : Nat} (reached : start ≤ cut)
    (records : List Record) :
    ∃ before after, records = before ++ after ∧
      (emissions version start records).filterMap (fits cut) = before ∧
      stopOf version start before ≤ cut ∧
      ∀ record ∈ after.head?, cut < stopOf version start (before ++ [record]) := by
  induction records generalizing start with
  | nil => exact ⟨[], [], rfl, rfl, reached, nofun⟩
  | cons record records ih =>
    by_cases fit : start + Record.encodedLength record.operation.body.length version ≤ cut
    · obtain ⟨before, after, rfl, whole, within, beyond⟩ := ih fit
      refine ⟨record :: before, after, rfl, ?_, within, beyond⟩
      simp only [emissions, List.filterMap_cons, fits, if_pos fit]
      exact congrArg (record :: ·) whole
    · have past := Nat.not_le.mp fit
      refine ⟨[], record :: records, rfl, ?_, reached, fun _ first => ?_⟩
      · simp only [emissions, List.filterMap_cons, fits, if_neg fit]
        exact fits_beyond past records
      · cases first
        exact past

theorem Written.length_take {version : LayoutVersion} {records : List Record} {fill cut : Nat}
    {bytes : List UInt8} (written : Written version records fill bytes)
    (kept : cut ≤ offsetAfter version records) : (bytes.take cut).length = cut := by
  rw [List.length_take_of_le]
  rw [written.length_eq]
  omega

theorem Written.cut {version : LayoutVersion} {records : List Record} {fill cut : Nat}
    {bytes : List UInt8} (written : Written version records fill bytes)
    (headed : LayoutVersion.headerSize ≤ cut) (kept : cut ≤ offsetAfter version records) :
    ∃ front tail, Laid version none (wholeRecords version cut records) front ∧
      bytes.take cut = version.header ++ front ++ tail ∧
      (tail = [] ∨ ∃ (record : Record) (encoding : List UInt8) (count : Nat),
        record.encode version = .ok encoding ∧ 0 < count ∧ count < encoding.length ∧
          tail = encoding.take count) := by
  obtain ⟨before, after, rfl, whole, within, beyond⟩ := @split_at_cut version _ _ headed records
  obtain ⟨-, _, laid, rfl⟩ := written_iff.mp written
  obtain ⟨front, back, rfl, earlier, others⟩ := laid_append.mp laid
  obtain ⟨count, rfl⟩ := Nat.exists_eq_add_of_le within
  have start : (version.header ++ front).length = stopOf version LayoutVersion.headerSize before :=
    earlier.offset
  rw [offsetAfter, stopOf_append] at kept
  rw [wholeRecords, whole, ← List.append_assoc, List.append_assoc, ← start,
    List.take_length_add_append]
  refine ⟨front, _, earlier, rfl, ?_⟩
  cases others with
  | nil =>
    rw [stopOf] at kept
    left
    rw [show count = 0 by omega, List.take_zero]
  | @cons _ record _ encoding later encoded =>
    have short := beyond record rfl
    rw [stopOf_append, stopOf, stopOf, ← Record.length_encode encoded] at short
    rw [List.append_assoc, List.take_append_of_le_length (by omega)]
    cases count with
    | zero => exact .inl rfl
    | succ count => exact .inr ⟨record, encoding, _, encoded, Nat.succ_pos count, by omega, rfl⟩

theorem scan_of_headless {bytes : List UInt8} (headless : bytes.length ≤ LayoutVersion.headerSize)
    (config : Config) :
    ∃ scan, Segment.scan .recovery config bytes = .ok scan ∧ scan.records = [] ∧
      scan.cleanlyClosed = false := by
  obtain ⟨assumed, headerFault, laidOut⟩ := layout_recovery bytes
  have past := List.drop_eq_nil_of_le headless
  refine ⟨⟨.recovery, assumed, headerFault, [], false⟩, scan_eq_ok.mpr ⟨laidOut, rfl, ?_⟩, rfl, rfl⟩
  rw [past]
  exact .finished (ScanRules.read_eq_finished.mpr ⟨0, rfl, rfl, nofun⟩)

theorem unread_of_cut {rules : ScanRules} (recovering : rules.mode = .recovery)
    {encoding : List UInt8} {record : Record} {count : Nat}
    (encoded : record.encode rules.version = .ok encoding) (filled : 0 < count)
    (short : count < encoding.length) (start : Nat) (last : Option UInt64) :
    ∃ events marked, rules.Unread start last (.ofList (encoding.take count)) events marked := by
  obtain ⟨needed, -, undecoded⟩ := Record.decodeInput_of_cut encoded short
  obtain ⟨fault, read⟩ := @ScanRules.read_failure rules (.ofList (encoding.take count)) _ undecoded
    (Record.ne_fill_of_head (Record.head_take encoded filled)) last
  obtain ⟨events, marked, trace⟩ := rules.exists_trace start last (.ofList (encoding.take count))
  exact ⟨events, marked, recovering, .inr ⟨fault, read⟩, trace⟩

theorem scan_of_cut {version : LayoutVersion} {records : List Record} {fill cut : Nat}
    {bytes : List UInt8} (written : Written version records fill bytes)
    (kept : cut ≤ offsetAfter version records) (config : Config) :
    let whole := wholeRecords version cut records
    ∃ scan later, Segment.scan .recovery config (bytes.take cut) = .ok scan ∧
      scan.records = whole ++ emitted later ∧
      ScanRules.Unread ⟨.recovery, version, config.requireEndMarker, config.resync⟩
        (offsetAfter version whole) (latest none whole)
        (.ofList ((bytes.take cut).drop (offsetAfter version whole))) later scan.cleanlyClosed ∧
      (LayoutVersion.headerSize ≤ cut →
        scan.trustedEnd = lastStop (offsetAfter version whole) later) := by
  intro whole
  let rules : ScanRules := ⟨.recovery, version, config.requireEndMarker, config.resync⟩
  by_cases headed : LayoutVersion.headerSize ≤ cut
  · obtain ⟨front, tail, laid, stands, left⟩ := written.cut headed kept
    have beyond : (bytes.take cut).drop (offsetAfter version whole) = tail := by
      rw [stands, List.drop_left' laid.offset]
    have ⟨later, marked, unread⟩ : ∃ later marked,
        rules.Unread (offsetAfter version whole) (latest none whole) (.ofList tail) later
          marked := by
      rcases left with rfl | ⟨record, encoding, count, encoded, filled, short, rfl⟩
      · exact ⟨[], false, ScanRules.unread_of_nil rfl rfl⟩
      · exact @unread_of_cut rules rfl encoding record count encoded filled short _ _
    have trace := unread.trace
    rw [offsetAfter, ← laid.stop] at trace
    have scanned := scan_of_trace written.supported (laid.trace rfl rfl trace)
    rw [← List.append_assoc, ← stands] at scanned
    rw [beyond]
    refine ⟨_, later, scanned, ?_, unread, fun _ => ?_⟩
    · rw [Scan.records, List.filterMap_append]
      exact congrArg (· ++ _) (emitted_emissions ..)
    · rw [Scan.trustedEnd_eq_lastStop, lastStop_append, lastStop_emissions, offsetAfter]
  · have short := Nat.not_le.mp headed
    have none : whole = [] := fits_beyond short records
    have headless : (bytes.take cut).length ≤ LayoutVersion.headerSize :=
      Nat.le_trans (List.length_take_le ..) (Nat.le_of_lt short)
    obtain ⟨scan, scanned, unrecorded, unclosed⟩ := scan_of_headless headless config
    rw [none]
    refine ⟨scan, [], scanned, unrecorded, ?_, fun headed' => absurd headed' headed⟩
    rw [unclosed]
    exact ScanRules.unread_of_nil rfl (List.drop_eq_nil_of_le headless)

theorem closes_single (record : Record)
    (short : record.operation.body.length ≤ Record.maxBodyLength) :
    SegmentWriter.Closes .standard [record]
      (LayoutVersion.checksummed.header ++
        Record.withChecksum .checksummed (record.unchecked record.operation.body) ++
        [Opcode.fillByte]) := by
  have encoded : record.encode .checksummed = .ok _ := Record.encode_eq_ok.mpr ⟨short, rfl⟩
  have laid : Laid .checksummed none [record] _ := .cons encoded rfl .nil
  rw [List.append_nil] at laid
  exact .of_written rfl (written_iff.mpr ⟨rfl, _, laid, rfl⟩)

/-- The whole records are recovered, and others only if a run with records stands in what is left of the
record at the cut, at one of the places that are searched. -/
theorem recovery_of_cut {config reading : Config} (positive : 1 ≤ reading.resync.run)
    {records : List Record} {bytes : List UInt8}
    (closes : SegmentWriter.Closes config records bytes) {cut : Nat}
    (kept : cut ≤ offsetAfter config.layoutVersion records) :
    let whole := wholeRecords config.layoutVersion cut records
    let start := offsetAfter config.layoutVersion whole
    ∃ scan others,
      Segment.readAll .recovery reading (bytes.take cut) = .ok (whole ++ others, scan) ∧
      (others = [] ↔ ∀ offset, start < offset →
        offset < min cut (start + 1 + reading.resync.window) → ∀ run,
        RunOf config.layoutVersion reading.resync.run (latest none whole) run
          ((bytes.take cut).drop offset) → run = []) := by
  intro whole start
  obtain ⟨fill, written⟩ := closes.written
  obtain ⟨scan, later, scanned, records, left, -⟩ := scan_of_cut written kept reading
  have read := readAll_of_scan scanned
  rw [records] at read
  have trusted := (left.emitted_eq_nil positive).trans (ScanRules.forall_lt_reach rfl fun rest =>
    ∀ run, RunOf config.layoutVersion reading.resync.run (latest none whole) run rest → run = [])
  rw [written.length_take kept] at trusted
  exact ⟨scan, emitted later, read, trusted⟩

theorem recovery_of_cut_inside :
    ∃ scan, Segment.readAll .recovery .standard
        (List.take 30 [0xFF, 0xFF, 0xFF, 0xD8,
          0x18, 0, 0, 0, 0, 0, 0, 0, 0, 0, 0, 0, 6, 8, 0x13, 0x96, 0,
          0x17, 0, 0, 0, 0, 0, 0, 0, 0, 0, 0, 0, 8, 0xC8, 0xDB, 0x6E, 0x32, 0xFF]) =
      .ok ([⟨6, .startSegment⟩], scan) := by
  have written : Written .checksummed [⟨6, .startSegment⟩, ⟨8, .endSegment⟩] 1
      [0xFF, 0xFF, 0xFF, 0xD8,
        0x18, 0, 0, 0, 0, 0, 0, 0, 0, 0, 0, 0, 6, 8, 0x13, 0x96, 0,
        0x17, 0, 0, 0, 0, 0, 0, 0, 0, 0, 0, 0, 8, 0xC8, 0xDB, 0x6E, 0x32, 0xFF] :=
    ⟨by decide, by decide, by decide +kernel⟩
  have closes : SegmentWriter.Closes .standard _ _ := .of_written rfl written
  obtain ⟨scan, others, read, alone⟩ :=
    @recovery_of_cut .standard .standard (by decide) _ _ closes 30 (by decide)
  obtain rfl : others = [] := by
    refine alone.mpr fun offset more less run stands => ?_
    have untrusted : ∀ offset < 30, 21 < offset → confirmsRun .checksummed 2 (some 6)
        (.ofList (List.drop offset [0xFF, 0xFF, 0xFF, 0xD8,
          0x18, 0, 0, 0, 0, 0, 0, 0, 0, 0, 0, 0, 6, 8, 0x13, 0x96, 0,
          0x17, 0, 0, 0, 0, 0, 0, 0, 0])) = false := by decide +kernel
    exact absurd stands (confirmsRun_eq_false.mp (untrusted offset (by omega) more) run)
  exact ⟨scan, read⟩

/-- A key may hold encoded records. They are taken for records of the segment if the record that holds
the key is cut off after them. -/
theorem recovery_of_cut_key :
    ¬ ∀ (config : Config) (records : List Record) (bytes : List UInt8) (cut : Nat),
      SegmentWriter.Closes config records bytes → config.layoutVersion = .checksummed →
      cut ≤ offsetAfter .checksummed records →
      ∃ scan, Segment.readAll .recovery .standard (bytes.take cut) =
        .ok (wholeRecords .checksummed cut records, scan) := by
  intro faithful
  have closes := closes_single ⟨1, .updateMasterKey, ⟨7, 9,
    [0x18, 0, 0, 0, 0, 0, 0, 0, 0, 0, 0, 0, 2, 0x0F, 0x7E, 0x52, 0x19,
      0x17, 0, 0, 0, 0, 0, 0, 0, 0, 0, 0, 0, 3, 0x5F, 9, 0xB7, 0xBA]⟩⟩ (by decide)
  obtain ⟨scan, read⟩ := faithful .standard _ _ 67 closes rfl (by decide)
  obtain ⟨fill, written⟩ := closes.written
  obtain ⟨scan', later, scanned, records, left, -⟩ :=
    scan_of_cut written (show 67 ≤ _ by decide) .standard
  have none : emitted later = [] := by
    have same := read.symm.trans (readAll_of_scan scanned)
    rw [records] at same
    exact List.self_eq_append_right.mp (Prod.mk.inj (Except.ok.inj same)).1
  have untrusted := (left.emitted_eq_nil (by decide)).mp none 28 (by decide)
  obtain ⟨run, stands⟩ := confirmsRun_iff.mp (show confirmsRun .checksummed 2 Option.none (.ofList
    [0x18, 0, 0, 0, 0, 0, 0, 0, 0, 0, 0, 0, 2, 0x0F, 0x7E, 0x52, 0x19,
      0x17, 0, 0, 0, 0, 0, 0, 0, 0, 0, 0, 0, 3, 0x5F, 9, 0xB7, 0xBA]) = true by decide +kernel)
  obtain rfl := untrusted run stands
  obtain ⟨fill, filled⟩ := stands.fill_of_nil (by decide)
  cases fill <;> cases filled

/-- A segment that has been cut off passes for a closed one exactly if the bytes that are left after
the last record end in fill, and the search gets to where it begins. A field may well hold that. -/
theorem cleanlyClosed_of_cut {config reading : Config} (positive : 1 ≤ reading.resync.run)
    {records : List Record} {bytes : List UInt8}
    (closes : SegmentWriter.Closes config records bytes) {cut : Nat}
    (kept : cut ≤ offsetAfter config.layoutVersion records) :
    let whole := wholeRecords config.layoutVersion cut records
    ∃ scan, Segment.scan .recovery reading (bytes.take cut) = .ok scan ∧
      (scan.cleanlyClosed = true ↔ LayoutVersion.headerSize ≤ cut ∧
        FillNear reading.resync.window scan.trustedEnd (bytes.take cut)) ∧
      (LayoutVersion.headerSize ≤ cut → scan.records = whole →
        scan.trustedEnd = offsetAfter config.layoutVersion whole) ∧
      (cut ≤ offsetAfter config.layoutVersion whole → scan.cleanlyClosed = false) ∧
      (scan.cleanlyClosed = true → (bytes.take cut).getLast? = some Opcode.fillByte) := by
  intro whole
  obtain ⟨fill, written⟩ := closes.written
  obtain ⟨scan, later, scanned, recorded, left, trusted⟩ := scan_of_cut written kept reading
  have closed := left.trace.marked_iff rfl positive rfl
  have complete (ends : cut ≤ offsetAfter config.layoutVersion whole) :
      scan.cleanlyClosed = false :=
    left.unmarked_of_past (List.drop_eq_nil_of_le (Nat.le_trans (List.length_take_le ..) ends))
  refine ⟨scan, scanned, ?_, fun headed same => ?_, complete, fun ended => (closed.mp ended).getLast?⟩
  · by_cases headed : LayoutVersion.headerSize ≤ cut
    · rw [trusted headed, closed, and_iff_right headed]
    · have short := Nat.not_le.mp headed
      have none : whole = [] := fits_beyond short records
      have unclosed := complete (by rw [none]; exact Nat.le_of_lt short)
      simp [unclosed, headed]
  · rw [recorded] at same
    rw [trusted headed, lastStop_of_none (List.append_right_eq_self.mp same)]

def quotaSegment : List UInt8 :=
  [0xFF, 0xFF, 0xFF, 0xD8,
    0x18, 0, 0, 0, 0, 0, 0, 0, 0, 0, 0, 0, 1, 0x96, 0x77, 3, 0xA3,
    0x0E, 0, 0, 0, 22, 0, 0, 0, 0, 0, 0, 0, 2, 0, 0, 0, 2, 0x2F, 0x71, 0, 0, 0, 0, 0, 0, 0, 1,
    0xFF, 0xFF, 0xFF, 0xFF, 0xFF, 0xFF, 0xFF, 0xFF, 0x45, 0x50, 0xAB, 0xF1, 0xFF]

theorem closes_quotaSegment : SegmentWriter.Closes .standard
    [⟨1, .startSegment⟩, ⟨2, .setQuota, ⟨"/q", 1, -1⟩⟩] quotaSegment :=
  .of_written rfl ⟨by decide, by decide, by decide +kernel⟩

theorem scan_of_cut_quota :
    ∃ scan, Segment.scan .recovery .standard (quotaSegment.take 49) = .ok scan ∧
      scan.records = [⟨1, .startSegment⟩] ∧ scan.cleanlyClosed = true := by
  obtain ⟨fill, written⟩ := closes_quotaSegment.written
  obtain ⟨scan, later, scanned, records, left, -⟩ :=
    scan_of_cut written (show 49 ≤ _ by decide) .standard
  have none : emitted later = [] := by
    refine (left.emitted_eq_nil (by decide)).mpr fun passed less run stands => ?_
    have untrusted : ∀ passed < 26, confirmsRun .checksummed 2 (some 1)
        (.ofList ((quotaSegment.take 49).drop (21 + (1 + passed)))) = false := by decide +kernel
    rw [ScanRules.reach, Remainder.size_eq] at less
    have last : passed < 27 := Nat.lt_of_lt_of_le less (Nat.min_le_right ..)
    rw [Remainder.bytes_ofList, List.drop_drop] at stands
    by_cases before : passed < 26
    · exact absurd stands (confirmsRun_eq_false.mp (untrusted passed before) run)
    · obtain rfl : passed = 26 := by omega
      exact @RunOf.eq_nil _ _ 1 _ _ stands
  refine ⟨scan, scanned, by rw [records, none]; rfl, ?_⟩
  refine (left.trace.marked_iff rfl (by decide) rfl).mpr ⟨48, 0, ?_⟩
  rw [lastStop_of_none none]
  decide

theorem cleanlyClosed_of_cut_inside :
    (∃ scan, Segment.scan .recovery .standard (quotaSegment.take 21) = .ok scan ∧
      scan.cleanlyClosed = false) ∧
    (∃ scan, Segment.scan .recovery .standard (quotaSegment.take 48) = .ok scan ∧
      scan.cleanlyClosed = false) ∧
    ∃ scan, Segment.scan .recovery .standard (quotaSegment.take 49) = .ok scan ∧
      scan.cleanlyClosed = true := by
  refine ⟨?_, ?_, ?_⟩
  · obtain ⟨scan, scanned, -, -, complete, -⟩ := @cleanlyClosed_of_cut _ .standard (by decide) _ _
      closes_quotaSegment 21 (by decide)
    exact ⟨scan, scanned, complete (by decide)⟩
  · obtain ⟨scan, scanned, -, -, -, ended⟩ := @cleanlyClosed_of_cut _ .standard (by decide) _ _
      closes_quotaSegment 48 (by decide)
    exact ⟨scan, scanned, Bool.eq_false_iff.mpr fun closed => absurd (ended closed) (by decide)⟩
  · obtain ⟨scan, scanned, closed, trusted, -⟩ := @cleanlyClosed_of_cut _ .standard (by decide) _ _
      closes_quotaSegment 49 (by decide)
    obtain ⟨scan', scanned', records, -⟩ := scan_of_cut_quota
    obtain rfl := Except.ok.inj (scanned.symm.trans scanned')
    refine ⟨scan, scanned, closed.mpr ⟨by decide, 48, 0, ?_⟩⟩
    rw [trusted (by decide) records]
    decide

/-- The first byte of the limit passes for an end marker if the segment is cut off after it. -/
theorem cleanlyClosed_of_cut_quota :
    ¬ ∀ (config : Config) (records : List Record) (bytes : List UInt8) (cut : Nat)
      (reading : Config), SegmentWriter.Closes config records bytes →
      cut ≤ offsetAfter config.layoutVersion records → 1 ≤ reading.resync.run →
      ∃ scan, Segment.scan .recovery reading (bytes.take cut) = .ok scan ∧
        scan.cleanlyClosed = false := by
  intro unclosed
  obtain ⟨scan, scanned, opened⟩ := unclosed .standard _ _ 49 .standard closes_quotaSegment
    (by decide) (by decide)
  obtain ⟨scan', scanned', -, closed⟩ := scan_of_cut_quota
  obtain rfl := Except.ok.inj (scanned.symm.trans scanned')
  rw [opened] at closed
  contradiction

end Segment

end Journal
