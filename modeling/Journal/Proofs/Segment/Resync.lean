import Journal.Proofs.Segment.Trace

set_option autoImplicit false

namespace Journal

theorem Remainder.isEndMarker_iff {rest : Remainder} :
    rest.isEndMarker = true ↔ ∃ fill, rest.bytes = List.replicate (fill + 1) Opcode.fillByte := by
  rw [isEndMarker, Bool.and_eq_true, decide_eq_true_iff, isFill_eq, isFill_iff, size_eq]
  constructor
  · rintro ⟨filled, all⟩
    obtain ⟨fill, length⟩ := Nat.exists_eq_add_of_lt filled
    exact ⟨fill, by rw [all, length, Nat.zero_add]⟩
  · rintro ⟨fill, all⟩
    rw [all, List.length_replicate]
    exact ⟨Nat.succ_pos fill, rfl⟩

namespace Segment

/-- Records at the front that may come after `last`: as many as are needed, or up to a clean end. -/
def RunOf (version : LayoutVersion) (needed : Nat) (last : Option UInt64) (records : List Record)
    (bytes : List UInt8) : Prop :=
  ∃ laid tail, bytes = laid ++ tail ∧ Laid version last records laid ∧
    (needed ≤ records.length ∨ ∃ fill, tail = List.replicate (fill + 1) Opcode.fillByte)

theorem confirmsRun_iff {version : LayoutVersion} {needed : Nat} {last : Option UInt64}
    {rest : Remainder} :
    confirmsRun version needed last rest = true ↔
      ∃ records, RunOf version needed last records rest.bytes := by
  induction needed generalizing last rest with
  | zero => exact ⟨fun _ => ⟨[], [], rest.bytes, rfl, .nil, .inl (Nat.le_refl 0)⟩, fun _ => rfl⟩
  | succ needed ih =>
    rw [confirmsRun, Bool.or_eq_true, Remainder.isEndMarker_iff]
    constructor
    · rintro (marked | long)
      · exact ⟨[], [], rest.bytes, rfl, .nil, .inr marked⟩
      · split at long
        · next record size decoded =>
          rw [Bool.and_eq_true, ih] at long
          obtain ⟨later, records, laid, tail, stands, follow, enough⟩ := long
          refine ⟨record :: records, rest.bytes.take size ++ laid, tail, ?_,
            .cons (Record.encode_of_decodeInput decoded) later follow, ?_⟩
          · rw [List.append_assoc, ← stands, Remainder.bytes_drop, List.take_append_drop]
          · exact enough.imp_left Nat.succ_le_succ
        · contradiction
    · rintro ⟨records, laid, tail, stands, follow, enough⟩
      cases follow with
      | nil =>
        rcases enough with enough | ⟨fill, rfl⟩
        · contradiction
        · exact .inl ⟨fill, stands⟩
      | @cons _ record records bytes others encoded later follow =>
        rw [List.append_assoc] at stands
        right
        rw [Record.decodeInput_of_encode encoded stands]
        simp only [later, Bool.true_and]
        refine ih.mpr ⟨records, others, tail, ?_, follow, enough.imp_left Nat.le_of_succ_le_succ⟩
        rw [Remainder.bytes_drop, stands, List.drop_left]

theorem confirmsRun_eq_false {version : LayoutVersion} {needed : Nat} {last : Option UInt64}
    {rest : Remainder} :
    confirmsRun version needed last rest = false ↔
      ∀ run, ¬ RunOf version needed last run rest.bytes := by
  rw [← Bool.not_eq_true, confirmsRun_iff, not_exists]

theorem firstRun_eq_some {version : LayoutVersion} {needed : Nat} {last : Option UInt64}
    {count passed found : Nat} {rest : Remainder}
    (success : firstRun version needed last count passed rest = some found) :
    ∃ more, found = passed + more ∧ more < count ∧
      confirmsRun version needed last (rest.drop more) = true ∧
      ∀ fewer < more, confirmsRun version needed last (rest.drop fewer) = false := by
  induction count generalizing passed rest with
  | zero => contradiction
  | succ count ih =>
    rw [firstRun] at success
    split at success
    · next here =>
      refine ⟨0, (Option.some.inj success).symm, Nat.succ_pos count, ?_, fun fewer less => ?_⟩
      · rwa [Remainder.drop_zero]
      · exact absurd less (Nat.not_lt_zero fewer)
    · next missed =>
      obtain ⟨more, rfl, within, confirmed, before⟩ := ih success
      rw [Remainder.drop_drop, Nat.add_comm 1] at confirmed
      refine ⟨more + 1, by omega, by omega, confirmed, fun fewer less => ?_⟩
      cases fewer with
      | zero => rw [Remainder.drop_zero]; exact eq_false_of_ne_true missed
      | succ fewer =>
        have short := before fewer (by omega)
        rwa [Remainder.drop_drop, Nat.add_comm 1] at short

theorem firstRun_eq_none {version : LayoutVersion} {needed : Nat} {last : Option UInt64}
    {count passed : Nat} {rest : Remainder}
    (failure : firstRun version needed last count passed rest = none) :
    ∀ more < count, confirmsRun version needed last (rest.drop more) = false := by
  induction count generalizing passed rest with
  | zero => exact nofun
  | succ count ih =>
    rw [firstRun] at failure
    split at failure
    · contradiction
    · next missed =>
      intro more less
      cases more with
      | zero => rw [Remainder.drop_zero]; exact eq_false_of_ne_true missed
      | succ more =>
        have short := ih failure more (by omega)
        rwa [Remainder.drop_drop, Nat.add_comm 1] at short

end Segment

namespace ScanRules

open Segment

variable {rules : ScanRules} {last : Option UInt64} {rest : Remainder}

def reach (rules : ScanRules) (rest : Remainder) : Nat := min rules.resync.window (rest.size - 1)

theorem lt_reach_iff {bytes : List UInt8} {start passed : Nat} (stands : rest.bytes = bytes.drop start) :
    passed < rules.reach rest ↔
      start + 1 + passed < min bytes.length (start + 1 + rules.resync.window) := by
  rw [reach, Remainder.size_eq, stands, List.length_drop]
  omega

theorem forall_lt_reach {bytes : List UInt8} {start : Nat} (stands : rest.bytes = bytes.drop start)
    (holds : List UInt8 → Prop) :
    (∀ passed < rules.reach rest, holds (rest.bytes.drop (1 + passed))) ↔
      ∀ offset, start < offset → offset < min bytes.length (start + 1 + rules.resync.window) →
        holds (bytes.drop offset) := by
  simp only [stands, List.drop_drop, ← Nat.add_assoc]
  constructor
  · intro all offset beyond within
    obtain ⟨passed, rfl⟩ := Nat.exists_eq_add_of_lt beyond
    rw [Nat.add_right_comm] at within ⊢
    exact all passed ((lt_reach_iff stands).mpr within)
  · intro all passed within
    exact all _ (by omega) ((lt_reach_iff stands).mp within)

theorem resume_eq_firstRun (recovering : rules.mode = .recovery) :
    rules.resume last rest =
      firstRun rules.version rules.resync.run last (rules.reach rest) 0 (rest.drop 1) := by
  rw [resume]
  split
  · next strict => rw [recovering] at strict; contradiction
  · rw [findRun_nil]
    rfl

theorem unconfirmed_iff {version : LayoutVersion} {needed passed : Nat} :
    confirmsRun version needed last ((rest.drop 1).drop passed) = false ↔
      ∀ run, ¬ RunOf version needed last run (rest.bytes.drop (1 + passed)) := by
  rw [confirmsRun_eq_false, Remainder.drop_drop, Remainder.bytes_drop]

theorem of_resume_eq_some (recovering : rules.mode = .recovery) {passed : Nat}
    (found : rules.resume last rest = some passed) :
    passed < rules.reach rest ∧
      (∃ run, RunOf rules.version rules.resync.run last run (rest.bytes.drop (1 + passed))) ∧
      ∀ fewer < passed, ∀ run,
        ¬ RunOf rules.version rules.resync.run last run (rest.bytes.drop (1 + fewer)) := by
  rw [resume_eq_firstRun recovering] at found
  obtain ⟨more, same, within, confirmed, before⟩ := firstRun_eq_some found
  obtain rfl : passed = more := by omega
  rw [Remainder.drop_drop, confirmsRun_iff] at confirmed
  exact ⟨within, confirmed, fun fewer less => unconfirmed_iff.mp (before fewer less)⟩

theorem of_resume_eq_none (recovering : rules.mode = .recovery)
    (lost : rules.resume last rest = none) :
    ∀ passed < rules.reach rest, ∀ run,
      ¬ RunOf rules.version rules.resync.run last run (rest.bytes.drop (1 + passed)) := by
  rw [resume_eq_firstRun recovering] at lost
  exact fun passed less => unconfirmed_iff.mp (firstRun_eq_none lost passed less)

theorem resume_eq_some (recovering : rules.mode = .recovery) {passed : Nat} {run : List Record}
    (within : passed < rules.reach rest)
    (stands : RunOf rules.version rules.resync.run last run (rest.bytes.drop (1 + passed)))
    (first : ∀ fewer < passed, ∀ run,
      ¬ RunOf rules.version rules.resync.run last run (rest.bytes.drop (1 + fewer))) :
    rules.resume last rest = some passed := by
  cases resumed : rules.resume last rest with
  | none => exact absurd stands (of_resume_eq_none recovering resumed passed within run)
  | some found =>
    obtain ⟨-, ⟨other, earlier⟩, before⟩ := of_resume_eq_some recovering resumed
    rcases Nat.lt_trichotomy found passed with less | rfl | more
    · exact absurd earlier (first found less other)
    · rfl
    · exact absurd stands (before passed more run)

end ScanRules

namespace Segment

theorem RunOf.trace {rules : ScanRules} {needed : Nat} {last : Option UInt64} {run : List Record}
    {rest : Remainder} (stands : RunOf rules.version needed last run rest.bytes) {start : Nat}
    {events : List ScanEvent} {marked : Bool}
    (trace : rules.Trace start last rest events marked) :
    ∃ more, events = emissions rules.version start run ++ more ∧
      (run.length < needed → more = [] ∧ marked = true) := by
  obtain ⟨laid, tail, stands, follow, enough⟩ := stands
  obtain ⟨more, marked', later⟩ :=
    rules.exists_trace (start + laid.length) (latest last run) (.ofList tail)
  obtain ⟨rfl, rfl⟩ := trace.unique (follow.trace rfl stands later)
  refine ⟨more, rfl, fun short => ?_⟩
  rcases enough with enough | ⟨fill, rfl⟩
  · omega
  · have ended := @trace_of_fill rules (fill + 1) (fun _ _ => Nat.succ_pos fill)
      (start + laid.length) (latest last run)
    obtain ⟨rfl, rfl⟩ := ended.unique later
    exact ⟨rfl, rfl⟩

/-- What a scan of `bytes` has to show for what it skips from `start` to `stop`, between records of
which `last` is the id of the last one and what comes `later`. -/
structure SkipSound (version : LayoutVersion) (policy : ResyncPolicy) (bytes : List UInt8)
    (last : Option UInt64) (start stop : Nat) (later : List ScanEvent) (closed : Bool) : Prop where
  earliest : ∀ offset, start < offset → offset < min stop (start + 1 + policy.window) →
    ∀ run, ¬ RunOf version policy.run last run (bytes.drop offset)
  resumed : stop < bytes.length → start < stop ∧ stop < start + 1 + policy.window ∧
    ∃ run more, RunOf version policy.run last run (bytes.drop stop) ∧
      later = emissions version stop run ++ more ∧
      (run.length < policy.run → more = [] ∧ closed = true)
  exhausted : ¬ stop < bytes.length → stop = bytes.length ∧ later = []

theorem SkipSound.unfailed {version : LayoutVersion} {policy : ResyncPolicy} {bytes : List UInt8}
    {last : Option UInt64} {start stop : Nat} {later : List ScanEvent} {closed : Bool}
    (positive : 1 ≤ policy.run)
    (sound : SkipSound version policy bytes last start stop later closed) (error : DecodeError) :
    later.head? ≠ some (.failed error) := by
  by_cases within : stop < bytes.length
  · obtain ⟨-, -, run, more, -, rfl, short⟩ := sound.resumed within
    cases run with
    | nil =>
      simp [(short positive).1, emissions]
    | cons record run =>
      simp [emissions]
  · simp [(sound.exhausted within).2]

section Walking

variable {rules : ScanRules} (recovering : rules.mode = .recovery) {bytes : List UInt8}
  {start : Nat} {last : Option UInt64} {rest : Remainder} {events : List ScanEvent} {marked : Bool}

include recovering

theorem skipSound_of_resumed {passed : Nat} (stands : rest.bytes = bytes.drop start)
    (found : rules.resume last rest = some passed)
    (trace : rules.Trace (start + 1 + passed) last (rest.drop (1 + passed)) events marked) :
    SkipSound rules.version rules.resync bytes last start (start + 1 + passed) events marked := by
  obtain ⟨within, ⟨run, follows⟩, before⟩ := ScanRules.of_resume_eq_some recovering found
  rw [ScanRules.lt_reach_iff stands] at within
  constructor
  · intro offset beyond short other
    obtain ⟨fewer, rfl⟩ := Nat.exists_eq_add_of_lt beyond
    have missed := before fewer (by omega) other
    rwa [stands, List.drop_drop, ← Nat.add_assoc, Nat.add_right_comm] at missed
  · intro _
    obtain ⟨more, same, ended⟩ := RunOf.trace follows trace
    rw [stands, List.drop_drop, ← Nat.add_assoc] at follows
    exact ⟨by omega, by omega, run, more, follows, same, ended⟩
  · omega

theorem skipSound_of_exhausted (stands : rest.bytes = bytes.drop start)
    (inside : start ≤ bytes.length) (lost : rules.resume last rest = none) :
    SkipSound rules.version rules.resync bytes last start (start + rest.size) [] false := by
  have missed := (ScanRules.forall_lt_reach stands fun left =>
    ∀ run, ¬ RunOf rules.version rules.resync.run last run left).mp
      (ScanRules.of_resume_eq_none recovering lost)
  have size : rest.size = bytes.length - start := by
    rw [Remainder.size_eq, stands, List.length_drop]
  constructor
  · exact fun offset beyond short => missed offset beyond (by omega)
  · omega
  · exact fun _ => ⟨by omega, rfl⟩

theorem skipSound_of_trace (trace : rules.Trace start last rest events marked)
    (stands : rest.bytes = bytes.drop start) (inside : start ≤ bytes.length)
    {before later : List ScanEvent} {first stop : Nat}
    (skip : events = before ++ .skipped first stop :: later) :
    SkipSound rules.version rules.resync bytes (latest last (emitted before)) first stop later
      marked := by
  -- Each step either ends in the skip in question or stands in front of it.
  induction trace generalizing before with
  | finished => simp at skip
  | @record start last rest record size events marked read _ ih =>
    cases before with
    | nil => cases skip
    | cons event before =>
      obtain ⟨rfl, skip'⟩ := List.cons.inj skip
      have bounds := (size_of_read read).2
      rw [Remainder.size_eq, stands, List.length_drop] at bounds
      have beyond : (rest.drop size).bytes = bytes.drop (start + size) := by
        rw [Remainder.bytes_drop, stands, List.drop_drop]
      exact ih beyond (by omega) skip'
  | stopped strict => rw [recovering] at strict; contradiction
  | exhausted _ _ lost =>
    match before with
    | [] => cases skip
    | [event] =>
      cases skip
      exact skipSound_of_exhausted recovering stands inside lost
    | event :: another :: before => simp at skip
  | @resumed start last rest fault passed events marked _ _ found trace ih =>
    match before with
    | [] => cases skip
    | [event] =>
      cases skip
      exact skipSound_of_resumed recovering stands found trace
    | event :: another :: before =>
      simp only [List.cons_append, List.cons.injEq] at skip
      obtain ⟨rfl, rfl, skip⟩ := skip
      have within := (ScanRules.of_resume_eq_some recovering found).1
      rw [ScanRules.lt_reach_iff stands] at within
      have beyond : (rest.drop (1 + passed)).bytes = bytes.drop (start + 1 + passed) := by
        rw [Remainder.bytes_drop, stands, List.drop_drop, Nat.add_assoc]
      have sound := ih beyond (by omega) skip
      exact sound

end Walking

/-- Every skip of a recovering scan ends at the first place within the window where a run stands, with
which the scan then goes on, or at the end of the segment if there is none. -/
theorem recovery_resumes_at_earliest_run (config : Config) (positive : 1 ≤ config.resync.run)
    (bytes : List UInt8) :
    ∃ scan, Segment.scan .recovery config bytes = .ok scan ∧
      ∀ before start stop later, scan.events = before ++ .skipped start stop :: later →
        SkipSound scan.version config.resync bytes (latest none (emitted before)) start stop later
            scan.cleanlyClosed ∧
          ∀ error, later.head? ≠ some (.failed error) := by
  obtain ⟨version, headerFault, laidOut⟩ := layout_recovery bytes
  obtain ⟨events, marked, trace⟩ := ScanRules.exists_trace
    ⟨.recovery, version, config.requireEndMarker, config.resync⟩
    (min LayoutVersion.headerSize bytes.length) none (.ofList (bytes.drop LayoutVersion.headerSize))
  have scanned : Segment.scan .recovery config bytes =
      .ok ⟨.recovery, version, headerFault, events, marked⟩ :=
    scan_eq_ok.mpr ⟨laidOut, rfl, trace⟩
  have body : bytes.drop LayoutVersion.headerSize =
      bytes.drop (min LayoutVersion.headerSize bytes.length) := by
    rcases Nat.le_total LayoutVersion.headerSize bytes.length with long | short
    · rw [Nat.min_eq_left long]
    · rw [Nat.min_eq_right short, List.drop_length, List.drop_eq_nil_of_le short]
  refine ⟨_, scanned, fun before start stop later skip => ?_⟩
  have sound := skipSound_of_trace rfl trace body (Nat.min_le_right ..) skip
  exact ⟨sound, sound.unfailed positive⟩

theorem recovery_resumes_at_earliest_run_garbage :
    ∃ scan before later run more,
      Segment.scan .recovery .standard
        [0xFF, 0xFF, 0xFF, 0xDA, 0x63, 0x18, 0, 0, 0, 0, 0, 0, 0, 0, 0, 0, 0, 7,
          0x17, 0, 0, 0, 0, 0, 0, 0, 0, 0, 0, 0, 8, 0xFF] = .ok scan ∧
      scan.events = before ++ .skipped 4 5 :: later ∧
      RunOf scan.version 2 (latest none (emitted before)) run
        [0x18, 0, 0, 0, 0, 0, 0, 0, 0, 0, 0, 0, 7, 0x17, 0, 0, 0, 0, 0, 0, 0, 0, 0, 0, 0, 8,
          0xFF] ∧
      later = emissions scan.version 5 run ++ more := by
  obtain ⟨scan, scanned, sound⟩ := recovery_resumes_at_earliest_run .standard (by decide)
    [0xFF, 0xFF, 0xFF, 0xDA, 0x63, 0x18, 0, 0, 0, 0, 0, 0, 0, 0, 0, 0, 0, 7,
      0x17, 0, 0, 0, 0, 0, 0, 0, 0, 0, 0, 0, 8, 0xFF]
  have skipped : (Except.map Scan.skipped (Segment.scan .recovery .standard
      [0xFF, 0xFF, 0xFF, 0xDA, 0x63, 0x18, 0, 0, 0, 0, 0, 0, 0, 0, 0, 0, 0, 7,
        0x17, 0, 0, 0, 0, 0, 0, 0, 0, 0, 0, 0, 8, 0xFF])) = .ok [(4, 5)] := by decide +kernel
  rw [scanned] at skipped
  have member : (4, 5) ∈ scan.skipped := by
    rw [show scan.skipped = [(4, 5)] from Except.ok.inj skipped]
    exact List.mem_singleton_self _
  obtain ⟨event, inside, found⟩ := List.mem_filterMap.mp member
  obtain rfl : event = .skipped 4 5 := by
    cases event <;> cases found
    rfl
  obtain ⟨before, later, split⟩ := List.append_of_mem inside
  obtain ⟨-, -, run, more, stands, same, -⟩ := (sound before 4 5 later split).1.resumed (by decide)
  exact ⟨scan, before, later, run, more, scanned, split, stands, same⟩

end Segment

end Journal
