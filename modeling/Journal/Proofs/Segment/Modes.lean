import Journal.Proofs.Visitor

set_option autoImplicit false

namespace Journal

namespace ScanRules

variable {rules others : ScanRules} (strict : rules.mode = .strict)
  (recovering : others.mode = .recovery) (same : others.version = rules.version)

include strict recovering same

theorem read_recovering (last : Option UInt64) (rest : Remainder) :
    others.read last rest = rules.read last rest ∨
      rest.bytes = [] ∧ rules.requireEndMarker = true ∧
        rules.read last rest = .failure (.truncated 1 0) ∧ others.read last rest = .finished false := by
  cases front : rest.bytes with
  | cons byte bytes =>
    left
    simp only [read, front, same]
  | nil =>
    by_cases required : rules.requireEndMarker = true
    · exact .inr ⟨rfl, required, read_of_nil strict required front last,
        read_eq_finished.mpr ⟨0, front, rfl, by simp [recovering]⟩⟩
    · left
      simp [read, front, recovering, required]

end ScanRules

namespace Segment

/-- How a strict walk and a recovering one over the same bytes, which end at `stop`, go together: what
each goes through, and whether it has found an end marker. -/
inductive Parting (required : Bool) (stop : Nat) :
    List ScanEvent × Bool → List ScanEvent × Bool → Prop
  | together {events : List ScanEvent} {marked : Bool} (undamaged : Undamaged events) :
      Parting required stop (events, marked) (events, marked)
  | unmarked {events : List ScanEvent} (undamaged : Undamaged events) (missed : required = true) :
      Parting required stop (events ++ [.failed ⟨stop, .truncated 1 0⟩], false) (events, false)
  | damaged {before later : List ScanEvent} {error : DecodeError} {resumed : Nat} {marked : Bool}
      (undamaged : Undamaged before) (inside : error.offset < stop) :
      Parting required stop (before ++ [.failed error], false)
        (before ++ .failed error :: .skipped error.offset resumed :: later, marked)

theorem Parting.cons {required : Bool} {stop : Nat} {events events' : List ScanEvent}
    {marked marked' : Bool} (parting : Parting required stop (events, marked) (events', marked'))
    (first last : Nat) (record : Record) :
    Parting required stop (.emitted first last record :: events, marked)
      (.emitted first last record :: events', marked') := by
  cases parting with
  | together undamaged => exact .together (undamaged.cons first last record)
  | unmarked undamaged missed => exact .unmarked (undamaged.cons first last record) missed
  | damaged undamaged inside => exact .damaged (undamaged.cons first last record) inside

theorem exists_parting {rules others : ScanRules} (strict : rules.mode = .strict)
    (recovering : others.mode = .recovery) (same : others.version = rules.version) {start : Nat}
    {last : Option UInt64} {rest : Remainder} {events : List ScanEvent} {marked : Bool}
    (trace : rules.Trace start last rest events marked) :
    ∃ events' marked', others.Trace start last rest events' marked' ∧
      Parting rules.requireEndMarker (start + rest.size) (events, marked) (events', marked') := by
  -- One step of the strict walk is one step of the other, up to the one at which they part.
  induction trace with
  | @finished start last rest marked read =>
    rcases ScanRules.read_recovering strict recovering same last rest with alike | ⟨-, -, missed, -⟩
    · exact ⟨[], marked, .finished (alike.trans read), .together undamaged_nil⟩
    · rw [read] at missed
      contradiction
  | @record start last rest record size _ _ read _ ih =>
    rcases ScanRules.read_recovering strict recovering same last rest with alike | ⟨-, -, missed, -⟩
    · obtain ⟨later, marked', onward, parting⟩ := ih
      have bound := (size_of_read read).2
      have stop : start + size + (rest.drop size).size = start + rest.size := by
        rw [Remainder.size_drop]
        omega
      rw [stop] at parting
      exact ⟨_, marked', .record (alike.trans read) onward, parting.cons start (start + size) record⟩
    · rw [read] at missed
      contradiction
  | @stopped start last rest fault _ read =>
    rcases ScanRules.read_recovering strict recovering same last rest with
      alike | ⟨empty, required, missed, ended⟩
    · have failed := alike.trans read
      have inside : start < start + rest.size :=
        Nat.lt_add_of_pos_right (ScanRules.size_of_failure recovering failed)
      cases found : others.resume last rest with
      | none =>
        exact ⟨_, false, .exhausted recovering failed found, @Parting.damaged _ _ [] [] ⟨start, fault⟩ _
          _ undamaged_nil inside⟩
      | some passed =>
        obtain ⟨later, marked', onward⟩ :=
          others.exists_trace (start + 1 + passed) last (rest.drop (1 + passed))
        exact ⟨_, marked', .resumed recovering failed found onward, @Parting.damaged _ _ [] later
          ⟨start, fault⟩ _ _ undamaged_nil inside⟩
    · have here : start + rest.size = start := by rw [rest.size_eq, empty, List.length_nil, Nat.add_zero]
      rw [read] at missed
      cases missed
      rw [here]
      exact ⟨[], false, .finished ended, @Parting.unmarked _ _ [] undamaged_nil required⟩
  | exhausted mode =>
    rw [strict] at mode
    contradiction
  | resumed mode =>
    rw [strict] at mode
    contradiction

structure Agree (required : Bool) (stop : Nat) (strict recovered : Scan) : Prop where
  records : strict.records <+: recovered.records
  unmarked : strict.firstError = some ⟨stop, .truncated 1 0⟩ →
    required = true ∧ recovered.firstError = none ∧ recovered.records = strict.records
  damaged : ∀ error, strict.firstError = some error → error ≠ ⟨stop, .truncated 1 0⟩ →
    recovered.firstError = some error ∧
      ∃ resumed, recovered.skipped.head? = some (error.offset, resumed)
  clean : strict.firstError = none → recovered.records = strict.records ∧
    recovered.trustedEnd = strict.trustedEnd ∧ recovered.lastTxid = strict.lastTxid ∧
    recovered.cleanlyClosed = strict.cleanlyClosed ∧ recovered.recoveryInvoked = false ∧
    recovered.skipped = []

theorem Parting.agree {required : Bool} {stop : Nat} {events events' : List ScanEvent}
    {marked marked' : Bool} (parting : Parting required stop (events, marked) (events', marked'))
    (version : LayoutVersion) :
    Agree required stop ⟨.strict, version, none, events, marked⟩
      ⟨.recovery, version, none, events', marked'⟩ := by
  cases parting with
  | together undamaged =>
    have unfailed (mode : ScanMode) :
        Scan.firstError ⟨mode, version, none, events, marked⟩ = none := by
      have first := firstError_of_undamaged undamaged mode version [] marked
      rwa [List.append_nil] at first
    have unskipped := skipped_of_undamaged undamaged .recovery version [] marked
    rw [List.append_nil] at unskipped
    refine ⟨List.prefix_rfl, ?_, ?_, fun _ => ⟨rfl, rfl, rfl, rfl, ?_, unskipped⟩⟩
    · rw [unfailed]
      exact nofun
    · rw [unfailed]
      exact nofun
    · rw [Scan.recoveryInvoked, unfailed]
      rfl
  | unmarked undamaged missed =>
    have strict := firstError_of_undamaged undamaged .strict version
      [.failed ⟨stop, .truncated 1 0⟩] false
    have unfailed := firstError_of_undamaged undamaged .recovery version [] false
    rw [List.append_nil] at unfailed
    have records : Scan.records ⟨.recovery, version, none, events', false⟩ = Scan.records
        ⟨.strict, version, none, events' ++ [.failed ⟨stop, .truncated 1 0⟩], false⟩ := by
      simp [Scan.records, List.filterMap_append]
    refine ⟨records ▸ List.prefix_rfl, fun _ => ⟨missed, unfailed, records⟩, ?_, ?_⟩
    · intro error failed other
      rw [strict] at failed
      exact absurd (Option.some.inj failed).symm other
    · rw [strict]
      exact nofun
  | @damaged before later error resumed _ undamaged inside =>
    have strict := firstError_of_undamaged undamaged .strict version [.failed error] false
    have recovered := firstError_of_undamaged undamaged .recovery version
      (.failed error :: .skipped error.offset resumed :: later) marked'
    have skipped := skipped_of_undamaged undamaged .recovery version
      (.failed error :: .skipped error.offset resumed :: later) marked'
    refine ⟨?_, ?_, ?_, ?_⟩
    · simp only [Scan.records, List.filterMap_append]
      exact List.prefix_append_right_inj _ |>.mpr List.nil_prefix
    · intro failed
      rw [strict] at failed
      obtain rfl : error = _ := Option.some.inj failed
      exact absurd inside (Nat.lt_irrefl stop)
    · intro other failed _
      rw [strict] at failed
      obtain rfl : error = other := Option.some.inj failed
      exact ⟨recovered, resumed, by rw [skipped]; rfl⟩
    · rw [strict]
      exact nofun

theorem strict_agrees_with_recovery {version : LayoutVersion} {bytes : List UInt8}
    (headed : LayoutVersion.ofHeader? bytes = some version) (supported : version.isSupported = true)
    (config config' : Config) :
    ∃ strict recovered, readAll .strict config bytes = .ok (strict.records, strict) ∧
      readAll .recovery config' bytes = .ok (recovered.records, recovered) ∧
      Agree config.requireEndMarker bytes.length strict recovered := by
  have whole := LayoutVersion.header_of_ofHeader? headed
  generalize bytes.drop LayoutVersion.headerSize = body at whole
  subst whole
  let rules : ScanRules := ⟨.strict, version, config.requireEndMarker, config.resync⟩
  let others : ScanRules := ⟨.recovery, version, config'.requireEndMarker, config'.resync⟩
  obtain ⟨events, marked, trace⟩ :=
    rules.exists_trace LayoutVersion.headerSize none (.ofList body)
  obtain ⟨events', marked', again, parting⟩ :=
    @exists_parting rules others rfl rfl rfl _ _ _ _ _ trace
  rw [Remainder.size_ofList, ← version.length_header, ← List.length_append] at parting
  exact ⟨_, _, readAll_of_scan (scan_of_trace supported trace),
    readAll_of_scan (scan_of_trace supported again), parting.agree version⟩

theorem strict_agrees_with_recovery_garbage :
    ∃ strict recovered resumed,
      readAll .strict .standard
        [0xFF, 0xFF, 0xFF, 0xDA, 0x18, 0, 0, 0, 0, 0, 0, 0, 0, 0, 0, 0, 7, 0x63,
          0x17, 0, 0, 0, 0, 0, 0, 0, 0, 0, 0, 0, 8, 0xFF] = .ok (strict.records, strict) ∧
      readAll .recovery .standard
        [0xFF, 0xFF, 0xFF, 0xDA, 0x18, 0, 0, 0, 0, 0, 0, 0, 0, 0, 0, 0, 7, 0x63,
          0x17, 0, 0, 0, 0, 0, 0, 0, 0, 0, 0, 0, 8, 0xFF] = .ok (recovered.records, recovered) ∧
      strict.firstError = some ⟨17, .unknownOpcode 0x63⟩ ∧
      recovered.firstError = some ⟨17, .unknownOpcode 0x63⟩ ∧
      recovered.skipped.head? = some (17, resumed) := by
  obtain ⟨strict, recovered, first, second, agree⟩ := @strict_agrees_with_recovery .unchecksummed
    [0xFF, 0xFF, 0xFF, 0xDA, 0x18, 0, 0, 0, 0, 0, 0, 0, 0, 0, 0, 0, 7, 0x63,
      0x17, 0, 0, 0, 0, 0, 0, 0, 0, 0, 0, 0, 8, 0xFF] (by decide) (by decide) .standard .standard
  have failed : (readAll .strict .standard
      [0xFF, 0xFF, 0xFF, 0xDA, 0x18, 0, 0, 0, 0, 0, 0, 0, 0, 0, 0, 0, 7, 0x63,
        0x17, 0, 0, 0, 0, 0, 0, 0, 0, 0, 0, 0, 8, 0xFF]).map (·.2.firstError) =
      .ok (some ⟨17, .unknownOpcode 0x63⟩) := by decide +kernel
  rw [first] at failed
  have failed := Except.ok.inj failed
  obtain ⟨same, resumed, skipped⟩ := agree.damaged _ failed (by decide)
  exact ⟨strict, recovered, resumed, first, second, failed, same, skipped⟩

end Segment

end Journal
