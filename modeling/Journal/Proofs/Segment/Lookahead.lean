import Journal.Proofs.Segment.Resync

set_option autoImplicit false

namespace Journal

def Config.withWindow (config : Config) (window : Nat) : Config :=
  { config with resync := { config.resync with window := window } }

namespace ScanRules

def withWindow (rules : ScanRules) (window : Nat) : ScanRules :=
  { rules with resync := { rules.resync with window := window } }

variable {rules : ScanRules} {window : Nat}

theorem reach_le_withWindow (wider : rules.resync.window ≤ window) (rest : Remainder) :
    rules.reach rest ≤ (rules.withWindow window).reach rest := by
  simp only [reach, withWindow]
  omega

theorem resume_withWindow (recovering : rules.mode = .recovery)
    (wider : rules.resync.window ≤ window) {last : Option UInt64} {rest : Remainder} {passed : Nat}
    (found : rules.resume last rest = some passed) :
    (rules.withWindow window).resume last rest = some passed := by
  obtain ⟨within, ⟨run, stands⟩, first⟩ := of_resume_eq_some recovering found
  have within' := Nat.lt_of_lt_of_le within (reach_le_withWindow wider rest)
  exact @resume_eq_some (rules.withWindow window) _ _ recovering _ run within' stands first

end ScanRules

namespace Segment

/-- How a walk over bytes that end at `stop` goes together with one that looks farther ahead: what each
goes through, and whether it has found an end marker. -/
inductive Outlasts (stop : Nat) : List ScanEvent × Bool → List ScanEvent × Bool → Prop
  | alike (walk : List ScanEvent × Bool) : Outlasts stop walk walk
  -- The first walk has given up its search.
  | farther {before later : List ScanEvent} {error : DecodeError} {marked : Bool} :
      Outlasts stop (before ++ [.failed error, .skipped error.offset stop], false)
        (before ++ .failed error :: later, marked)

theorem Outlasts.after {stop : Nat} {events events' : List ScanEvent} {marked marked' : Bool}
    (outlasts : Outlasts stop (events, marked) (events', marked')) (front : List ScanEvent) :
    Outlasts stop (front ++ events, marked) (front ++ events', marked') := by
  cases outlasts with
  | alike => exact .alike _
  | farther =>
    rw [← List.append_assoc, ← List.append_assoc]
    exact .farther

theorem Outlasts.emitted {stop : Nat} {events events' : List ScanEvent} {marked marked' : Bool}
    (outlasts : Outlasts stop (events, marked) (events', marked')) :
    emitted events <+: emitted events' := by
  cases outlasts with
  | alike => exact List.prefix_rfl
  | farther =>
    simp only [Segment.emitted, List.filterMap_append]
    exact (List.prefix_append_right_inj _).mpr List.nil_prefix

theorem exists_outlasting {rules : ScanRules} (recovering : rules.mode = .recovery) {window : Nat}
    (wider : rules.resync.window ≤ window) {start : Nat} {last : Option UInt64} {rest : Remainder}
    {events : List ScanEvent} {marked : Bool} (trace : rules.Trace start last rest events marked) :
    ∃ events' marked', (rules.withWindow window).Trace start last rest events' marked' ∧
      Outlasts (start + rest.size) (events, marked) (events', marked') := by
  -- The two walks stay together as long as the first one finds a place.
  induction trace with
  | finished read => exact ⟨_, _, .finished read, .alike _⟩
  | @record start last rest record size _ _ read _ ih =>
    obtain ⟨later, marked', onward, outlasts⟩ := ih
    have bound := (size_of_read read).2
    have stop : start + size + (rest.drop size).size = start + rest.size := by
      rw [Remainder.size_drop]
      omega
    rw [stop] at outlasts
    exact ⟨_, marked', .record read onward, outlasts.after [.emitted start (start + size) record]⟩
  | stopped strict =>
    rw [recovering] at strict
    contradiction
  | @exhausted start last rest fault _ read _ =>
    cases found : (rules.withWindow window).resume last rest with
    | none => exact ⟨_, false, .exhausted recovering read found, .alike _⟩
    | some passed =>
      obtain ⟨later, marked', onward⟩ := (rules.withWindow window).exists_trace
        (start + 1 + passed) last (rest.drop (1 + passed))
      exact ⟨_, marked', .resumed recovering read found onward,
        @Outlasts.farther _ [] _ ⟨start, fault⟩ _⟩
  | @resumed start last rest fault passed _ _ _ read found _ ih =>
    obtain ⟨later, marked', onward, outlasts⟩ := ih
    have within := (ScanRules.of_resume_eq_some recovering found).1
    have stop : start + 1 + passed + (rest.drop (1 + passed)).size = start + rest.size := by
      rw [ScanRules.reach] at within
      rw [Remainder.size_drop]
      omega
    rw [stop] at outlasts
    exact ⟨_, marked',
      .resumed recovering read (ScanRules.resume_withWindow recovering wider found) onward,
      outlasts.after [.failed ⟨start, fault⟩, .skipped start (start + 1 + passed)]⟩

/-- A wider window never loses a record. Only if the narrower one has given up a search, skipping all
that was left, can the two scans differ at all. -/
theorem wider_window_extends_recovery (config : Config) {window : Nat}
    (wider : config.resync.window ≤ window) (bytes : List UInt8) :
    ∃ narrow wide, scan .recovery config bytes = .ok narrow ∧
      scan .recovery (config.withWindow window) bytes = .ok wide ∧
      narrow.records <+: wide.records ∧
      ((∀ start, (start, bytes.length) ∉ narrow.skipped) → wide = narrow) := by
  obtain ⟨version, headerFault, laidOut⟩ := layout_recovery bytes
  obtain ⟨events, marked, trace⟩ := ScanRules.exists_trace
    ⟨.recovery, version, config.requireEndMarker, config.resync⟩
    (min LayoutVersion.headerSize bytes.length) none (.ofList (bytes.drop LayoutVersion.headerSize))
  obtain ⟨events', marked', onward, outlasts⟩ := exists_outlasting rfl wider trace
  have stop : min LayoutVersion.headerSize bytes.length +
      (Remainder.ofList (bytes.drop LayoutVersion.headerSize)).size = bytes.length := by
    rw [Remainder.size_ofList, List.length_drop]
    omega
  rw [stop] at outlasts
  refine ⟨⟨.recovery, version, headerFault, events, marked⟩,
    ⟨.recovery, version, headerFault, events', marked'⟩, scan_eq_ok.mpr ⟨laidOut, rfl, trace⟩,
    scan_eq_ok.mpr ⟨laidOut, rfl, onward⟩, outlasts.emitted, fun found => ?_⟩
  cases outlasts with
  | alike => rfl
  | @farther before later error =>
    refine absurd ?_ (found error.offset)
    simp [Scan.skipped]

theorem wider_window_extends_recovery_garbage :
    let bytes : List UInt8 := [0xFF, 0xFF, 0xFF, 0xDA, 0x18, 0, 0, 0, 0, 0, 0, 0, 0, 0, 0, 0, 6,
      0x63, 0x18, 0, 0, 0, 0, 0, 0, 0, 0, 0, 0, 0, 7, 0x17, 0, 0, 0, 0, 0, 0, 0, 0, 0, 0, 0, 8, 0xFF]
    ∃ narrow wide, Segment.scan .recovery (Config.standard.withWindow 0) bytes = .ok narrow ∧
      Segment.scan .recovery (Config.standard.withWindow 1) bytes = .ok wide ∧
      narrow.records.map (·.txid) = [6] ∧ wide.records.map (·.txid) = [6, 7, 8] ∧
      narrow.records <+: wide.records ∧ wide.skipped = [(17, 18)] ∧
      Segment.scan .recovery (Config.standard.withWindow 65536) bytes = .ok wide := by
  intro bytes
  obtain ⟨narrow, wide, scanned, scanned', longer, -⟩ :=
    wider_window_extends_recovery (Config.standard.withWindow 0) (Nat.zero_le 1) bytes
  obtain ⟨wide', widest, again, scanned'', -, same⟩ := wider_window_extends_recovery
    (Config.standard.withWindow 1) (show 1 ≤ 65536 by decide) bytes
  have known : (Segment.scan .recovery (Config.standard.withWindow 0) bytes).map
      (·.records.map (·.txid)) = .ok [6] := by decide +kernel
  have known' : (Segment.scan .recovery (Config.standard.withWindow 1) bytes).map
      (fun wide => (wide.records.map (·.txid), wide.skipped)) = .ok ([6, 7, 8], [(17, 18)]) := by
    decide +kernel
  rw [scanned] at known
  rw [again] at known'
  obtain ⟨records, skipped⟩ := Prod.mk.inj (Except.ok.inj known')
  obtain rfl : wide = wide' := Except.ok.inj (scanned'.symm.trans again)
  obtain rfl : widest = wide := same fun start ends => by
    rw [skipped, List.mem_singleton] at ends
    exact absurd (Prod.mk.inj ends).2 (by decide)
  exact ⟨narrow, widest, scanned, scanned', Except.ok.inj known, records, longer, skipped, scanned''⟩

end Segment

end Journal
