import Journal.Proofs.Checkpoint.FailedCommit
import Journal.Proofs.Checkpoint.Recording

set_option autoImplicit false

namespace Journal

def Injector.Spares {ε : Type} (injector : Injector ε) (path : Path) (bytes : List UInt8) : Prop :=
  bytes = [] ∨ injector.truncates path = false ∧ injector.corrupts path = false

def RoundStage.course : List RoundStage := [.headerSent, .mergeInProgress, .imageUploaded]

namespace Secondary

variable {ε α : Type}

def Configured (secondary : Secondary ε) (config : Config) (primary : Primary) : Prop :=
  secondary.injector.Keeps (·.config = config) → primary.config = config

theorem keeps_configured (secondary : Secondary ε) (config : Config) :
    secondary.injector.Keeps (secondary.Configured config) :=
  fun hook primary extra here keeps => keeps hook primary extra (here keeps)

structure Calm (secondary : Secondary ε) (visited : List RoundStage) (contents : List (List UInt8))
    (state : RoundState (ε × Notes)) : Prop where
  injected : state.injected = none
  stages : state.stages = .idle :: visited
  order : visited <+: RoundStage.course
  contents : state.extra.2.map (·.2) = contents
  spared : ∀ note ∈ state.extra.2, secondary.injector.Spares note.1 note.2

/-- What ends a round, and what has been injected then. -/
inductive Blames (secondary : Secondary ε) (config : Config) (contents : List (List UInt8)) :
    Abort → Option InjectedFault → Prop
  | short {file : String} {expected actual : Nat} : Blames secondary config contents
      (.transfer (.shortFile file expected actual)) (some (.damage (.truncated file)))
  | flipped {file : String} : Blames secondary config contents
      (.transfer (.corruptedByte file)) (some (.damage (.corruptedByte file)))
  | hook (hook : Hook) (error : Error) : Blames secondary config contents
      (.rejected s!"{hook.name}: {error.message}") (some (.hookFailed hook.name))
  | merger {image : List UInt8} {bodies : List (List UInt8)} {listed : Primary} {error : Error}
      (fetched : contents = image :: bodies) (configured : secondary.Configured config listed)
      (failed : secondary.merger image bodies listed.config = .error error) :
      Blames secondary config contents (.rejected s!"merge failed: {error.message}") none
  | error (error : Error) : Blames secondary config contents (.error error) none

structure Ended (secondary : Secondary ε) (config : Config) (cause : Abort)
    (state : RoundState (ε × Notes)) : Prop where
  blames : Blames secondary config (state.extra.2.map (·.2)) cause state.injected
  stages : ∃ visited, state.stages = .idle :: visited ∧ visited <+: RoundStage.course

variable {secondary : Secondary ε} {config : Config} {visited : List RoundStage}
  {contents : List (List UInt8)} {state : RoundState (ε × Notes)} {cause : Abort}

theorem Calm.ended (calm : Calm secondary visited contents state)
    (blames : Blames secondary config contents cause none) : Ended secondary config cause state :=
  ⟨by rw [calm.contents, calm.injected]; exact blames, visited, calm.stages, calm.order⟩

theorem calm_opening (secondary : Secondary ε) (primary : Primary) (extra : ε) :
    Calm secondary [] [] (opening .idle primary (extra, [])) :=
  ⟨rfl, rfl, List.nil_prefix, rfl, List.forall_mem_nil _⟩

theorem Calm.moved (calm : Calm secondary visited contents state) (primary : Primary) :
    Calm secondary visited contents { state with primary := primary } :=
  ⟨calm.injected, calm.stages, calm.order, calm.contents, calm.spared⟩

theorem Ended.moved (ended : Ended secondary config cause state) (primary : Primary) :
    Ended secondary config cause { state with primary := primary } :=
  ⟨ended.blames, ended.stages⟩

theorem onPrimary_calm (config : Config) (action : Primary → Primary × Except Error α) :
    Triple (Calm secondary visited contents) (onPrimary action)
      (fun _ => Calm secondary visited contents) (Ended secondary config) := by
  intro state calm
  rw [run_onPrimary]
  cases action state.primary with
  | mk primary result =>
    cases result with
    | ok value => exact calm.moved primary
    | error error => exact (calm.moved primary).ended (.error error)

theorem enter_calm (config : Config) {stage : RoundStage}
    (order : visited ++ [stage] <+: RoundStage.course) :
    Triple (Calm secondary visited contents) (enter stage)
      (fun _ => Calm secondary (visited ++ [stage]) contents) (Ended secondary config) := by
  rintro state ⟨injected, stages, -, contents, spared⟩
  exact ⟨injected, congrArg (· ++ [stage]) stages, order, contents, spared⟩

theorem pass_calm (config : Config) {hook : Hook}
    (quiet : ∀ primary passed, hook.sends primary passed = []) :
    Triple (Calm secondary visited contents) (secondary.recording.pass hook)
      (fun _ => Calm secondary visited contents) (Ended secondary config) := by
  rintro state ⟨injected, stages, order, contents, spared⟩
  rw [run_pass]
  simp only [recording, Injector.recording, quiet, List.append_nil]
  cases (secondary.injector.onHook hook state.primary state.extra.1).2 with
  | ok value => exact ⟨injected, stages, order, contents, spared⟩
  | error error => exact ⟨.hook hook error, visited, stages, order⟩

theorem send_calm (config : Config) (path : Path) :
    Triple (Calm secondary visited contents) (secondary.recording.send path)
      (fun body => Calm secondary visited (contents ++ [body])) (Ended secondary config) := by
  -- The note is there when the hook has passed, which is before anything happens to the file.
  let noted (state : RoundState (ε × Notes)) : Prop :=
    ∃ notes, state.extra.2 = notes ++ (Hook.beforeFileSend path).sends state.primary (.ok ()) ∧
      Calm secondary visited contents { state with extra := (state.extra.1, notes) }
  have hook : Triple (Calm secondary visited contents)
      (secondary.recording.pass (.beforeFileSend path)) (fun _ => noted)
      (Ended secondary config) := by
    rintro state ⟨injected, stages, order, contents, spared⟩
    rw [run_pass]
    simp only [recording, Injector.recording]
    cases (secondary.injector.onHook (.beforeFileSend path) state.primary state.extra.1).2 with
    | ok value => exact ⟨state.extra.2, rfl, injected, stages, order, contents, spared⟩
    | error error => exact ⟨.hook (.beforeFileSend path) error, visited, stages, order⟩
  refine Triple.send hook ?_ ?_ ?_
  · rintro state fault ⟨notes, added, calm⟩ read
    simp only [Hook.sends, read, List.append_nil] at added
    subst added
    exact calm.ended (.error _)
  · rintro state bytes ⟨notes, added, injected, stages, order, contents, spared⟩ read whole
    simp only [Hook.sends, read] at added
    refine ⟨injected, stages, order, ?_, ?_⟩
    · rw [added, List.map_append, contents]
      rfl
    · rw [added]
      exact List.forall_mem_append.mpr ⟨spared, List.forall_mem_singleton.mpr whole⟩
  · rintro state bytes damage fault ⟨notes, added, calm⟩ read transfer
    refine ⟨?_, visited, calm.stages, calm.order⟩
    cases transfer with
    | short => exact .short
    | flipped => exact .flipped

theorem install_calm (config : Config) (bytes : List UInt8) (last : UInt64) :
    Triple (Calm secondary [.headerSent, .mergeInProgress] contents)
      (secondary.recording.install bytes last)
      (fun _ => Calm secondary RoundStage.course contents) (Ended secondary config) := by
  refine (onPrimary_calm config _).bind fun staged => Triple.ensuring_kept ?_
    (fun _ _ calm => calm.moved _) fun _ _ ended => ended.moved _
  refine (enter_calm config (List.prefix_refl _)).bind fun _ => ?_
  refine (pass_calm config fun _ _ => rfl).bind fun _ => ?_
  exact (onPrimary_calm config _).bind fun _ _ calm => calm

theorem sends_calm (config : Config) (image : List UInt8) (segments : List SegmentInfo) :
    Triple (Calm secondary visited [image])
      (segments.mapM fun segment => secondary.recording.send segment.path)
      (fun bodies => Calm secondary visited (image :: bodies)) (Ended secondary config) := by
  have step (bodies : List (List UInt8)) (segment : SegmentInfo) :
      Triple (Calm secondary visited (image :: bodies)) (secondary.recording.send segment.path)
        (fun body => Calm secondary visited (image :: (bodies ++ [body])))
        (Ended secondary config) := send_calm config segment.path
  exact Triple.mapM_append step segments []

theorem checkpoint_calm (config : Config) :
    Triple (fun state => Calm secondary [] [] state ∧ secondary.Configured config state.primary)
      secondary.recording.checkpoint
      (fun _ state => ∃ contents, Calm secondary RoundStage.course contents state)
      (Ended secondary config) := by
  have keeps : secondary.recording.injector.Keeps (secondary.Configured config) :=
    fun hook primary both => secondary.keeps_configured config hook primary both.1
  have hook {hook : Hook} (quiet : ∀ primary passed, hook.sends primary passed = []) :
      Triple (fun state => Calm secondary [] [] state ∧ secondary.Configured config state.primary)
        (secondary.recording.pass hook)
        (fun _ state => Calm secondary [] [] state ∧ secondary.Configured config state.primary)
        (Ended secondary config) :=
    (pass_calm config quiet).both (pass_keeps keeps hook)
  have storage (action : Storage → Except StorageFault Storage) :
      Triple (fun state => Calm secondary [] [] state ∧ secondary.Configured config state.primary)
        (onStorage action)
        (fun _ state => Calm secondary [] [] state ∧ secondary.Configured config state.primary)
        (Ended secondary config) := by
    refine (onPrimary_calm config _).both (onPrimary_keeps (secondary.Configured config) ?_)
    intro primary here
    cases action primary.storage <;> exact here
  refine (hook fun _ _ => rfl).bind fun _ => ?_
  refine (storage _).bind fun _ => Triple.get_bind fun current _ => ?_
  refine (storage _).bind fun _ => Triple.ensuring_kept ?_
    (fun _ _ ⟨contents, calm⟩ => ⟨contents, calm.moved _⟩) fun _ _ ended => ended.moved _
  refine (hook fun _ _ => rfl).bind fun _ => Triple.get_bind_eq fun listed here => ?_
  have heading : Triple (· = listed) (enter .headerSent)
      (fun _ => Calm secondary [.headerSent] []) (Ended secondary config) := by
    rintro state rfl
    exact enter_calm config (List.prefix_append [RoundStage.headerSent] _) state here.1
  refine heading.bind fun _ => (send_calm config _).bind fun image => ?_
  refine (sends_calm config image _).bind fun bodies => ?_
  refine (enter_calm config (by decide)).bind fun _ => ?_
  refine (pass_calm config fun _ _ => rfl).bind fun _ => ?_
  simp only [recording]
  cases merged : secondary.merger image bodies listed.primary.config with
  | error error =>
    intro state calm
    cases error with
    | io fault => exact calm.ended (.error _)
    | _ => exact calm.ended (.merger rfl here.2 merged)
  | ok merged =>
    refine (onPrimary_calm config _).bind fun _ => (send_calm config _).bind fun uploaded => ?_
    exact (install_calm config uploaded _).post_imp fun _ _ calm => ⟨_, calm⟩

end Secondary

namespace RoundReport

variable {ε : Type}

structure Tells (report : RoundReport) (secondary : Secondary ε) (config : Config) (sent : Notes) :
    Prop where
  short : report.outcome = .shortFile ↔
    ∃ file, report.injected = some (.damage (.truncated file))
  flipped : report.outcome = .corruptedByte ↔
    ∃ file, report.injected = some (.damage (.corruptedByte file))
  hook : ∀ name, report.injected = some (.hookFailed name) →
    ∃ message, report.outcome = .rejected (name ++ ": " ++ message)
  rejected : ∀ reason, report.outcome = .rejected reason → report.injected = none →
    ∃ image bodies listed error, sent.map (·.2) = image :: bodies ∧
      secondary.Configured config listed ∧
      secondary.merger image bodies listed.config = .error error ∧
      reason = s!"merge failed: {error.message}"
  damaged : ∀ path bytes, (path, bytes) ∈ sent → bytes ≠ [] →
    (secondary.injector.truncates path = true ∨ secondary.injector.corrupts path = true) →
    report.outcome ≠ .success
  unharmed : report.outcome = .success → report.injected = none
  stages : ∃ visited, report.stages = .idle :: visited ++ [.idle] ∧
    visited <+: RoundStage.course ∧ (report.outcome = .success → visited = RoundStage.course)

end RoundReport

namespace Secondary

variable {ε : Type} {secondary : Secondary ε}

theorem Calm.tells {config : Config} {contents : List (List UInt8)} {state : RoundState (ε × Notes)}
    (calm : Calm secondary RoundStage.course contents state) (source : SegmentInfo)
    (image : ImagePointer) :
    RoundReport.Tells ⟨source, state.injected, .success, state.stages ++ [.idle], image⟩ secondary
      config state.extra.2 := by
  have unharmed := calm.injected
  constructor
  case short => simp [unharmed]
  case flipped => simp [unharmed]
  case hook => simp [unharmed]
  case rejected => exact nofun
  case damaged =>
    intro path bytes member filled asked
    rcases calm.spared _ member with empty | ⟨whole, intact⟩
    · exact absurd empty filled
    · simp [whole, intact] at asked
  case unharmed => exact fun _ => unharmed
  case stages => exact ⟨_, by rw [calm.stages], calm.order, fun _ => rfl⟩

theorem Ended.tells {config : Config} {cause : Abort} {state : RoundState (ε × Notes)}
    (ended : Ended secondary config cause state) {result : RoundOutcome}
    (given : outcome (.error cause) = .ok result) (source : SegmentInfo) (image : ImagePointer) :
    RoundReport.Tells ⟨source, state.injected, result, state.stages ++ [.idle], image⟩ secondary
      config state.extra.2 := by
  obtain ⟨blames, visited, stages, order⟩ := ended
  have failed : result ≠ .success := fun success =>
    outcome_ne_success cause (given.trans (congrArg Except.ok success))
  have idle : state.stages ++ [.idle] = .idle :: visited ++ [.idle] := by rw [stages]
  generalize state.injected = injected at blames ⊢
  constructor
  case short => cases blames <;> cases given <;> simp
  case flipped => cases blames <;> cases given <;> simp
  case hook =>
    rintro name rfl
    cases blames with
    | hook hook error =>
      cases given
      exact ⟨error.message, rfl⟩
  case rejected =>
    rintro reason rfl rfl
    cases blames with
    | merger fetched configured refused =>
      cases given
      exact ⟨_, _, _, _, fetched, configured, refused, rfl⟩
    | error error => cases given
  case damaged => exact fun _ _ _ _ _ => failed
  case unharmed => exact fun success => absurd success failed
  case stages => exact ⟨visited, idle, order, fun success => absurd success failed⟩

theorem tells_of_runRound {primary after : Primary} {extra extra' : ε} {sent : Notes}
    {report : RoundReport} (ran : secondary.recording.runRound primary (extra, []) =
      ((after, extra', sent), .ok report)) :
    report.Tells secondary primary.config sent ∧ report.image = after.image := by
  obtain ⟨next, source, result, state, rolled, held, given, rfl, noted, told⟩ := runRound_eq_ok ran
  obtain rfl : sent = state.extra.2 := congrArg Prod.snd noted
  obtain ⟨storage, active, finalized, same⟩ := primary.roll_same
  have configured : next.config = primary.config := by
    rw [show next = primary.roll.1 by rw [rolled], same]
  have known := checkpoint_calm primary.config _ ⟨secondary.calm_opening next extra, fun _ => configured⟩
  rw [held] at known
  refine ⟨?_, by rw [told]⟩
  rw [told]
  cases result with
  | ok value =>
    obtain ⟨contents, calm⟩ := known
    rw [← Except.ok.inj given]
    exact calm.tells source _
  | error cause => exact Ended.tells known given source _

end Secondary

end Journal
