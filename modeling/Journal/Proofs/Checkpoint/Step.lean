import Journal.Checkpoint.Round
import Journal.Proofs.Checkpoint.Transfer
import Journal.Proofs.Outcome

set_option autoImplicit false

namespace Journal

/-- Injectors whose hooks leave the primary alone. -/
def Injector.Passive {ε : Type} (injector : Injector ε) : Prop :=
  ∀ hook primary extra, (injector.onHook hook primary extra).1.1 = primary

def Injector.Keeps {ε : Type} (injector : Injector ε) (holds : Primary → Prop) : Prop :=
  ∀ hook primary extra, holds primary → holds (injector.onHook hook primary extra).1.1

def Injector.Preserves {ε : Type} (injector : Injector ε) (holds : Primary → ε → Prop) : Prop :=
  ∀ hook primary extra, holds primary extra →
    holds (injector.onHook hook primary extra).1.1 (injector.onHook hook primary extra).1.2

theorem Injector.Keeps.preserves {ε : Type} {injector : Injector ε} {holds : Primary → Prop}
    (keeps : injector.Keeps holds) : injector.Preserves fun primary _ => holds primary := keeps

theorem Injector.Passive.keeps {ε : Type} {injector : Injector ε} (passive : injector.Passive)
    (holds : Primary → Prop) : injector.Keeps holds := by
  intro hook primary extra here
  rwa [passive]

namespace Secondary

variable {ε α β : Type}

/-- From a state of which `pre` holds, `body` comes to a value and a state of which `post` holds, or it
ends the round in a state of which `abort` holds. -/
def Triple (pre : RoundState ε → Prop) (body : RoundM ε α) (post : α → RoundState ε → Prop)
    (abort : Abort → RoundState ε → Prop) : Prop :=
  ∀ state, pre state →
    match body.run.run state with
    | (.ok value, after) => post value after
    | (.error cause, after) => abort cause after

variable {pre : RoundState ε → Prop} {body : RoundM ε α} {post : α → RoundState ε → Prop}
  {abort : Abort → RoundState ε → Prop}

theorem run_bind (body : RoundM ε α) (next : α → RoundM ε β) (state : RoundState ε) :
    (body >>= next).run.run state =
      match body.run.run state with
      | (.ok value, after) => (next value).run.run after
      | (.error cause, after) => (.error cause, after) := by
  rw [ExceptT.run_bind, StateT.run_bind]
  cases body.run.run state with
  | mk result after => cases result <;> rfl

theorem Triple.bind {next : α → RoundM ε β} {last : β → RoundState ε → Prop}
    (first : Triple pre body post abort)
    (rest : ∀ value, Triple (post value) (next value) last abort) :
    Triple pre (body >>= next) last abort := by
  intro state holds
  have known := first state holds
  rw [run_bind]
  cases ran : body.run.run state with
  | mk result after =>
    rw [ran] at known
    cases result with
    | error cause => exact known
    | ok value => exact rest value after known

theorem Triple.imp {pre' : RoundState ε → Prop} {post' : α → RoundState ε → Prop}
    {abort' : Abort → RoundState ε → Prop} (triple : Triple pre body post abort)
    (before : ∀ state, pre' state → pre state)
    (after : ∀ value state, post value state → post' value state)
    (aborted : ∀ cause state, abort cause state → abort' cause state) :
    Triple pre' body post' abort' := by
  intro state holds
  have known := triple state (before state holds)
  cases ran : body.run.run state with
  | mk result last =>
    rw [ran] at known
    cases result with
    | error cause => exact aborted cause last known
    | ok value => exact after value last known

theorem Triple.pre_imp {pre' : RoundState ε → Prop} (triple : Triple pre body post abort)
    (before : ∀ state, pre' state → pre state) : Triple pre' body post abort :=
  triple.imp before (fun _ _ known => known) fun _ _ known => known

theorem Triple.post_imp {post' : α → RoundState ε → Prop} (triple : Triple pre body post abort)
    (after : ∀ value state, post value state → post' value state) : Triple pre body post' abort :=
  triple.imp (fun _ here => here) after fun _ _ known => known

theorem Triple.abort_imp {abort' : Abort → RoundState ε → Prop} (triple : Triple pre body post abort)
    (aborted : ∀ cause state, abort cause state → abort' cause state) :
    Triple pre body post abort' :=
  triple.imp (fun _ here => here) (fun _ _ known => known) aborted

theorem Triple.both {pre' : RoundState ε → Prop} {post' : α → RoundState ε → Prop}
    {abort' : Abort → RoundState ε → Prop} (first : Triple pre body post abort)
    (second : Triple pre' body post' abort') :
    Triple (fun state => pre state ∧ pre' state) body
      (fun value state => post value state ∧ post' value state) abort := by
  rintro state ⟨here, here'⟩
  have known := first state here
  have known' := second state here'
  cases ran : body.run.run state with
  | mk result last =>
    rw [ran] at known known'
    cases result with
    | error cause => exact known
    | ok value => exact ⟨known, known'⟩

theorem Triple.under {fact : Prop} (triple : fact → Triple pre body post abort) :
    Triple (fun state => pre state ∧ fact) body post abort :=
  fun state known => triple known.2 state known.1

theorem Triple.ensuring {after : RoundState ε → RoundState ε}
    (triple : Triple pre body (fun value state => post value (after state))
      fun cause state => abort cause (after state)) :
    Triple pre (ensuring after body) post abort := by
  intro state holds
  have known := triple state holds
  cases ran : body.run.run state with
  | mk result last =>
    have run : (Secondary.ensuring after body).run.run state = (result, after last) := by
      change ((body.run.run state).1, after (body.run.run state).2) = _
      rw [ran]
    rw [ran] at known
    rw [run]
    cases result <;> exact known

theorem Triple.ensuring_kept {after : RoundState ε → RoundState ε}
    (triple : Triple pre body post abort)
    (kept : ∀ value state, post value state → post value (after state))
    (aborted : ∀ cause state, abort cause state → abort cause (after state)) :
    Triple pre (Secondary.ensuring after body) post abort :=
  Triple.ensuring (triple.imp (fun _ here => here) kept aborted)

theorem Triple.get_bind_eq {next : RoundState ε → RoundM ε β} {last : β → RoundState ε → Prop}
    (rest : ∀ state, pre state → Triple (· = state) (next state) last abort) :
    Triple pre (get >>= next) last abort := by
  intro state here
  rw [run_bind]
  exact rest state here state rfl

theorem Triple.get_bind {next : RoundState ε → RoundM ε β} {last : β → RoundState ε → Prop}
    (rest : ∀ state, pre state → Triple pre (next state) last abort) :
    Triple pre (get >>= next) last abort :=
  Triple.get_bind_eq fun state here => (rest state here).imp (fun _ same => same ▸ here)
    (fun _ _ known => known) fun _ _ known => known

theorem Triple.mapM_append {each : β → RoundM ε α} {holds : List α → RoundState ε → Prop}
    (step : ∀ done item,
      Triple (holds done) (each item) (fun value => holds (done ++ [value])) abort)
    (items : List β) (done : List α) :
    Triple (holds done) (items.mapM each) (fun values => holds (done ++ values)) abort := by
  induction items generalizing done with
  | nil =>
    intro state here
    change holds (done ++ []) state
    rwa [List.append_nil]
  | cons item items ih =>
    rw [List.mapM_cons]
    refine (step done item).bind fun value => (ih (done ++ [value])).bind fun values => ?_
    intro state here
    change holds (done ++ value :: values) state
    rwa [List.append_cons]

theorem Triple.mapM {each : β → RoundM ε α} (kept : ∀ item, Triple pre (each item) (fun _ => pre) abort)
    (items : List β) : Triple pre (items.mapM each) (fun _ => pre) abort :=
  Triple.mapM_append (fun _ item => kept item) items []

theorem enter_preserves (holds : Primary → ε → Prop) (stage : RoundStage) :
    Triple (fun state => holds state.primary state.extra) (enter stage)
      (fun _ state => holds state.primary state.extra) abort :=
  fun _ here => here

theorem enter_triple (holds : Primary → Prop) (stage : RoundStage) :
    Triple (fun state : RoundState ε => holds state.primary) (enter stage)
      (fun _ state => holds state.primary) abort :=
  enter_preserves (fun primary _ => holds primary) stage

theorem run_get (state : RoundState ε) :
    (get : RoundM ε (RoundState ε)).run.run state = (.ok state, state) := rfl

theorem run_set (next state : RoundState ε) :
    (set next : RoundM ε PUnit).run.run state = (.ok (), next) := rfl

theorem run_pass (secondary : Secondary ε) (hook : Hook) (state : RoundState ε) :
    (secondary.pass hook).run.run state =
      match secondary.injector.onHook hook state.primary state.extra with
      | ((primary, extra), .ok ()) => (.ok (), { state with primary := primary, extra := extra })
      | ((primary, extra), .error error) =>
        (.error (.rejected s!"{hook.name}: {error.message}"), { state with
          primary := primary
          extra := extra
          injected := some (.hookFailed hook.name) }) := by
  obtain ⟨workDirectory, merger, onHook, truncates, corrupts⟩ := secondary
  simp only [pass, run_bind, run_get, run_set]
  cases onHook hook state.primary state.extra with
  | mk both result => cases result <;> rfl

theorem run_onPrimary (action : Primary → Primary × Except Error α) (state : RoundState ε) :
    (onPrimary action).run.run state =
      match action state.primary with
      | (primary, .ok value) => (.ok value, { state with primary := primary })
      | (primary, .error error) => (.error (.error error), { state with primary := primary }) := by
  simp only [onPrimary, run_bind, run_get]
  cases action state.primary with
  | mk primary result => cases result <;> rfl

theorem pass_preserves {secondary : Secondary ε} {holds : Primary → ε → Prop}
    (preserves : secondary.injector.Preserves holds) (hook : Hook) :
    Triple (fun state => holds state.primary state.extra) (secondary.pass hook)
      (fun _ state => holds state.primary state.extra)
      (fun _ state => holds state.primary state.extra) := by
  intro state here
  have kept := preserves hook state.primary state.extra here
  rw [run_pass]
  cases answer : secondary.injector.onHook hook state.primary state.extra with
  | mk both result =>
    rw [answer] at kept
    cases result <;> exact kept

theorem pass_keeps {secondary : Secondary ε} {holds : Primary → Prop}
    (keeps : secondary.injector.Keeps holds) (hook : Hook) :
    Triple (fun state => holds state.primary) (secondary.pass hook)
      (fun _ state => holds state.primary) (fun _ state => holds state.primary) :=
  pass_preserves keeps.preserves hook

theorem pass_triple {secondary : Secondary ε} (passive : secondary.injector.Passive)
    (holds : Primary → Prop) (hook : Hook) :
    Triple (fun state => holds state.primary) (secondary.pass hook)
      (fun _ state => holds state.primary) (fun _ state => holds state.primary) :=
  pass_keeps (passive.keeps holds) hook

theorem onPrimary_triple (action : Primary → Primary × Except Error α) (primary : Primary) :
    Triple (fun state : RoundState ε => state.primary = primary) (onPrimary action)
      (fun value state => action primary = (state.primary, .ok value))
      (fun cause state => ∃ error, cause = .error error ∧
        action primary = (state.primary, .error error)) := by
  rintro state rfl
  rw [run_onPrimary]
  cases answer : action state.primary with
  | mk primary result =>
    cases result with
    | ok value => rfl
    | error error => exact ⟨error, rfl, rfl⟩

theorem onPrimary_keeps (holds : Primary → Prop) {action : Primary → Primary × Except Error α}
    (kept : ∀ primary, holds primary → holds (action primary).1) :
    Triple (fun state : RoundState ε => holds state.primary) (onPrimary action)
      (fun _ state => holds state.primary) (fun _ state => holds state.primary) := by
  intro state here
  have kept := kept state.primary here
  rw [run_onPrimary]
  cases answer : action state.primary with
  | mk primary result =>
    rw [answer] at kept
    cases result <;> exact kept

theorem onStorage_triple (action : Storage → Except StorageFault Storage) (primary : Primary) :
    Triple (fun state : RoundState ε => state.primary = primary) (onStorage action)
      (fun _ state => ∃ storage, action primary.storage = .ok storage ∧
        state.primary = { primary with storage := storage })
      (fun _ state => state.primary = primary) := by
  rintro state rfl
  rw [onStorage, run_onPrimary]
  cases answer : action state.primary.storage with
  | error fault => rfl
  | ok storage => exact ⟨storage, rfl, rfl⟩

theorem Triple.send {secondary : Secondary ε} {path : Path} {passed : RoundState ε → Prop}
    {post : List UInt8 → RoundState ε → Prop}
    (hook : Triple pre (secondary.pass (.beforeFileSend path)) (fun _ => passed) abort)
    (unread : ∀ state fault, passed state → state.primary.storage.read path = .error fault →
      abort (.error (.ofStorage fault)) state)
    (whole : ∀ state bytes, passed state → state.primary.storage.read path = .ok bytes →
      bytes = [] ∨ secondary.injector.truncates path = false ∧
        secondary.injector.corrupts path = false → post bytes state)
    (damaged : ∀ state bytes damage fault, passed state →
      state.primary.storage.read path = .ok bytes →
      Package.Transfer path.name bytes (secondary.injector.truncates path)
        (secondary.injector.corrupts path) (some damage) (.error fault) →
      abort (.transfer fault) { state with injected := some (.damage damage) }) :
    Triple pre (secondary.send path) post abort := by
  refine hook.bind fun _ => Triple.get_bind_eq fun current here => ?_
  rintro state rfl
  cases read : state.primary.storage.read path with
  | error fault => exact unread state fault here read
  | ok bytes =>
    have transfer := Package.transfer_send path.name bytes (secondary.injector.truncates path)
      (secondary.injector.corrupts path)
    cases sent : Package.send path.name bytes (secondary.injector.truncates path)
        (secondary.injector.corrupts path) with
    | mk package damage =>
      rw [sent] at transfer
      cases arrived : package.receive with
      | ok pair =>
        simp only [arrived] at transfer
        cases transfer with
        | whole spared =>
          simp only [sent, arrived]
          exact whole state bytes here read spared
      | error fault =>
        simp only [arrived] at transfer
        cases damage with
        | none => cases transfer
        | some damage =>
          simp only [sent, arrived]
          exact damaged state bytes damage fault here read transfer

theorem send_preserves {secondary : Secondary ε} {holds : Primary → ε → Prop}
    (preserves : secondary.injector.Preserves holds) (path : Path) :
    Triple (fun state => holds state.primary state.extra) (secondary.send path)
      (fun body state => holds state.primary state.extra ∧
        state.primary.storage.read path = .ok body)
      (fun _ state => holds state.primary state.extra) :=
  Triple.send (pass_preserves preserves _) (fun _ _ here _ => here)
    (fun _ _ here read _ => ⟨here, read⟩) fun _ _ _ _ here _ _ => here

theorem send_triple {secondary : Secondary ε} (passive : secondary.injector.Passive)
    (primary : Primary) (path : Path) :
    Triple (·.primary = primary) (secondary.send path)
      (fun body state => state.primary = primary ∧ primary.storage.read path = .ok body)
      (fun _ state => state.primary = primary) :=
  (send_preserves (passive.keeps (· = primary)).preserves path).post_imp
    fun _ _ ⟨same, read⟩ => ⟨same, same ▸ read⟩

theorem send_keeps {secondary : Secondary ε} {holds : Primary → Prop}
    (keeps : secondary.injector.Keeps holds) (path : Path) :
    Triple (fun state => holds state.primary) (secondary.send path)
      (fun _ state => holds state.primary) (fun _ state => holds state.primary) :=
  (send_preserves keeps.preserves path).post_imp fun _ _ known => known.1

theorem sends_triple {secondary : Secondary ε} (passive : secondary.injector.Passive)
    (primary : Primary) (segments : List SegmentInfo) :
    Triple (·.primary = primary) (segments.mapM fun segment => secondary.send segment.path)
      (fun bodies state => state.primary = primary ∧
        segments.mapM (fun segment => primary.storage.read segment.path) = .ok bodies)
      (fun _ state => state.primary = primary) := by
  induction segments with
  | nil => exact fun _ same => ⟨same, rfl⟩
  | cons segment segments ih =>
    rw [List.mapM_cons]
    apply (send_triple passive primary segment.path).bind
    intro body state known
    have others : Triple (·.primary = primary)
        (do
          let bodies ← segments.mapM fun segment => secondary.send segment.path
          return body :: bodies)
        (fun bodies state => state.primary = primary ∧
          (segment :: segments).mapM (fun segment => primary.storage.read segment.path) = .ok bodies)
        (fun _ state => state.primary = primary) := by
      apply ih.bind
      intro bodies
      rintro state ⟨same, mapped⟩
      refine ⟨same, ?_⟩
      rw [List.mapM_cons, known.2, ok_bind, mapped]
      rfl
    exact others state known.1

theorem outcome_ne_success (cause : Abort) : outcome (.error cause) ≠ .ok .success := by
  cases cause with
  | transfer fault => cases fault <;> exact nofun
  | rejected reason => exact nofun
  | error error => exact nofun

def opening (stage : RoundStage) (primary : Primary) (extra : ε) : RoundState ε :=
  ⟨{ primary with roundRunning := true }, extra, none, stage, [.idle]⟩

theorem coordinate_eq (secondary : Secondary ε) (stage : RoundStage) (primary : Primary)
    (extra : ε) :
    secondary.coordinate stage primary extra =
      if primary.roundRunning then
        ((primary, extra, stage), .error (.incompleteCheckpoint "another round is in progress"))
      else
        match primary.roll with
        | (next, .error error) => ((next, extra, stage), .error error)
        | (next, .ok source) =>
          let (result, state) := secondary.checkpoint.run.run (opening stage next extra)
          (({ state.primary with roundRunning := false }, state.extra, .idle),
            (outcome result).map fun outcome =>
              ⟨source, state.injected, outcome, state.stages ++ [.idle], state.primary.image⟩) := by
  rw [coordinate]
  split
  · rfl
  · cases primary.roll with
    | mk next result => cases result <;> rfl

theorem runRound_eq (secondary : Secondary ε) (primary : Primary) (extra : ε) :
    secondary.runRound primary extra =
      if primary.roundRunning then
        ((primary, extra), .error (.incompleteCheckpoint "another round is in progress"))
      else
        match primary.roll with
        | (next, .error error) => ((next, extra), .error error)
        | (next, .ok source) =>
          let (result, state) := secondary.checkpoint.run.run (opening .idle next extra)
          (({ state.primary with roundRunning := false }, state.extra),
            (outcome result).map fun outcome =>
              ⟨source, state.injected, outcome, state.stages ++ [.idle], state.primary.image⟩) := by
  rw [runRound, coordinate_eq]
  by_cases running : primary.roundRunning = true
  · rw [if_pos running, if_pos running]
  · rw [if_neg running, if_neg running]
    cases primary.roll with
    | mk next result => cases result <;> rfl

theorem runRound_eq_ok {secondary : Secondary ε} {primary after : Primary} {extra extra' : ε}
    {report : RoundReport}
    (ran : secondary.runRound primary extra = ((after, extra'), .ok report)) :
    ∃ next source result state, primary.roll = (next, .ok source) ∧
      secondary.checkpoint.run.run (opening .idle next extra) = (result, state) ∧
      outcome result = .ok report.outcome ∧
      after = { state.primary with roundRunning := false } ∧ extra' = state.extra ∧
      report = ⟨source, state.injected, report.outcome, state.stages ++ [.idle],
        state.primary.image⟩ := by
  rw [runRound_eq] at ran
  split at ran
  · cases ran
  · cases rolled : primary.roll with
    | mk next rolling =>
      rw [rolled] at ran
      cases rolling with
      | error error => cases ran
      | ok source =>
        cases held : secondary.checkpoint.run.run (opening .idle next extra) with
        | mk result state =>
          simp only [held] at ran
          cases given : outcome result with
          | error error =>
            rw [given] at ran
            cases ran
          | ok outcome =>
            rw [given] at ran
            cases ran
            exact ⟨next, source, result, state, rfl, held, given, rfl, rfl, rfl⟩

end Secondary

end Journal
