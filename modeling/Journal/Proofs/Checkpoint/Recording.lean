import Journal.Proofs.Checkpoint.Step

set_option autoImplicit false

namespace Journal

abbrev Notes := List (Path × List UInt8)

def Hook.sends (hook : Hook) (primary : Primary) (passed : Except Error Unit) : Notes :=
  match hook, passed with
  | .beforeFileSend path, .ok () =>
    match primary.storage.read path with
    | .ok bytes => [(path, bytes)]
    | .error _ => []
  | _, _ => []

def Injector.recording {ε : Type} (injector : Injector ε) : Injector (ε × Notes) where
  onHook hook primary both :=
    let ((primary, extra), passed) := injector.onHook hook primary both.1
    ((primary, extra, both.2 ++ hook.sends primary passed), passed)
  truncates := injector.truncates
  corrupts := injector.corrupts

def Secondary.recording {ε : Type} (secondary : Secondary ε) : Secondary (ε × Notes) :=
  ⟨secondary.workDirectory, secondary.merger, secondary.injector.recording⟩

def RoundState.forget {ε : Type} (state : RoundState (ε × Notes)) : RoundState ε :=
  ⟨state.primary, state.extra.1, state.injected, state.stage, state.stages⟩

namespace Secondary

variable {ε α β : Type} {plain : RoundM ε α} {body : RoundM (ε × Notes) α}

/-- Whether `body` does the same as `plain` but for notes. -/
def Mirrors (plain : RoundM ε α) (body : RoundM (ε × Notes) α) : Prop :=
  ∀ state, plain.run.run state.forget = ((body.run.run state).1, (body.run.run state).2.forget)

theorem Mirrors.bind {next : α → RoundM ε β} {next' : α → RoundM (ε × Notes) β}
    (first : Mirrors plain body) (rest : ∀ value, Mirrors (next value) (next' value)) :
    Mirrors (plain >>= next) (body >>= next') := by
  intro state
  rw [run_bind, run_bind, first state]
  cases body.run.run state with
  | mk result after =>
    cases result with
    | error cause => rfl
    | ok value => exact rest value after

theorem Mirrors.get_bind {next : RoundState ε → RoundM ε β}
    {next' : RoundState (ε × Notes) → RoundM (ε × Notes) β}
    (rest : ∀ state, Mirrors (next state.forget) (next' state)) :
    Mirrors (get >>= next) (get >>= next') := by
  intro state
  rw [run_bind, run_bind]
  exact rest state state

theorem Mirrors.ensuring {after : RoundState ε → RoundState ε}
    {after' : RoundState (ε × Notes) → RoundState (ε × Notes)} (mirrors : Mirrors plain body)
    (same : ∀ state, after state.forget = (after' state).forget) :
    Mirrors (ensuring after plain) (ensuring after' body) := by
  intro state
  change ((plain.run.run state.forget).1, after (plain.run.run state.forget).2) = _
  rw [mirrors state, same]
  rfl

theorem Mirrors.mapM {each : β → RoundM ε α} {each' : β → RoundM (ε × Notes) α}
    (mirrors : ∀ item, Mirrors (each item) (each' item)) (items : List β) :
    Mirrors (items.mapM each) (items.mapM each') := by
  induction items with
  | nil => exact fun _ => rfl
  | cons item items ih =>
    rw [List.mapM_cons, List.mapM_cons]
    exact (mirrors item).bind fun _ => ih.bind fun _ _ => rfl

theorem mirrors_onPrimary (action : Primary → Primary × Except Error α) :
    Mirrors (ε := ε) (onPrimary action) (onPrimary action) := by
  intro state
  rw [run_onPrimary, run_onPrimary]
  simp only [RoundState.forget]
  cases action state.primary with
  | mk primary result => cases result <;> rfl

variable (secondary : Secondary ε)

theorem mirrors_pass (hook : Hook) : Mirrors (secondary.pass hook) (secondary.recording.pass hook) := by
  intro state
  rw [run_pass, run_pass]
  simp only [RoundState.forget, recording, Injector.recording]
  cases answer : secondary.injector.onHook hook state.primary state.extra.1 with
  | mk both result => cases result <;> simp only [answer]

theorem mirrors_send (path : Path) : Mirrors (secondary.send path) (secondary.recording.send path) := by
  refine (secondary.mirrors_pass _).bind fun _ => Mirrors.get_bind fun current => ?_
  intro state
  simp only [RoundState.forget, recording, Injector.recording]
  cases current.primary.storage.read path with
  | error fault => rfl
  | ok bytes =>
    cases sent : Package.send path.name bytes (secondary.injector.truncates path)
        (secondary.injector.corrupts path) with
    | mk package damage =>
      cases arrived : package.receive <;> cases damage <;> simp only [sent, arrived] <;> rfl

theorem mirrors_install (bytes : List UInt8) (last : UInt64) :
    Mirrors (secondary.install bytes last) (secondary.recording.install bytes last) := by
  refine (mirrors_onPrimary _).bind fun staged => Mirrors.ensuring ?_ fun _ => rfl
  refine Mirrors.bind (fun _ => rfl) fun _ => (secondary.mirrors_pass _).bind fun _ => ?_
  exact (mirrors_onPrimary _).bind fun _ _ => rfl

theorem mirrors_checkpoint : Mirrors secondary.checkpoint secondary.recording.checkpoint := by
  refine (secondary.mirrors_pass _).bind fun _ => ?_
  refine (mirrors_onPrimary _).bind fun _ => Mirrors.get_bind fun current => ?_
  refine (mirrors_onPrimary _).bind fun _ => Mirrors.ensuring ?_ fun _ => rfl
  refine (secondary.mirrors_pass _).bind fun _ => Mirrors.get_bind fun current => ?_
  refine Mirrors.bind (fun _ => rfl) fun _ => (secondary.mirrors_send _).bind fun image => ?_
  refine (Mirrors.mapM (fun segment => secondary.mirrors_send _) _).bind fun bodies => ?_
  refine Mirrors.bind (fun _ => rfl) fun _ => (secondary.mirrors_pass _).bind fun _ => ?_
  simp only [recording, RoundState.forget]
  cases secondary.merger image bodies current.primary.config with
  | error error => cases error <;> exact fun _ => rfl
  | ok merged =>
    refine (mirrors_onPrimary _).bind fun _ => (secondary.mirrors_send _).bind fun uploaded => ?_
    exact secondary.mirrors_install uploaded _

theorem runRound_recording (primary : Primary) (extra : ε) :
    ∃ notes, secondary.recording.runRound primary (extra, []) =
      (((secondary.runRound primary extra).1.1, (secondary.runRound primary extra).1.2, notes),
        (secondary.runRound primary extra).2) := by
  rw [runRound_eq, runRound_eq]
  split
  · exact ⟨[], rfl⟩
  · cases primary.roll with
    | mk next result =>
      cases result with
      | error error => exact ⟨[], rfl⟩
      | ok source =>
        have mirrored := secondary.mirrors_checkpoint (opening .idle next (extra, []))
        rw [show (opening .idle next (extra, [])).forget = opening .idle next extra from rfl] at mirrored
        simp only [mirrored]
        exact ⟨_, rfl⟩

end Secondary

end Journal
