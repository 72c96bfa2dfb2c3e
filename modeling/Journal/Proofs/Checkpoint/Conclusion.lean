import Journal.Proofs.Checkpoint.Interference

set_option autoImplicit false

namespace Journal

open Primary (Acts Calls Linked)

namespace Primary

variable {primary next after : Primary} {source : SegmentInfo} {ids : List UInt64}

theorem Chained.rolled_source (chained : primary.Chained) (room : primary.HasRoom 2)
    (rolled : primary.roll = (next, .ok source)) :
    source ∈ next.finalized ∧ next.active.firstTxid.toNat = source.lastTxid.toNat + 1 := by
  obtain ⟨recent, tidy⟩ := chained.tidy
  rcases tidy.roll_cases room with ⟨error, failed⟩ | ⟨info, storage, active, result, done, known, ended⟩
  · cases rolled.symm.trans failed
  · cases rolled.symm.trans done
    obtain rfl := known source rfl
    refine ⟨List.mem_append_right _ List.mem_cons_self, ?_⟩
    have last := ended.last
    rw [ended.next]
    exact Txid.toNat_succ (by rw [last]; rw [HasRoom] at room; omega)

theorem Chained.nothing_left (chained : primary.Chained) {last : UInt64}
    (covered : last ≤ primary.image.lastTxid)
    (follows : primary.active.firstTxid.toNat = last.toNat + 1) :
    primary.image.lastTxid = last ∧ primary.finalized = [] := by
  obtain ⟨recent, tidy⟩ := chained.tidy
  have linked := chained.linked
  have covered := UInt64.le_iff_toNat_le.mp covered
  cases listed : primary.finalized with
  | nil =>
    rw [listed, Linked] at linked
    exact ⟨UInt64.toNat_inj.mp (by omega), rfl⟩
  | cons info rest =>
    rw [listed, Linked] at linked
    obtain ⟨extent, before⟩ := tidy.extent info (by rw [listed]; exact List.mem_cons_self)
    have extent := UInt64.lt_iff_toNat_lt.mp extent
    have before := UInt64.lt_iff_toNat_lt.mp before
    omega

theorem Acts.image (acts : Acts primary ids after) : after.image = primary.image := by
  induction acts with
  | none => rfl
  | log acts room operation ih => exact ih
  | sync acts ih => exact ih
  | roll acts room ih => exact (image_roll _).trans ih

end Primary

theorem Injector.Orderly.keeps_image {ε : Type} {injector : Injector ε} {given : ε → List UInt64}
    (orderly : injector.Orderly given) (image : ImagePointer) : injector.Keeps (·.image = image) := by
  rintro hook primary extra rfl
  obtain ⟨ids, known, acts, -⟩ := orderly hook primary extra
  exact acts.image

variable {ε : Type} {secondary : Secondary ε} {given : ε → List UInt64} {primary after : Primary}
  {extra extra' : ε} {report : RoundReport} {sent : Notes}

structure RoundReport.Achieves (report : RoundReport) (secondary : Secondary ε) (primary : Primary)
    (sent : Notes) (after : Primary) : Prop where
  merged : ∃ image bodies merged, sent.map (·.2) = image :: bodies ++ [merged] ∧
    secondary.merger image bodies primary.config = .ok merged ∧
    after.storage.read after.image.path = .ok merged
  covers : report.source.lastTxid ≤ after.image.lastTxid
  linked : Linked after.image.lastTxid after.finalized after.active.firstTxid
  alone : after.active.firstTxid = primary.roll.1.active.firstTxid →
    after.image.lastTxid = report.source.lastTxid ∧ after.finalized = []

namespace Secondary

theorem achieves_of_runRound (orderly : secondary.injector.Orderly given)
    (chained : primary.Chained) (room : primary.HasRoom 2)
    (ran : secondary.recording.runRound primary (extra, []) = ((after, extra', sent), .ok report))
    (success : report.outcome = .success) :
    report.Achieves secondary primary sent after := by
  obtain ⟨next, source, result, state, rolled, held, known, rfl, noted, told⟩ := runRound_eq_ok ran
  obtain rfl : sent = state.extra.2 := congrArg Prod.snd noted
  obtain ⟨listed, follows⟩ := chained.rolled_source room rolled
  obtain ⟨linked, advances⟩ := chained.roll room
  rw [rolled] at linked advances
  have concluded := checkpoint_underway orderly.recording (opening .idle next (extra, []))
    ⟨⟨(Ongoing.refl linked _ _).lock true, trivial⟩, secondary.calm_opening next extra⟩
  rw [held] at concluded
  have source' : report.source = source := by rw [told]
  cases result with
  | error cause => exact absurd (known.trans (congrArg Except.ok success)) (outcome_ne_success cause)
  | ok value =>
    obtain ⟨image, bodies, merged, last, contents, made, newest, settled⟩ := concluded
    have covered : source.lastTxid ≤ state.primary.image.lastTxid := by
      rw [settled.shows.last]
      exact newest source listed
    refine ⟨⟨image, bodies, merged, contents, advances.config ▸ made, settled.shows.read⟩,
      source' ▸ covered, settled.chained.linked, fun same => ?_⟩
    rw [rolled] at same
    rw [source']
    exact settled.chained.nothing_left covered ((congrArg UInt64.toNat same).trans follows)

/-- Whatever the hooks do and whatever the merger makes of the files, the report is right about what
has been injected, how the round has ended and which stages it went through. The image stays as it is
unless the round succeeds. Then it is what the merger has made, and goes as far as the segment that the
round has rolled, or beyond that if a hook has rolled as well. -/
theorem report_of_round
    (ran : secondary.runRound primary extra = ((after, extra'), .ok report)) :
    ∃ sent, secondary.recording.runRound primary (extra, []) =
        ((after, extra', sent), .ok report) ∧
      report.Tells secondary primary.config sent ∧ report.image = after.image ∧
      (secondary.injector.Keeps (·.image = primary.image) → report.outcome ≠ .success →
        after.image = primary.image) ∧
      ∀ {storage : Storage} {directory : Path} {config : Config} {start : Primary}
        {ids : List UInt64}, storage.Sound → Primary.format storage directory config = .ok start →
        Calls start ids primary → primary.HasRoom 2 →
        ∀ {given : ε → List UInt64}, secondary.injector.Orderly given →
          (report.outcome ≠ .success → after.image = primary.image) ∧
            (report.outcome = .success → report.Achieves secondary primary sent after) := by
  obtain ⟨sent, recorded⟩ := secondary.runRound_recording primary extra
  rw [ran] at recorded
  obtain ⟨tells, image⟩ := tells_of_runRound recorded
  have unmoved (keeps : secondary.injector.Keeps (·.image = primary.image))
      (unsuccessful : report.outcome ≠ .success) : after.image = primary.image := by
    have leaves := coordinate_leaves keeps .idle extra
    rw [runRound] at ran
    generalize secondary.coordinate .idle primary extra = ended at leaves ran
    obtain ⟨⟨last, known, stage⟩, result⟩ := ended
    cases ran
    rcases leaves with ⟨again, succeeded, success⟩ | kept | ⟨error, failed, -⟩
    · cases succeeded
      exact absurd success unsuccessful
    · exact kept
    · cases failed
  refine ⟨sent, recorded, tells, image, unmoved, ?_⟩
  intro storage directory config start ids sound formatted calls room given orderly
  obtain ⟨chained, -⟩ := calls.onward (Primary.chained_format sound formatted)
  exact ⟨unmoved (orderly.keeps_image _), achieves_of_runRound orderly chained room recorded⟩

theorem report_of_round_alone :
    ∃ primary after report, Primary.format .empty ["primary"] .standard = .ok primary ∧
      runRound ⟨["work"], Merger.consolidate, .none⟩ primary () = ((after, ()), .ok report) ∧
      report.outcome = .success ∧ report.injected = none ∧
      after.image.lastTxid = report.source.lastTxid ∧ after.finalized = [] := by
  let secondary : Secondary Unit := ⟨["work"], Merger.consolidate, .none⟩
  have held : (Primary.format .empty ["primary"] .standard).toOption.any fun primary =>
      primary.HasRoom 2 ∧ (secondary.runRound primary ()).2.toOption.any (·.isSuccess) ∧
        (secondary.runRound primary ()).1.1.active.firstTxid =
          primary.roll.1.active.firstTxid := by
    decide +kernel
  cases formatted : Primary.format .empty ["primary"] .standard with
  | error error =>
    rw [formatted] at held
    contradiction
  | ok primary =>
    rw [formatted, Except.toOption, Option.any_some, decide_eq_true_iff] at held
    obtain ⟨room, succeeded, same⟩ := held
    cases ran : secondary.runRound primary () with
    | mk ended result =>
      rw [ran] at succeeded same
      cases result with
      | error error => contradiction
      | ok report =>
        have success : report.outcome = .success := of_decide_eq_true succeeded
        have passive : secondary.injector.Passive := fun _ _ _ => rfl
        obtain ⟨sent, -, tells, -, -, reachable⟩ := report_of_round ran
        obtain ⟨-, achieves⟩ :=
          reachable Storage.sound_empty formatted .none room passive.orderly
        obtain ⟨covered, empty⟩ := (achieves success).alone same
        exact ⟨primary, ended.1, report, rfl, ran, success, tells.unharmed success, covered, empty⟩

end Secondary

def Injector.rolling : Injector Unit where
  onHook hook primary _ :=
    if hook = .duringMerge then ((primary.roll.1, ()), .ok ()) else ((primary, ()), .ok ())
  truncates _ := false
  corrupts _ := false

theorem Secondary.success_leaves_segment :
    ¬ ∀ primary after report, Primary.format .empty ["primary"] .standard = .ok primary →
      Secondary.runRound ⟨["work"], Merger.consolidate, .rolling⟩ primary () =
        ((after, ()), .ok report) →
      report.outcome = .success → after.finalized = [] := by
  intro none
  let secondary : Secondary Unit := ⟨["work"], Merger.consolidate, .rolling⟩
  have held : (Primary.format .empty ["primary"] .standard).toOption.any fun primary =>
      (secondary.runRound primary ()).2.toOption.any (·.isSuccess) ∧
        (secondary.runRound primary ()).1.1.finalized ≠ [] := by
    decide +kernel
  cases formatted : Primary.format .empty ["primary"] .standard with
  | error error =>
    rw [formatted] at held
    contradiction
  | ok primary =>
    rw [formatted, Except.toOption, Option.any_some, decide_eq_true_iff] at held
    obtain ⟨succeeded, left⟩ := held
    cases ran : secondary.runRound primary () with
    | mk ended result =>
      rw [ran] at succeeded left
      cases result with
      | error error => contradiction
      | ok report =>
        exact left (none primary ended.1 report formatted ran (of_decide_eq_true succeeded))

end Journal
