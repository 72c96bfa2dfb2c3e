import Journal.Proofs.Checkpoint.Commit
import Journal.Proofs.Checkpoint.Step

set_option autoImplicit false

namespace Journal

namespace Storage

inductive Stuck : Storage → List Path → Storage → StorageFault → Prop
  | here {storage : Storage} {path : Path} {rest : List Path} {fault : StorageFault}
      (refused : storage.removeFile path = .error fault) : Stuck storage (path :: rest) storage fault
  | later {storage next last : Storage} {path : Path} {rest : List Path} {fault : StorageFault}
      (removed : storage.removeFile path = .ok next) (stuck : Stuck next rest last fault) :
      Stuck storage (path :: rest) last fault

end Storage

namespace Primary

variable {primary after : Primary} {staged : StagedImage} {error : Error}

theorem removeSegments_eq_error {segments : List SegmentInfo} :
    primary.removeSegments segments = (after, .error error) ↔
      ∃ last fault, Storage.Stuck primary.storage (segments.map (·.path)) last fault ∧
        after = { primary with storage := last } ∧ error = .ofStorage fault := by
  induction segments generalizing primary with
  | nil =>
    constructor
    · intro failed
      cases failed
    · rintro ⟨last, fault, stuck, -⟩
      cases stuck
  | cons segment segments ih =>
    rw [removeSegments, removeFile, List.map_cons]
    cases removed : primary.storage.removeFile segment.path with
    | error fault =>
      constructor
      · intro failed
        cases failed
        exact ⟨_, fault, .here removed, rfl, rfl⟩
      · rintro ⟨last, fault', stuck, rfl, rfl⟩
        cases stuck with
        | here refused => cases removed.symm.trans refused; rfl
        | later again => cases removed.symm.trans again
    | ok next =>
      simp only [ih]
      constructor
      · rintro ⟨last, fault, stuck, rfl, rfl⟩
        exact ⟨last, fault, .later removed stuck, rfl, rfl⟩
      · rintro ⟨last, fault, stuck, rfl, rfl⟩
        cases stuck with
        | here refused => cases removed.symm.trans refused
        | later again stuck =>
          cases removed.symm.trans again
          exact ⟨last, fault, stuck, rfl, rfl⟩

theorem retire_eq_error {last : UInt64} :
    primary.retire last = (after, .error error) ↔
      ∃ storage fault, Storage.Stuck primary.storage
          ((primary.finalized.filter (·.lastTxid ≤ last)).map (·.path)) storage fault ∧
        after = { primary with storage := storage, finalized := primary.segmentsAfter last } ∧
        error = .ofStorage fault := by
  have kept : primary.segmentsAfter last =
      primary.finalized.filter fun info => !decide (info.lastTxid ≤ last) :=
    List.filter_congr fun info _ => by rw [← decide_not, decide_eq_decide, UInt64.not_le]
  rw [retire, List.partition_eq_filter_filter, kept]
  exact removeSegments_eq_error

/-- How far an installation has come when it fails, and what it leaves behind. -/
inductive FailedCommit (primary : Primary) (staged : StagedImage) : Primary → Error → Prop
  | unnamed {fault : StorageFault}
      (refused : primary.storage.rename staged.path (primary.installed staged).path = .error fault) :
      FailedCommit primary staged (primary.discard staged) (.ofStorage fault)
  | superseded {renamed : Storage} {fault : StorageFault}
      (named : primary.storage.rename staged.path (primary.installed staged).path = .ok renamed)
      (refused : renamed.supersede primary.image.path (primary.installed staged).path =
        .error fault) :
      FailedCommit primary staged
        { primary with storage := renamed, image := primary.installed staged } (.ofStorage fault)
  | retired {renamed cleaned last : Storage} {fault : StorageFault}
      (named : primary.storage.rename staged.path (primary.installed staged).path = .ok renamed)
      (removed : renamed.supersede primary.image.path (primary.installed staged).path = .ok cleaned)
      (stuck : cleaned.Stuck
        ((primary.finalized.filter (·.lastTxid ≤ staged.lastTxid)).map (·.path)) last fault) :
      FailedCommit primary staged
        { primary with
          storage := last
          finalized := primary.segmentsAfter staged.lastTxid
          image := primary.installed staged } (.ofStorage fault)

theorem commit_eq_error :
    primary.commit staged = (after, .error error) ↔ FailedCommit primary staged after error := by
  rw [commit_eq]
  constructor
  · intro failed
    split at failed
    · next fault refused =>
      cases failed
      exact .unnamed refused
    · next renamed named =>
      split at failed
      · next fault refused =>
        cases failed
        exact .superseded named refused
      · next cleaned removed =>
        split at failed
        · cases failed
        · next stopped =>
          cases failed
          obtain ⟨last, fault, stuck, rfl, rfl⟩ := retire_eq_error.mp stopped
          exact .retired named removed stuck
  · intro failed
    cases failed with
    | unnamed refused => simp only [refused]
    | superseded named refused => simp only [named, refused]
    | @retired renamed cleaned last fault named removed stuck =>
      have stopped : { primary with storage := cleaned, image := primary.installed staged }.retire
          staged.lastTxid = ({ primary with
            storage := last
            finalized := primary.segmentsAfter staged.lastTxid
            image := primary.installed staged }, .error (.ofStorage fault)) :=
        retire_eq_error.mpr ⟨last, fault, stuck, rfl, rfl⟩
      simp only [named, removed, stopped]

theorem FailedCommit.untouched_iff (failed : FailedCommit primary staged after error) :
    after.image = primary.image ∧ after.finalized = primary.finalized ↔
      ∃ fault, primary.storage.rename staged.path (primary.installed staged).path = .error fault := by
  cases failed with
  | unnamed refused => exact ⟨fun _ => ⟨_, refused⟩, fun _ => ⟨rfl, rfl⟩⟩
  | superseded named refused =>
    constructor
    · rintro ⟨same, -⟩
      rw [Storage.supersede, if_pos (congrArg ImagePointer.path same).symm] at refused
      contradiction
    · rintro ⟨fault, unnamed⟩
      cases named.symm.trans unnamed
  | retired named removed stuck =>
    constructor
    · rintro ⟨-, same⟩
      -- Then there is no segment to retire, and nothing to get stuck at.
      have none : primary.finalized.filter (·.lastTxid ≤ staged.lastTxid) = [] := by
        rw [← same, segmentsAfter, List.filter_filter]
        refine List.filter_eq_nil_iff.mpr fun info _ => ?_
        simp
      rw [none] at stuck
      cases stuck
    · rintro ⟨fault, unnamed⟩
      cases named.symm.trans unnamed

def MovedBehind (image : ImagePointer) (error : Error) (current : ImagePointer) : Prop :=
  ∃ (before after : Primary) (staged : StagedImage) (renamed : Storage),
    before.image = image ∧
    before.storage.rename staged.path (before.installed staged).path = .ok renamed ∧
    before.commit staged = (after, .error error) ∧ current = before.installed staged

theorem image_of_failed_commit (failed : primary.commit staged = (after, .error error)) :
    after.image = primary.image ∨ MovedBehind primary.image error after.image := by
  have cases := commit_eq_error.mp failed
  cases cases with
  | unnamed => exact .inl rfl
  | superseded named => exact .inr ⟨primary, _, staged, _, rfl, named, failed, rfl⟩
  | retired named => exact .inr ⟨primary, _, staged, _, rfl, named, failed, rfl⟩

theorem finalize_same (primary : Primary) (old : ActiveSegment) (last : UInt64) :
    ∃ storage finalized, (primary.finalize old last).1 =
      { primary with storage := storage, finalized := finalized } := by
  rw [finalize]
  split
  · exact ⟨_, _, rfl⟩
  · split <;> exact ⟨_, _, rfl⟩

theorem roll_same (primary : Primary) :
    ∃ storage active finalized, primary.roll.1 =
      { primary with storage := storage, active := active, finalized := finalized } := by
  rw [roll]
  split
  · exact ⟨_, _, _, rfl⟩
  · next storage next _ =>
    cases ended : onActive { primary with storage := storage } (·.append .endSegment) with
    | mk rolled result =>
      have same : rolled = { primary with storage := rolled.storage, active := rolled.active } := by
        rw [← show (onActive _ _).1 = rolled from congrArg Prod.fst ended]
        rfl
      cases result with
      | error error => exact ⟨_, _, _, by rw [same]⟩
      | ok txid =>
        obtain ⟨storage, finalized, final⟩ :=
          finalize_same { rolled with active := next } rolled.active primary.active.writer.nextTxid
        exact ⟨storage, next, finalized, by rw [final, same]⟩

theorem image_roll (primary : Primary) : primary.roll.1.image = primary.image := by
  obtain ⟨storage, active, finalized, same⟩ := primary.roll_same
  rw [same]

end Primary

namespace Secondary

open Primary (MovedBehind)

variable {ε : Type} {secondary : Secondary ε} {image : ImagePointer}

def Leaves (image : ImagePointer) (cause : Abort) (state : RoundState ε) : Prop :=
  state.primary.image = image ∨
    ∃ error, cause = .error error ∧ MovedBehind image error state.primary.image

theorem Triple.leaves {α : Type} {pre : RoundState ε → Prop} {body : RoundM ε α}
    {post : α → RoundState ε → Prop}
    (triple : Triple pre body post fun _ state => state.primary.image = image) :
    Triple pre body post (Leaves image) :=
  triple.abort_imp fun _ _ same => .inl same

theorem onStorage_leaves (action : Storage → Except StorageFault Storage) :
    Triple (fun state : RoundState ε => state.primary.image = image) (onStorage action)
      (fun _ state => state.primary.image = image) (Leaves image) := by
  refine (onPrimary_keeps (·.image = image) fun primary same => ?_).leaves
  cases action primary.storage <;> exact same

theorem commit_leaves (staged : StagedImage) :
    Triple (fun state : RoundState ε => state.primary.image = image) (onPrimary (·.commit staged))
      (fun _ _ => True) (Leaves image) := by
  intro state same
  rw [run_onPrimary]
  cases committed : state.primary.commit staged with
  | mk after result =>
    cases result with
    | ok installed => trivial
    | error error =>
      subst same
      rcases Primary.image_of_failed_commit committed with kept | moved
      · exact .inl kept
      · exact .inr ⟨error, rfl, moved⟩

theorem sends_leaves (keeps : secondary.injector.Keeps (·.image = image))
    (segments : List SegmentInfo) :
    Triple (fun state => state.primary.image = image)
      (segments.mapM fun segment => secondary.send segment.path)
      (fun _ state => state.primary.image = image) (Leaves image) := by
  refine Triple.mapM ?_ segments
  intro segment
  exact (send_keeps keeps segment.path).leaves

theorem install_leaves (keeps : secondary.injector.Keeps (·.image = image)) (bytes : List UInt8)
    (last : UInt64) :
    Triple (fun state => state.primary.image = image) (secondary.install bytes last)
      (fun _ _ => True) (Leaves image) := by
  refine Triple.bind (onPrimary_keeps (·.image = image) fun primary same => ?_).leaves
    fun staged => Triple.ensuring ?_
  · rw [Primary.stage]
    split <;> exact same
  · refine (enter_triple (·.image = image) .imageUploaded).bind fun _ => ?_
    refine (pass_keeps keeps .afterImageUpload).leaves.bind fun _ => ?_
    exact (commit_leaves staged).bind fun _ _ _ => trivial

theorem checkpoint_leaves (keeps : secondary.injector.Keeps (·.image = image)) :
    Triple (fun state => state.primary.image = image) secondary.checkpoint (fun _ _ => True)
      (Leaves image) := by
  -- Up to the installation no step touches the image.
  refine (pass_keeps keeps .afterLogRoll).leaves.bind fun _ => ?_
  refine (onStorage_leaves _).bind fun _ => Triple.get_bind fun current _ => ?_
  refine (onStorage_leaves _).bind fun _ => Triple.ensuring ?_
  refine (pass_keeps keeps .beforeHeader).leaves.bind fun _ => Triple.get_bind fun current _ => ?_
  refine (enter_triple (·.image = image) .headerSent).bind fun _ => ?_
  refine (send_keeps keeps _).leaves.bind fun fetched => ?_
  refine (sends_leaves keeps _).bind fun bodies => ?_
  refine (enter_triple (·.image = image) .mergeInProgress).bind fun _ => ?_
  refine (pass_keeps keeps .duringMerge).leaves.bind fun _ => ?_
  cases secondary.merger fetched bodies current.primary.config with
  | error error => cases error <;> exact fun _ same => .inl same
  | ok merged =>
    refine (onStorage_leaves _).bind fun _ => ?_
    exact (send_keeps keeps _).leaves.bind fun uploaded => install_leaves keeps uploaded _

theorem coordinate_leaves {primary : Primary}
    (keeps : secondary.injector.Keeps (·.image = primary.image)) (stage : RoundStage) (extra : ε) :
    (∃ report, (secondary.coordinate stage primary extra).2 = .ok report ∧
        report.outcome = .success) ∨
      (secondary.coordinate stage primary extra).1.1.image = primary.image ∨
      ∃ error, (secondary.coordinate stage primary extra).2 = .error error ∧
        MovedBehind primary.image error (secondary.coordinate stage primary extra).1.1.image := by
  rw [coordinate_eq]
  split
  · exact .inr (.inl rfl)
  · have same := primary.image_roll
    cases rolled : primary.roll with
    | mk next result =>
      rw [rolled] at same
      cases result with
      | error error => exact .inr (.inl same)
      | ok source =>
        have known := checkpoint_leaves keeps (opening stage next extra) same
        simp only
        cases ran : secondary.checkpoint.run.run (opening stage next extra) with
        | mk ended state =>
          rw [ran] at known
          cases ended with
          | ok value => exact .inl ⟨_, rfl, rfl⟩
          | error cause =>
            rcases known with kept | ⟨error, rfl, moved⟩
            · exact .inr (.inl kept)
            · exact .inr (.inr ⟨error, rfl, moved⟩)

/-- Only if the image has not got its name is a failed installation undone. A file that cannot be
removed after that ends the installation, and the round if there is one, behind the new image. Rounds that
end in an outcome other than success leave the image as it was. -/
theorem failed_install_cases {primary : Primary}
    (keeps : secondary.injector.Keeps (·.image = primary.image)) :
    (∀ staged after error, primary.commit staged = (after, .error error) →
      primary.FailedCommit staged after error ∧
      (after.image = primary.image ∧ after.finalized = primary.finalized ↔
        ∃ fault, primary.storage.rename staged.path (primary.installed staged).path =
          .error fault)) ∧
    ∀ extra after extra' result, secondary.runRound primary extra = ((after, extra'), result) →
      (∀ report, result = .ok report → report.outcome ≠ .success → after.image = primary.image) ∧
      ∀ error, result = .error error →
        after.image = primary.image ∨ MovedBehind primary.image error after.image := by
  constructor
  · intro staged after error committed
    have failed := Primary.commit_eq_error.mp committed
    exact ⟨failed, failed.untouched_iff⟩
  · intro extra after extra' result ran
    have leaves := coordinate_leaves keeps .idle extra
    rw [runRound] at ran
    generalize secondary.coordinate .idle primary extra = ended at leaves ran
    cases ran
    constructor
    · intro report reported unsuccessful
      rcases leaves with ⟨again, succeeded, success⟩ | kept | ⟨error, failed, -⟩
      · cases reported.symm.trans succeeded
        exact absurd success unsuccessful
      · exact kept
      · cases reported.symm.trans failed
    · intro error failed
      rcases leaves with ⟨report, succeeded, -⟩ | kept | ⟨again, failed', moved⟩
      · cases failed.symm.trans succeeded
      · exact .inl kept
      · cases failed.symm.trans failed'
        exact .inr moved

/-- An image of all ids up to 2 is installed, and the segment of these ids finalized after that. Then
the file of the segment is lost. -/
def lostSegment : Except Error Primary := do
  let primary ← Primary.format .empty ["primary"] .standard
  let (primary, staged) := primary.stage [0xFF, 0xFF, 0xFF, 0xD8, 0xFF] 2
  let (primary, installed) := primary.commit (← staged)
  let _ ← installed
  let (primary, rolled) := primary.roll
  let (primary, removed) := primary.removeFile (← rolled).path
  removed
  return primary

theorem round_of_lostSegment :
    ∃ primary after error, lostSegment = .ok primary ∧
      runRound ⟨["work"], Merger.consolidate, .none⟩ primary () = ((after, ()), .error error) ∧
      primary.image.lastTxid = 2 ∧ after.image.lastTxid = 4 := by
  have known : lostSegment.toOption.any fun primary =>
      primary.image.lastTxid = 2 ∧
        (runRound ⟨["work"], Merger.consolidate, .none⟩ primary ()).2.toOption.isNone ∧
        (runRound ⟨["work"], Merger.consolidate, .none⟩ primary ()).1.1.image.lastTxid = 4 := by
    decide +kernel
  cases lost : lostSegment with
  | error error =>
    rw [lost] at known
    contradiction
  | ok primary =>
    rw [lost, Except.toOption, Option.any_some, decide_eq_true_iff] at known
    obtain ⟨before, failed, moved⟩ := known
    cases ran : runRound ⟨["work"], Merger.consolidate, .none⟩ primary () with
    | mk ended result =>
      rw [ran] at failed moved
      cases result with
      | ok report => contradiction
      | error error => exact ⟨primary, ended.1, error, rfl, ran, before, moved⟩

theorem failed_install_cases_lost :
    ∃ primary after error, lostSegment = .ok primary ∧
      runRound ⟨["work"], Merger.consolidate, .none⟩ primary () = ((after, ()), .error error) ∧
      MovedBehind primary.image error after.image := by
  obtain ⟨primary, after, error, lost, ran, before, moved⟩ := round_of_lostSegment
  have passive : Injector.none.Passive := fun _ _ _ => rfl
  refine ⟨primary, after, error, lost, ran, ?_⟩
  have ended := (failed_install_cases (passive.keeps _)).2 () after () _ ran
  rcases ended.2 error rfl with kept | behind
  · rw [kept, before] at moved
    contradiction
  · exact behind

theorem failed_round_moves_image :
    ¬ ∀ primary after error,
      runRound ⟨["work"], Merger.consolidate, .none⟩ primary () = ((after, ()), .error error) →
        after.image = primary.image := by
  intro kept
  obtain ⟨primary, after, error, -, ran, before, moved⟩ := round_of_lostSegment
  rw [kept primary after error ran, before] at moved
  contradiction

end Secondary

end Journal
