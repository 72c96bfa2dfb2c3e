import Journal.Proofs.Checkpoint.Commit
import Journal.Proofs.Checkpoint.Step

set_option autoImplicit false

namespace Journal

open Storage (Changes)

namespace Primary

variable {primary : Primary} {recent : List Record}

structure Stages (primary : Primary) (bytes : List UInt8) (storage : Storage)
    (staged : StagedImage) : Prop where
  path : ∃ number, staged.path = primary.directory ++ [Storage.temporaryName number]
  absent : primary.storage.lookup? staged.path = none
  changes : Changes (· = staged.path) primary.storage storage
  read : storage.read staged.path = .ok bytes

theorem stage_cases (sound : primary.storage.Sound) (bytes : List UInt8) (last : UInt64) :
    (∃ error, primary.stage bytes last = (primary, .error error)) ∨
    ∃ storage staged, primary.stage bytes last = ({ primary with storage := storage }, .ok staged) ∧
      staged.lastTxid = last ∧ primary.Stages bytes storage staged := by
  obtain ⟨number, path, absent⟩ := primary.storage.temporaryPath_eq primary.directory
  rw [stage, Storage.createTemporary, path]
  cases created : primary.storage.create (primary.directory ++ [Storage.temporaryName number]) with
  | error fault => exact .inl ⟨.ofStorage fault, rfl⟩
  | ok pair =>
    obtain ⟨made, id⟩ := pair
    obtain ⟨changes, found, -⟩ := Storage.changes_create sound created
    have filled := Storage.changes_setBuffer changes.sound found (.ofList bytes)
    refine .inr ⟨made.setContents id bytes, ⟨_, last⟩, rfl, rfl, ⟨number, rfl⟩, absent,
      changes.trans filled, Storage.read_eq_ok.mpr ⟨id, found, ?_⟩⟩
    rw [Storage.setContents, Storage.contentsOf_setBuffer (changes.sound.allocated found),
      if_pos rfl, Buffer.bytes_ofList]

structure Installed (before : Primary) (bytes : List UInt8) (last : UInt64) (after : Primary) :
    Prop where
  same : after = { before with
    storage := after.storage
    finalized := before.finalized.filter fun info => !decide (info.lastTxid ≤ last)
    image := ⟨before.directory ++ [imageName last], last⟩ }
  image : after.storage.read (before.directory ++ [imageName last]) = .ok bytes
  changes : Changes (before.Replaced last) before.storage after.storage

variable {bytes : List UInt8} {storage : Storage} {staged : StagedImage}

theorem Stages.tidy (stages : primary.Stages bytes storage staged) (tidy : primary.Tidy recent) :
    Tidy { primary with storage := storage } recent := by
  refine tidy.retains (stages.changes.retains ?_)
  rintro _ id rfl - found
  rw [stages.absent] at found
  contradiction

theorem Stages.discarded (stages : primary.Stages bytes storage staged) :
    Changes (fun _ => False) primary.storage (storage.unbind staged.path) ∧
      (storage.unbind staged.path).lookup? staged.path = none := by
  -- Its name was free before, so taking it away again leaves nothing changed.
  obtain ⟨id, found, -⟩ := Storage.read_eq_ok.mp stages.read
  obtain ⟨removed, gone⟩ := Storage.changes_unbind_file stages.changes.sound found
  refine ⟨(stages.changes.trans removed).restrict ?_, gone⟩
  rintro _ rfl -
  exact ⟨stages.absent, gone⟩

theorem Stages.named (stages : primary.Stages bytes storage staged) : staged.path ≠ [] := by
  obtain ⟨number, path⟩ := stages.path
  simp [path]

theorem Stages.commit (stages : primary.Stages bytes storage staged) (tidy : primary.Tidy recent)
    {after : Primary} {result : Except Error ImagePointer}
    (done : Primary.commit { primary with storage := storage } staged = (after, result)) :
    match result with
    | .ok _ => Installed primary bytes staged.lastTxid (after.discard staged)
    | .error _ => ∃ left, after.discard staged = { primary with storage := left } ∧
        Changes (fun _ => False) primary.storage left := by
  obtain ⟨number, path⟩ := stages.path
  obtain ⟨id, found, held⟩ := Storage.read_eq_ok.mp stages.read
  rcases (stages.tidy tidy).commit_cases path found with
    ⟨error, failed⟩ | ⟨installed, succeeded, changes, image, same, gone⟩
  · cases done.symm.trans failed
    obtain ⟨changes, gone⟩ := stages.discarded
    exact ⟨_, rfl, changes.trans (Storage.changes_unbind_absent changes.sound stages.named gone)⟩
  · cases done.symm.trans succeeded
    have unbound := Storage.changes_unbind_absent changes.sound stages.named gone
    refine ⟨rfl, ?_, ?_⟩
    · exact Storage.read_eq_ok.mpr ⟨id, unbound.isFile not_false image,
        (unbound.contents _ id not_false image).trans (same.trans held)⟩
    · refine (((stages.changes.mono (fun _ => .inl)).trans changes).trans
        (unbound.mono fun _ => False.elim)).restrict ?_
      rintro _ (rfl | replaced) free
      · exact ⟨stages.absent, by rw [unbound.entry _ not_false, gone]⟩
      · exact absurd replaced free

theorem Tidy.installed (tidy : primary.Tidy recent) {after : Primary} {last : UInt64}
    (all : ∀ info ∈ primary.finalized, info.lastTxid ≤ last)
    (before : last < primary.active.firstTxid) (installed : Installed primary bytes last after) :
    after.Tidy recent ∧ after.finalized = [] := by
  obtain ⟨same, image, changes⟩ := installed
  obtain ⟨id, found, -⟩ := Storage.read_eq_ok.mp image
  have emptied : (primary.finalized.filter fun info => !decide (info.lastTxid ≤ last)) = [] := by
    simpa using all
  rw [same]
  refine ⟨tidy.committed before (changes.retains ?_) found, emptied⟩
  intro path id replaced free
  exact absurd (.inl replaced) free

end Primary

namespace Secondary

open Primary (Installed)

variable {ε : Type} {secondary : Secondary ε} {primary : Primary} {recent : List Record}

def Restored (before after : Primary) : Prop :=
  ∃ storage, after = { before with storage := storage } ∧
    Changes (fun _ => False) before.storage storage

theorem install_triple (passive : secondary.injector.Passive) (tidy : primary.Tidy recent)
    (bytes : List UInt8) (last : UInt64) :
    Triple (·.primary = primary) (secondary.install bytes last)
      (fun _ state => Installed primary bytes last state.primary)
      (fun _ state => Restored primary state.primary) := by
  rcases primary.stage_cases tidy.sound bytes last with
    ⟨error, failed⟩ | ⟨storage, staged, done, rfl, stages⟩
  · refine ((onPrimary_triple _ primary).abort_imp ?_).bind fun staged => ?_
    · rintro _ state ⟨_, -, known⟩
      rw [failed] at known
      exact ⟨primary.storage, (Prod.mk.inj known).1.symm, Changes.refl tidy.sound⟩
    · intro state known
      rw [failed] at known
      exact absurd (Prod.mk.inj known).2 nofun
  · -- Once staged, the image is installed or discarded, whatever the hook says.
    let next : Primary := { primary with storage := storage }
    have staging : Triple (fun state : RoundState ε => state.primary = primary)
        (onPrimary (·.stage bytes staged.lastTxid))
        (fun value state => value = staged ∧ state.primary = next)
        (fun _ state => Restored primary state.primary) := by
      refine (onPrimary_triple _ primary).imp (fun _ here => here) ?_ ?_
      · intro value state known
        rw [done] at known
        obtain ⟨here, value⟩ := Prod.mk.inj known
        exact ⟨(Except.ok.inj value).symm, here.symm⟩
      · rintro _ state ⟨_, -, known⟩
        rw [done] at known
        exact absurd (Prod.mk.inj known).2 nofun
    have committing : Triple (fun state : RoundState ε => state.primary = next)
        (onPrimary (·.commit staged))
        (fun _ state => Installed primary bytes staged.lastTxid (discard staged state).primary)
        (fun _ state => Restored primary (discard staged state).primary) := by
      refine (onPrimary_triple _ next).imp (fun _ here => here) ?_ ?_
      · intro image state known
        exact stages.commit tidy known
      · rintro _ state ⟨error, -, known⟩
        exact stages.commit tidy known
    have installing : Triple (fun state : RoundState ε => state.primary = next)
        (ensuring (discard staged) do
          enter .imageUploaded
          secondary.pass .afterImageUpload
          let _ ← onPrimary (·.commit staged))
        (fun _ state => Installed primary bytes staged.lastTxid state.primary)
        (fun _ state => Restored primary state.primary) := by
      refine Triple.ensuring ((enter_triple (· = next) .imageUploaded).bind fun _ => ?_)
      refine ((pass_triple passive (· = next) .afterImageUpload).abort_imp ?_).bind fun _ =>
        committing.bind fun _ _ here => here
      rintro cause state here
      exact ⟨storage.unbind staged.path, by simp only [discard, here, next, Primary.discard],
        stages.discarded.1⟩
    apply staging.bind
    intro value
    rintro state ⟨rfl, here⟩
    exact installing state here

end Secondary

end Journal
