import Journal.Proofs.Checkpoint.Primary

set_option autoImplicit false

namespace Journal

namespace Storage

def supersede (storage : Storage) (previous path : Path) : Except StorageFault Storage :=
  if previous = path then .ok storage else storage.removeFile previous

theorem supersede_of_file {storage : Storage} (sound : storage.Sound) {previous : Path}
    (file : ∃ id, storage.lookup? previous = some (.file id)) (path : Path) :
    ∃ after, storage.supersede previous path = .ok after ∧
      Changes (fun other => other = previous ∧ other ≠ path) storage after := by
  by_cases replaced : previous = path
  · exact ⟨storage, if_pos replaced, Changes.refl sound⟩
  · obtain ⟨id, found⟩ := file
    refine ⟨storage.unbind previous, ?_, (changes_unbind_file sound found).1.mono ?_⟩
    · rw [supersede, if_neg replaced, removeFile_of_file found]
    · intro other same
      subst same
      exact ⟨rfl, replaced⟩

end Storage

namespace Primary

open Storage (Changes Retains)

variable {primary : Primary} {recent : List Record}

def Uses (primary : Primary) (path : Path) : Prop :=
  path = primary.active.path ∨ path = primary.image.path ∨
    ∃ info ∈ primary.finalized, info.path = path

theorem Tidy.own (tidy : primary.Tidy recent) :
    Own primary.directory primary.active.path ∧ Own primary.directory primary.image.path ∧
      ∀ info ∈ primary.finalized, Own primary.directory info.path :=
  ⟨.inr ⟨_, tidy.activePath⟩, .inl ⟨_, tidy.image⟩, fun info member =>
    .inr ⟨_, tidy.segment info member⟩⟩

theorem Tidy.own_of_uses (tidy : primary.Tidy recent) {path : Path} (uses : primary.Uses path) :
    Own primary.directory path := by
  obtain ⟨active, image, segment⟩ := tidy.own
  rcases uses with rfl | rfl | ⟨info, member, rfl⟩
  · exact active
  · exact image
  · exact segment info member

theorem Tidy.others (tidy : primary.Tidy recent) {storage : Storage}
    (retains : Retains (fun path => ¬ primary.Uses path) primary.storage storage) :
    Tidy { primary with storage := storage } recent := by
  obtain ⟨path, file, consecutive, counted⟩ := tidy.active
  have used {path : Path} (uses : primary.Uses path) : ¬ ¬ primary.Uses path := not_not_intro uses
  refine ⟨retains.sound, tidy.checked, ⟨path, ?_, consecutive, counted⟩, tidy.image, ?_, tidy.covered,
    tidy.segment, ?_, tidy.extent, tidy.order⟩
  · exact file.moved retains.sound (retains.file _ _ (used (.inl rfl)) file.found)
      (retains.contents _ _ (used (.inl rfl)) file.found)
  · obtain ⟨id, found⟩ := tidy.imageFile
    exact ⟨id, retains.file _ id (used (.inr (.inl rfl))) found⟩
  · intro info member
    obtain ⟨id, found⟩ := tidy.segmentFile info member
    exact ⟨id, retains.file _ id (used (.inr (.inr ⟨info, member, rfl⟩))) found⟩

theorem Tidy.foreign (tidy : primary.Tidy recent) {storage : Storage}
    (retains : Retains (fun path => ¬ Own primary.directory path) primary.storage storage) :
    Tidy { primary with storage := storage } recent :=
  tidy.others (retains.mono fun _ foreign uses => foreign (tidy.own_of_uses uses))

theorem Tidy.retains (tidy : primary.Tidy recent) {storage : Storage}
    (retains : Retains (fun _ => False) primary.storage storage) :
    Tidy { primary with storage := storage } recent :=
  tidy.foreign (retains.mono fun _ => False.elim)

theorem Tidy.distinct (tidy : primary.Tidy recent) :
    (primary.finalized.map (·.path)).Nodup := by
  rw [List.Nodup, List.pairwise_map]
  apply tidy.order.imp_of_mem
  intro earlier later member member' before same
  have first := (tidy.segment earlier member).unique (same ▸ tidy.segment later member')
  have extent := (tidy.extent earlier member).1
  grind

theorem removeFile_of_file {path : Path} {id : Nat}
    (found : primary.storage.lookup? path = some (.file id)) :
    primary.removeFile path =
      ({ primary with storage := primary.storage.unbind path }, .ok ()) := by
  rw [removeFile, Storage.removeFile_of_file found]

theorem removeSegments_of_files (sound : primary.storage.Sound) {segments : List SegmentInfo}
    (files : ∀ info ∈ segments, ∃ id, primary.storage.lookup? info.path = some (.file id))
    (distinct : (segments.map (·.path)).Nodup) :
    ∃ storage, primary.removeSegments segments = ({ primary with storage := storage }, .ok ()) ∧
      Changes (· ∈ segments.map (·.path)) primary.storage storage := by
  induction segments generalizing primary with
  | nil => exact ⟨primary.storage, rfl, Changes.refl sound⟩
  | cons info segments ih =>
    obtain ⟨id, found⟩ := files info List.mem_cons_self
    obtain ⟨apart, distinct⟩ := List.nodup_cons.mp distinct
    obtain ⟨changes, -⟩ := Storage.changes_unbind_file sound found
    obtain ⟨storage, removed, changes'⟩ :=
      @ih { primary with storage := primary.storage.unbind info.path } changes.sound (by
        intro other member
        obtain ⟨id, found⟩ := files other (List.mem_cons_of_mem info member)
        refine ⟨id, changes.isFile ?_ found⟩
        intro same
        exact apart (List.mem_map.mpr ⟨other, member, same⟩)) distinct
    refine ⟨storage, ?_, (changes.mono ?_).trans (changes'.mono ?_)⟩
    · rw [removeSegments, removeFile_of_file found]
      exact removed
    · intro other same
      subst same
      exact List.mem_cons_self
    · intro path member
      exact List.mem_cons_of_mem info.path member

theorem retire_of_files (sound : primary.storage.Sound)
    (files : ∀ info ∈ primary.finalized, ∃ id, primary.storage.lookup? info.path = some (.file id))
    (distinct : (primary.finalized.map (·.path)).Nodup) (last : UInt64) :
    ∃ storage, primary.retire last = ({ primary with
        storage := storage
        finalized := primary.finalized.filter fun info => !decide (info.lastTxid ≤ last) },
        .ok ()) ∧
      Changes (· ∈ (primary.finalized.filter (·.lastTxid ≤ last)).map (·.path)) primary.storage
        storage := by
  have few : (primary.finalized.filter (·.lastTxid ≤ last)).Sublist primary.finalized :=
    List.filter_sublist
  let kept : Primary := { primary with
    finalized := primary.finalized.filter fun info => !decide (info.lastTxid ≤ last) }
  rw [retire, List.partition_eq_filter_filter]
  exact removeSegments_of_files (show kept.storage.Sound from sound)
    (fun info member => files info (few.subset member)) (distinct.sublist (few.map _))

def installed (primary : Primary) (staged : StagedImage) : ImagePointer :=
  ⟨primary.directory ++ [imageName staged.lastTxid], staged.lastTxid⟩

def Superseded (primary : Primary) (staged : StagedImage) (path : Path) : Prop :=
  path = staged.path ∨ path = (primary.installed staged).path ∨ path = primary.image.path ∨
    path ∈ (primary.finalized.filter (·.lastTxid ≤ staged.lastTxid)).map (·.path)

theorem commit_eq (primary : Primary) (staged : StagedImage) :
    primary.commit staged =
      match primary.storage.rename staged.path (primary.installed staged).path with
      | .error fault => (primary.discard staged, .error (.ofStorage fault))
      | .ok renamed =>
        match renamed.supersede primary.image.path (primary.installed staged).path with
        | .error fault =>
          ({ primary with storage := renamed, image := primary.installed staged },
            .error (.ofStorage fault))
        | .ok cleaned =>
          match { primary with storage := cleaned, image := primary.installed staged }.retire
              staged.lastTxid with
          | (after, .ok ()) => (after, .ok (primary.installed staged))
          | (after, .error error) => (after, .error error) := by
  rw [commit, installed]
  cases primary.storage.rename staged.path (primary.directory ++ [imageName staged.lastTxid]) with
  | error fault => rfl
  | ok renamed =>
    by_cases replaced : primary.image.path = primary.directory ++ [imageName staged.lastTxid]
    · cases retired : { primary with storage := renamed, image := primary.installed staged }.retire
          staged.lastTxid with
      | mk after result =>
        rw [installed] at retired
        cases result <;> simp only [Storage.supersede, if_pos replaced, retired]
    · simp only [Storage.supersede, if_neg replaced, removeFile]
      cases renamed.removeFile primary.image.path <;> rfl

theorem not_mem_retired {path : Path} (apart : ∀ info ∈ primary.finalized, info.path ≠ path)
    (last : UInt64) : path ∉ (primary.finalized.filter (·.lastTxid ≤ last)).map (·.path) := by
  intro member
  obtain ⟨info, inside, same⟩ := List.mem_map.mp member
  exact apart info (List.mem_of_mem_filter inside) same

def Replaced (primary : Primary) (last : UInt64) (path : Path) : Prop :=
  path = primary.directory ++ [imageName last] ∨ path = primary.image.path ∨
    path ∈ (primary.finalized.filter (·.lastTxid ≤ last)).map (·.path)

theorem Tidy.active_ne_replaced (tidy : primary.Tidy recent) (last : UInt64) :
    ¬ primary.Replaced last primary.active.path := by
  rintro (image | image | member)
  · exact tidy.activePath.ne_image _ image
  · exact tidy.image_apart tidy.activePath image.symm
  · obtain ⟨info, listed, same⟩ := List.mem_map.mp member
    exact tidy.segment_apart (List.mem_of_mem_filter listed) (UInt64.le_refl _) tidy.activePath same

theorem Tidy.kept_ne_replaced (tidy : primary.Tidy recent) {info : SegmentInfo}
    (member : info ∈ primary.finalized) {last : UInt64} (kept : last < info.lastTxid) :
    ¬ primary.Replaced last info.path := by
  rintro (image | image | retired)
  · exact (tidy.segment info member).ne_image _ image
  · exact tidy.image_apart (tidy.segment info member) image.symm
  · obtain ⟨other, listed, same⟩ := List.mem_map.mp retired
    obtain ⟨listed, covered⟩ := List.mem_filter.mp listed
    obtain rfl := List.inj_on_of_nodup_map tidy.distinct listed member same
    exact UInt64.not_le.mpr kept (of_decide_eq_true covered)

theorem Tidy.committed (tidy : primary.Tidy recent) {last : UInt64}
    (before : last < primary.active.firstTxid) {storage : Storage}
    (retains : Retains (fun path => primary.Replaced last path ∨ ¬ Own primary.directory path)
      primary.storage storage) {id : Nat}
    (image : storage.lookup? (primary.directory ++ [imageName last]) = some (.file id)) :
    Tidy { primary with
      storage := storage
      finalized := primary.finalized.filter fun info => !decide (info.lastTxid ≤ last)
      image := ⟨primary.directory ++ [imageName last], last⟩ } recent := by
  obtain ⟨active, -, segment⟩ := tidy.own
  obtain ⟨path, file, consecutive, counted⟩ := tidy.active
  have free := not_or.mpr ⟨tidy.active_ne_replaced last, not_not_intro active⟩
  have few : (primary.finalized.filter fun info => !decide (info.lastTxid ≤ last)).Sublist
      primary.finalized := List.filter_sublist
  refine ⟨retains.sound, tidy.checked, ⟨path, ?_, consecutive, counted⟩, rfl, ⟨id, image⟩, before,
    fun info member => tidy.segment info (few.subset member), ?_,
    fun info member => tidy.extent info (few.subset member), tidy.order.sublist few⟩
  · exact file.moved retains.sound (retains.file _ _ free file.found)
      (retains.contents _ _ free file.found)
  · intro info member
    obtain ⟨listed, kept⟩ := List.mem_filter.mp member
    have later : last < info.lastTxid := UInt64.not_le.mp (by simpa using kept)
    obtain ⟨id, found⟩ := tidy.segmentFile info listed
    exact ⟨id, retains.file _ id (not_or.mpr
      ⟨tidy.kept_ne_replaced listed later, not_not_intro (segment info listed)⟩) found⟩

theorem Tidy.commit_cases (tidy : primary.Tidy recent) {staged : StagedImage} {number id : Nat}
    (temporary : staged.path = primary.directory ++ [Storage.temporaryName number])
    (found : primary.storage.lookup? staged.path = some (.file id)) :
    (∃ error, primary.commit staged = (primary.discard staged, .error error)) ∨
    ∃ storage, primary.commit staged = ({ primary with
        storage := storage
        finalized := primary.finalized.filter fun info => !decide (info.lastTxid ≤ staged.lastTxid)
        image := primary.installed staged }, .ok (primary.installed staged)) ∧
      Changes (primary.Superseded staged) primary.storage storage ∧
      storage.lookup? (primary.installed staged).path = some (.file id) ∧
      storage.contentsOf id = primary.storage.contentsOf id ∧
      storage.lookup? staged.path = none := by
  cases named : primary.storage.rename staged.path (primary.installed staged).path with
  | error fault =>
    left
    exact ⟨.ofStorage fault, by simp only [commit_eq, named]⟩
  | ok renamed =>
    right
    obtain ⟨changes, target, same, gone⟩ := Storage.changes_rename tidy.sound found named
    have moved : staged.path ≠ (primary.installed staged).path := by
      rw [temporary]
      exact (imagePath_ne_temporary _ _ _).symm
    have current : primary.image.path ≠ staged.path := by
      rw [tidy.image, temporary]
      exact imagePath_ne_temporary _ _ _
    have unstaged : ∀ info ∈ primary.finalized, info.path ≠ staged.path := by
      intro info member
      rw [temporary]
      exact (tidy.segment info member).ne_temporary number
    have notImage : ∀ info ∈ primary.finalized, info.path ≠ (primary.installed staged).path := by
      intro info member
      exact (tidy.segment info member).ne_image _
    -- The previous image is still there, as the new one if they share a name.
    have previous : ∃ id, renamed.lookup? primary.image.path = some (.file id) := by
      by_cases replaced : primary.image.path = (primary.installed staged).path
      · exact ⟨id, replaced ▸ target⟩
      · obtain ⟨id, found⟩ := tidy.imageFile
        exact ⟨id, changes.isFile (not_or.mpr ⟨current, replaced⟩) found⟩
    obtain ⟨cleaned, removed, changes'⟩ :=
      Storage.supersede_of_file changes.sound previous (primary.installed staged).path
    have files : ∀ info ∈ primary.finalized, ∃ id, cleaned.lookup? info.path = some (.file id) := by
      intro info member
      obtain ⟨id, found⟩ := tidy.segmentFile info member
      have named := changes.isFile (not_or.mpr ⟨unstaged info member, notImage info member⟩) found
      refine ⟨id, changes'.isFile (fun gone => ?_) named⟩
      exact tidy.image_apart (tidy.segment info member) gone.1.symm
    let cleared : Primary :=
      { primary with storage := cleaned, image := primary.installed staged }
    obtain ⟨storage, retired, changes''⟩ := retire_of_files
      (show cleared.storage.Sound from changes'.sound) files tidy.distinct staged.lastTxid
    have kept := not_mem_retired notImage staged.lastTxid
    have others := not_mem_retired unstaged staged.lastTxid
    have cleanedTarget := changes'.isFile (fun gone => gone.2 rfl) target
    refine ⟨storage, ?_, ?_, ?_, ?_, ?_⟩
    · simp only [commit_eq, named, removed]
      rw [show Primary.retire _ _ = _ from retired]
    · refine ((changes.mono ?_).trans (changes'.mono ?_)).trans (changes''.mono ?_)
      · intro path either
        rcases either with rfl | rfl
        · exact .inl rfl
        · exact .inr (.inl rfl)
      · rintro path ⟨rfl, -⟩
        exact .inr (.inr (.inl rfl))
      · intro path member
        exact .inr (.inr (.inr member))
    · exact changes''.isFile kept cleanedTarget
    · rw [changes''.contents _ id kept cleanedTarget,
        changes'.contents _ id (fun gone => gone.2 rfl) target, same]
    · rw [changes''.entry _ others, changes'.entry _ fun same => current same.1.symm, gone moved]

end Primary

end Journal
