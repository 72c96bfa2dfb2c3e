import Journal.Proofs.Checkpoint.Install

set_option autoImplicit false

namespace Journal

open Storage (Changes Grows Retains)

namespace Secondary

open Primary (Installed)

variable {ε : Type} {secondary : Secondary ε} {primary : Primary} {recent : List Record}

/-- A round's own directory, which was not there before. What has changed is in it, or is in `lost`. -/
structure Inside (lost : Path → Prop) (outer : Storage) (scratch : Path) (storage : Storage) :
    Prop where
  sound : outer.Sound
  named : ∃ parent number, scratch = parent ++ [Storage.temporaryName number]
  fresh : outer.lookup? scratch = none
  changes : Changes (fun path => scratch <+: path ∨ lost path) outer storage
  here : storage.lookup? scratch = some .directory

variable {lost : Path → Prop} {outer storage after : Storage} {scratch : Path}

theorem Inside.change (inside : Inside lost outer scratch storage) {touched : Path → Prop}
    (changes : Changes touched storage after)
    (within : ∀ path, touched path → scratch <+: path ∨ lost path) (free : ¬ touched scratch) :
    Inside lost outer scratch after :=
  ⟨inside.sound, inside.named, inside.fresh, inside.changes.trans (changes.mono within),
    by rw [changes.entry _ free, inside.here]⟩

theorem Inside.retains (inside : Inside lost outer scratch storage) : Retains lost outer storage := by
  apply inside.changes.retains
  rintro path id (below | gone) free found
  · rw [inside.sound.absent_below inside.fresh below] at found
    contradiction
  · exact free gone

theorem Inside.removed (inside : Inside lost outer scratch storage) :
    ∃ after, storage.removeDirectory scratch = .ok after ∧
      Changes (scratch <+: ·) storage after ∧ Changes lost outer after := by
  have named : scratch ≠ [] := by
    obtain ⟨parent, number, rfl⟩ := inside.named
    simp
  obtain ⟨after, removed, changes, gone⟩ :=
    Storage.changes_removeDirectory inside.changes.sound named inside.here
  refine ⟨after, removed, changes,
    (inside.changes.trans (changes.mono fun _ => .inl)).restrict ?_⟩
  rintro path (below | inLost) free
  · exact ⟨inside.sound.absent_below inside.fresh below, gone path below⟩
  · exact absurd inLost free

def Kept (path : Path) (before after : Primary) : Prop :=
  ∃ storage, after = { before with storage := storage } ∧ Grows path before.storage storage

theorem withScratch_triple {α : Type} (sound : primary.storage.Sound) {body : Path → RoundM ε α}
    {post : α → RoundState ε → Prop} {abort : Abort → RoundState ε → Prop}
    (failed : ∀ cause state, Kept secondary.workDirectory primary state.primary → abort cause state)
    (inside : ∀ outer scratch storage, Grows secondary.workDirectory primary.storage outer →
      Inside (fun _ => False) outer scratch storage →
      Triple (·.primary = { primary with storage := storage }) (body scratch)
        (fun value state => post value (removeDirectory scratch state))
        (fun cause state => abort cause (removeDirectory scratch state))) :
    Triple (·.primary = primary) (secondary.withScratch body) post abort := by
  refine ((onStorage_triple _ primary).abort_imp ?_).bind fun _ => ?_
  · intro cause state here
    exact failed cause state ⟨primary.storage, here, sound, fun _ _ _ => rfl, fun _ => .inl rfl⟩
  · rintro state ⟨outer, made, here⟩
    obtain ⟨grows, work⟩ := Storage.grows_makeDirectories sound made
    refine Triple.get_bind (fun current
      (same : current.primary = { primary with storage := outer }) => ?_) state here
    rw [same]
    obtain ⟨number, path, fresh⟩ := outer.temporaryPath_eq secondary.workDirectory
    simp only [path]
    refine ((onStorage_triple _ { primary with storage := outer }).abort_imp ?_).bind fun _ => ?_
    · intro cause state here
      exact failed cause state ⟨outer, here, grows⟩
    · rintro state ⟨storage, made, here⟩
      obtain ⟨changes, there⟩ := Storage.changes_makeDirectory grows.sound work made
      refine Triple.ensuring (inside outer _ storage grows ⟨grows.sound, ⟨_, _, rfl⟩, fresh,
        changes.mono fun _ => .inl, there⟩) state here

theorem Inside.kept (inside : Inside (fun _ => False) outer scratch storage)
    (grows : Grows secondary.workDirectory primary.storage outer) {state : RoundState ε}
    (here : state.primary = { primary with storage := storage }) :
    Kept secondary.workDirectory primary (removeDirectory scratch state).primary := by
  obtain ⟨after, removed, -, changes⟩ := inside.removed
  refine ⟨after, ?_, grows.changes changes⟩
  simp only [removeDirectory, here, removed]
  rfl

theorem Inside.ne_image (inside : Inside lost outer scratch storage) (directory : Path)
    (last : UInt64) : scratch ≠ directory ++ [Primary.imageName last] := by
  obtain ⟨parent, number, rfl⟩ := inside.named
  intro same
  have names := (List.append_singleton_inj.mp same).2
  exact Primary.ne_of_head? (Primary.head_temporaryName number) (Primary.head_imageName last)
    (by decide) names

theorem Inside.ne_file (inside : Inside lost outer scratch storage) {path : Path} {id : Nat}
    (found : storage.lookup? path = some (.file id)) : scratch ≠ path := by
  intro same
  subst same
  rw [inside.here] at found
  cases found

theorem Inside.installed (inside : Inside (fun _ => False) outer scratch storage)
    (tidy : Primary.Tidy { primary with storage := outer } recent) {merged : List UInt8}
    {last : UInt64} {state : RoundState ε}
    (installed : Installed { primary with storage := storage } merged last state.primary) :
    Installed { primary with storage := outer } merged last
      (removeDirectory scratch state).primary := by
  -- The names that change hands are none of the round's own directory.
  have filled := tidy.retains inside.retains
  have free : ¬ primary.Replaced last scratch := by
    intro either
    rcases either with image | previous | member
    · exact inside.ne_image _ _ image
    · obtain ⟨id, found⟩ := filled.imageFile
      exact inside.ne_file found previous
    · obtain ⟨info, listed, same⟩ := List.mem_map.mp member
      obtain ⟨id, found⟩ := filled.segmentFile info (List.mem_of_mem_filter listed)
      exact inside.ne_file found same.symm
  have within : Inside (primary.Replaced last) outer scratch state.primary.storage :=
    ⟨inside.sound, inside.named, inside.fresh,
      (inside.changes.mono fun path below => below.imp_right False.elim).trans
        (installed.changes.mono fun _ => .inr),
      by rw [installed.changes.entry _ free, inside.here]⟩
  obtain ⟨after, removed, changes, known⟩ := within.removed
  have apart : ¬ scratch <+: primary.directory ++ [Primary.imageName last] := by
    intro below
    rcases List.prefix_concat_iff.mp below with same | above
    · exact inside.ne_image _ _ same
    · have absent := inside.sound.absent_below inside.fresh above
      rw [tidy.directory] at absent
      contradiction
  have final : (removeDirectory scratch state).primary =
      { state.primary with storage := after } := by
    simp only [removeDirectory, removed]
    rfl
  rw [final]
  obtain ⟨id, found, held⟩ := Storage.read_eq_ok.mp installed.image
  refine ⟨by rw [installed.same], Storage.read_eq_ok.mpr ⟨id, changes.isFile apart found, ?_⟩, known⟩
  exact (changes.contents _ id apart found).trans held

def lastMerged (primary : Primary) : UInt64 :=
  ((primary.segmentsAfter primary.image.lastTxid).getLast?.map (·.lastTxid)).getD
    primary.image.lastTxid

theorem lastMerged_spec (tidy : primary.Tidy recent) :
    (∀ info ∈ primary.finalized, info.lastTxid ≤ lastMerged primary) ∧
      lastMerged primary < primary.active.firstTxid := by
  have after {info : SegmentInfo} : info ∈ primary.segmentsAfter primary.image.lastTxid ↔
      info ∈ primary.finalized ∧ primary.image.lastTxid < info.lastTxid := by
    simp [Primary.segmentsAfter]
  have ordered : (primary.segmentsAfter primary.image.lastTxid).Pairwise
      (·.lastTxid < ·.firstTxid) := tidy.order.sublist List.filter_sublist
  rw [lastMerged]
  cases newest : (primary.segmentsAfter primary.image.lastTxid).getLast? with
  | none =>
    -- Nothing is newer than the image.
    rw [List.getLast?_eq_none_iff] at newest
    refine ⟨fun info member => ?_, tidy.covered⟩
    by_cases late : primary.image.lastTxid < info.lastTxid
    · have listed := after.mpr ⟨member, late⟩
      rw [newest] at listed
      contradiction
    · exact UInt64.not_lt.mp late
  | some last =>
    obtain ⟨others, split⟩ := List.getLast?_eq_some_iff.mp newest
    have listed : last ∈ primary.segmentsAfter primary.image.lastTxid := by simp [split]
    obtain ⟨known, beyond⟩ := after.mp listed
    have extent := tidy.extent last known
    refine ⟨fun info member => ?_, extent.2⟩
    by_cases late : primary.image.lastTxid < info.lastTxid
    · have listed := after.mpr ⟨member, late⟩
      rw [split] at listed ordered
      rcases List.mem_append.mp listed with earlier | same
      · have before := (List.pairwise_append.mp ordered).2.2 info earlier last List.mem_cons_self
        exact UInt64.le_of_lt (UInt64.lt_trans before extent.1)
      · rw [List.mem_singleton.mp same]
        exact UInt64.le_refl _
    · exact UInt64.le_of_lt (UInt64.lt_of_le_of_lt (UInt64.not_lt.mp late) beyond)

def Merged (merger : Merger) (primary : Primary) (merged : List UInt8) : Prop :=
  ∃ image bodies, primary.storage.read primary.image.path = .ok image ∧
    (primary.segmentsAfter primary.image.lastTxid).mapM
      (fun segment => primary.storage.read segment.path) = .ok bodies ∧
    merger image bodies primary.config = .ok merged

def Succeeds (secondary : Secondary ε) (before after : Primary) : Prop :=
  ∃ merged grown, Merged secondary.merger before merged ∧
    Grows secondary.workDirectory before.storage grown ∧
    Installed { before with storage := grown } merged (lastMerged before) after

theorem Succeeds.tidy {after : Primary} (succeeds : Succeeds secondary primary after)
    (tidy : primary.Tidy recent) : after.Tidy recent ∧ after.finalized = [] := by
  obtain ⟨merged, grown, -, grows, installed⟩ := succeeds
  obtain ⟨all, before⟩ := lastMerged_spec tidy
  exact (tidy.retains grows.retains).installed all before installed

theorem Kept.tidy {path : Path} {after : Primary} (kept : Kept path primary after)
    (tidy : primary.Tidy recent) : after.Tidy recent := by
  obtain ⟨storage, rfl, grows⟩ := kept
  exact tidy.retains grows.retains

theorem upload_triple (passive : secondary.injector.Passive) (tidy : primary.Tidy recent)
    (grows : Grows secondary.workDirectory primary.storage outer)
    (inside : Inside (fun _ => False) outer scratch storage) (name : String) (merged : List UInt8)
    (last : UInt64) :
    Triple (·.primary = { primary with storage := storage })
      (do
        onStorage (·.write (scratch ++ [name]) merged)
        let uploaded ← secondary.send (scratch ++ [name])
        secondary.install uploaded last)
      (fun _ state => Installed { primary with storage := outer } merged last
        (removeDirectory scratch state).primary)
      (fun _ state =>
        Kept secondary.workDirectory primary (removeDirectory scratch state).primary) := by
  refine ((onStorage_triple _ { primary with storage := storage }).abort_imp
    fun _ _ here => inside.kept grows here).bind fun _ => ?_
  intro state known
  obtain ⟨written, wrote, here⟩ := known
  let filled : Primary := { primary with storage := written }
  obtain ⟨changes, stored⟩ := Storage.changes_write inside.changes.sound wrote
  have inside : Inside (fun _ => False) outer scratch written := by
    refine inside.change changes ?_ (by simp)
    intro path same
    rw [same]
    exact .inl (List.prefix_append ..)
  have grown : Primary.Tidy { primary with storage := outer } recent := tidy.retains grows.retains
  have tidy : filled.Tidy recent := grown.retains inside.retains
  -- The image goes through the round's own directory and has to come back out of it unharmed.
  refine (((send_triple passive filled _).abort_imp fun _ _ here =>
    inside.kept grows here).bind fun uploaded => Triple.under fun arrived => ?_) state here
  have intact : uploaded = merged := Except.ok.inj (arrived.symm.trans stored)
  rw [intact]
  refine (install_triple passive tidy merged _).imp (fun _ here => here) ?_ ?_
  · intro _ state installed
    exact inside.installed grown installed
  · intro _ state restored
    obtain ⟨left, here, unchanged⟩ := restored
    exact (inside.change unchanged (fun _ => False.elim) not_false).kept grows here

theorem checkpoint_triple (passive : secondary.injector.Passive) (tidy : primary.Tidy recent) :
    Triple (·.primary = primary) secondary.checkpoint
      (fun _ state => Succeeds secondary primary state.primary)
      (fun _ state => Kept secondary.workDirectory primary state.primary) := by
  have kept : Kept secondary.workDirectory primary primary :=
    ⟨primary.storage, rfl, tidy.sound, fun _ _ _ => rfl, fun _ => .inl rfl⟩
  refine ((pass_triple passive (· = primary) .afterLogRoll).abort_imp ?_).bind fun _ => ?_
  · rintro cause state rfl
    exact kept
  refine withScratch_triple tidy.sound (fun _ _ known => known) ?_
  intro outer scratch storage grows inside
  let fetched : Primary := { primary with storage := storage }
  have stay (cause : Abort) (state : RoundState ε) (here : state.primary = fetched) :
      Kept secondary.workDirectory primary (removeDirectory scratch state).primary :=
    inside.kept grows here
  refine ((pass_triple passive (· = fetched) .beforeHeader).abort_imp stay).bind fun _ => ?_
  refine Triple.get_bind fun current same => ?_
  rw [same]
  apply (enter_triple (· = fetched) .headerSent).bind
  intro _
  refine ((send_triple passive fetched fetched.image.path).abort_imp stay).bind fun image => ?_
  refine Triple.under fun readImage => ?_
  refine ((sends_triple passive fetched (fetched.segmentsAfter fetched.image.lastTxid)).abort_imp
    stay).bind fun bodies => Triple.under fun readSegments => ?_
  apply (enter_triple (· = fetched) .mergeInProgress).bind
  intro _
  refine ((pass_triple passive (· = fetched) .duringMerge).abort_imp stay).bind fun _ => ?_
  cases made : secondary.merger image bodies primary.config with
  | error error => cases error <;> exact fun _ here => inside.kept grows here
  | ok merged =>
    -- What has been merged was read while the round had its directory, but is older than that.
    have retains : Retains (fun _ => False) primary.storage storage :=
      grows.retains.trans inside.retains
    have sources : Merged secondary.merger primary merged := by
      refine ⟨image, bodies, ?_, ?_, made⟩
      · rw [← retains.read_eq not_false tidy.imageFile]
        exact readImage
      · refine Eq.trans (mapM_congr fun info member => ?_) readSegments
        exact (retains.read_eq not_false
          (tidy.segmentFile info (List.mem_of_mem_filter member))).symm
    refine (upload_triple passive tidy grows inside _ merged _).post_imp ?_
    intro _ state installed
    exact ⟨merged, outer, sources, grows, installed⟩

end Secondary

end Journal
