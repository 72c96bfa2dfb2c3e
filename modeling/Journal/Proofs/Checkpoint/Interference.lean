import Journal.Proofs.Checkpoint.Chain
import Journal.Proofs.Checkpoint.Report

set_option autoImplicit false

namespace Journal

open Primary (Acts Advances Chained Issued Own Shows)
open Storage (Changes Retains)

/-- Injectors whose hooks make such calls as anyone may make, and do nothing else to the primary.
`given` are the ids that an injector still knows of those that its calls have returned. -/
def Injector.Orderly {ε : Type} (injector : Injector ε) (given : ε → List UInt64) : Prop :=
  ∀ hook primary extra, ∃ ids known,
    Acts primary ids (injector.onHook hook primary extra).1.1 ∧
      given (injector.onHook hook primary extra).1.2 = given extra ++ known ∧ known.Sublist ids

theorem Injector.Passive.orderly {ε : Type} {injector : Injector ε} (passive : injector.Passive) :
    injector.Orderly fun _ => [] := by
  intro hook primary extra
  refine ⟨[], [], ?_, rfl, List.Sublist.refl _⟩
  rw [passive]
  exact .none

theorem Injector.Orderly.recording {ε : Type} {injector : Injector ε} {given : ε → List UInt64}
    (orderly : injector.Orderly given) : injector.recording.Orderly fun both => given both.1 :=
  fun hook primary both => orderly hook primary both.1

def Injector.logging (operation : Operation) : Injector (List UInt64) where
  onHook hook primary known :=
    if hook = .duringMerge ∧ primary.HasRoom 1 then
      (((primary.log operation).1, known ++ (primary.log operation).2.toOption.toList), .ok ())
    else ((primary, known), .ok ())
  truncates _ := false
  corrupts _ := false

theorem Injector.orderly_logging (operation : Operation) : (logging operation).Orderly id := by
  intro hook primary known
  by_cases logs : hook = .duringMerge ∧ primary.HasRoom 1
  · refine ⟨(primary.log operation).2.toOption.toList, _, ?_, ?_, List.Sublist.refl _⟩
    · simp only [logging, if_pos logs]
      exact .log .none logs.2 operation
    · simp only [logging, if_pos logs, id]
  · refine ⟨[], [], ?_, ?_, List.Sublist.refl _⟩
    · simp only [logging, if_neg logs]
      exact .none
    · simp only [logging, if_neg logs, id, List.append_nil]

namespace Secondary

variable {ε : Type} {secondary : Secondary ε} {given : ε → List UInt64} {start primary : Primary}
  {before : List UInt64} {extra : ε}

theorem covers_newest (primary : Primary) : primary.Covers (lastMerged primary) := by
  rw [lastMerged]
  cases newest : (primary.segmentsAfter primary.image.lastTxid).getLast? with
  | none => exact .inl rfl
  | some info =>
    exact .inr ⟨info, List.mem_of_mem_filter (List.mem_of_getLast? newest), rfl⟩

structure Ongoing (given : ε → List UInt64) (start : Primary) (before : List UInt64)
    (primary : Primary) (extra : ε) : Prop where
  chained : primary.Chained
  directory : primary.directory = start.directory
  config : primary.config = start.config
  image : start.image.lastTxid ≤ primary.image.lastTxid
  kept : ∀ info ∈ start.finalized,
    info ∈ primary.finalized ∨ info.lastTxid ≤ primary.image.lastTxid
  issued : ∃ ids, given extra = before ++ ids ∧
    Issued start.active.writer.nextTxid ids primary.active.writer.nextTxid

theorem Ongoing.refl (chained : primary.Chained) (given : ε → List UInt64) (extra : ε) :
    Ongoing given primary (given extra) primary extra :=
  ⟨chained, rfl, rfl, UInt64.le_refl _, fun _ => .inl, [], (List.append_nil _).symm,
    .nil (UInt64.le_refl _)⟩

theorem Ongoing.sound (ongoing : Ongoing given start before primary extra) :
    primary.storage.Sound := by
  obtain ⟨recent, tidy⟩ := ongoing.chained.tidy
  exact tidy.sound

theorem Ongoing.foreign (ongoing : Ongoing given start before primary extra) {storage : Storage}
    (retains : Retains (fun path => ¬ Own start.directory path) primary.storage storage) :
    Ongoing given start before { primary with storage := storage } extra :=
  ⟨ongoing.chained.foreign (ongoing.directory ▸ retains), ongoing.directory, ongoing.config,
    ongoing.image, ongoing.kept, ongoing.issued⟩

theorem Ongoing.lock (ongoing : Ongoing given start before primary extra) (running : Bool) :
    Ongoing given start before { primary with roundRunning := running } extra :=
  ⟨ongoing.chained.lock running, ongoing.directory, ongoing.config, ongoing.image, ongoing.kept,
    ongoing.issued⟩

theorem Ongoing.newest (ongoing : Ongoing given start before primary extra) {info : SegmentInfo}
    (member : info ∈ start.finalized) : info.lastTxid ≤ lastMerged primary := by
  obtain ⟨recent, tidy⟩ := ongoing.chained.tidy
  rcases ongoing.kept info member with listed | covered
  · exact (lastMerged_spec tidy).1 info listed
  · exact UInt64.le_trans covered (ongoing.chained.later (covers_newest primary))

def Lasting (holds : Primary → Prop) : Prop :=
  ∀ {before after : Primary} {ids : List UInt64}, before.Advances ids after → holds before →
    holds after

theorem preserves_ongoing (orderly : secondary.injector.Orderly given) {holds : Primary → Prop}
    (lasting : Lasting holds) :
    secondary.injector.Preserves fun primary extra =>
      Ongoing given start before primary extra ∧ holds primary := by
  rintro hook primary extra ⟨ongoing, here⟩
  obtain ⟨more, known, acts, remembered, fewer⟩ := orderly hook primary extra
  obtain ⟨ids, known', issued⟩ := ongoing.issued
  obtain ⟨chained, advances⟩ := acts.advances ongoing.chained
  refine ⟨⟨chained, advances.directory.trans ongoing.directory,
    advances.config.trans ongoing.config, ?_, ?_, ids ++ known, ?_,
    issued.append (advances.issued.sublist fewer)⟩, lasting advances here⟩
  · rw [advances.image]
    exact ongoing.image
  · intro info member
    rw [advances.image]
    exact (ongoing.kept info member).imp_left fun listed => advances.finalized.subset listed
  · rw [remembered, known', List.append_assoc]

structure Scratch (directory scratch : Path) : Prop where
  named : ∃ parent number, scratch = parent ++ [Storage.temporaryName number]
  apart : ∀ path, Own directory path → ¬ scratch <+: path

theorem scratch_of_fresh {storage : Storage} (sound : storage.Sound) {directory parent : Path}
    (there : storage.lookup? directory = some .directory) {number : Nat}
    (fresh : storage.lookup? (parent ++ [Storage.temporaryName number]) = none) :
    Scratch directory (parent ++ [Storage.temporaryName number]) := by
  refine ⟨⟨parent, number, rfl⟩, fun path own below => ?_⟩
  obtain ⟨name, rfl⟩ := own.name
  rcases List.prefix_concat_iff.mp below with same | above
  · exact own.ne_temporary _ _ same.symm
  · rw [sound.absent_below fresh above] at there
    contradiction

theorem Ongoing.removed (ongoing : Ongoing given start before primary extra) {scratch : Path}
    (apart : Scratch start.directory scratch) :
    Retains (fun path => ¬ Own start.directory path) primary.storage
      ((primary.storage.removeDirectory scratch).toOption.getD primary.storage) := by
  obtain ⟨parent, number, rfl⟩ := apart.named
  cases there : primary.storage.lookup? (parent ++ [Storage.temporaryName number]) with
  | some entry =>
    cases entry with
    | file id =>
      rw [Storage.removeDirectory, there]
      exact (Changes.refl ongoing.sound).retains fun _ _ => False.elim
    | directory =>
      obtain ⟨after, removed, changes, -⟩ :=
        Storage.changes_removeDirectory ongoing.sound (by simp) there
      rw [removed]
      exact changes.retains fun path _ below own => absurd below (apart.apart path (not_not.mp own))
  | none =>
    rw [Storage.removeDirectory, there]
    exact (Changes.refl ongoing.sound).retains fun _ _ => False.elim

theorem Ongoing.discarded (ongoing : Ongoing given start before primary extra)
    {staged : StagedImage} {parent : Path} {number : Nat}
    (temporary : staged.path = parent ++ [Storage.temporaryName number])
    (plain : primary.storage.lookup? staged.path ≠ some .directory) :
    Retains (fun path => ¬ Own start.directory path) primary.storage
      (primary.discard staged).storage := by
  obtain ⟨changes, -⟩ :=
    Storage.changes_unbind ongoing.sound (show staged.path ≠ [] by simp [temporary]) plain
  refine changes.retains ?_
  rintro _ _ rfl own
  exact absurd temporary ((not_not.mp own).ne_temporary _ _)

structure Settled (given : ε → List UInt64) (start : Primary) (before : List UInt64)
    (bytes : List UInt8) (last : UInt64) (primary : Primary) (extra : ε) : Prop
    extends Ongoing given start before primary extra where
  shows : primary.Shows bytes last

theorem Settled.foreign {bytes : List UInt8} {last : UInt64}
    (settled : Settled given start before bytes last primary extra) {storage : Storage}
    (retains : Retains (fun path => ¬ Own start.directory path) primary.storage storage) :
    Settled given start before bytes last { primary with storage := storage } extra := by
  obtain ⟨ongoing, shows⟩ := settled
  obtain ⟨recent, tidy⟩ := ongoing.chained.tidy
  have own : Own start.directory primary.image.path := ongoing.directory ▸ tidy.own.2.1
  exact ⟨ongoing.foreign retains, shows.last, retains.read_eq_ok (not_not_intro own) shows.read⟩

structure Ready (staged : StagedImage) (bytes : List UInt8) (primary : Primary) : Prop where
  covers : primary.Covers staged.lastTxid
  temporary : ∃ number, staged.path = primary.directory ++ [Storage.temporaryName number]
  stored : primary.storage.read staged.path = .ok bytes

theorem Ready.plain {staged : StagedImage} {bytes : List UInt8} (ready : Ready staged bytes primary) :
    primary.storage.lookup? staged.path ≠ some .directory := by
  obtain ⟨id, found, -⟩ := Storage.read_eq_ok.mp ready.stored
  rw [found]
  exact nofun

theorem lasting_covers (last : UInt64) : Lasting (·.Covers last) := by
  intro before after ids advances covers
  rcases covers with same | ⟨info, member, same⟩
  · exact .inl (by rw [advances.image]; exact same)
  · exact .inr ⟨info, advances.finalized.subset member, same⟩

theorem lasting_ready (staged : StagedImage) (bytes : List UInt8) : Lasting (Ready staged bytes) := by
  intro before after ids advances ready
  obtain ⟨number, temporary⟩ := ready.temporary
  refine ⟨lasting_covers _ advances ready.covers, ⟨number, ?_⟩,
    advances.changes.read_eq_ok ?_ ready.stored⟩
  · rw [advances.directory]
    exact temporary
  · rintro ⟨first, segment⟩
    exact segment.ne_temporary number temporary

theorem install_ongoing (orderly : secondary.injector.Orderly given) (bytes : List UInt8)
    (last : UInt64) :
    Triple (fun state => Ongoing given start before state.primary state.extra ∧
        state.primary.Covers last)
      (secondary.install bytes last)
      (fun _ state => Settled given start before bytes last state.primary state.extra)
      (fun _ state => Ongoing given start before state.primary state.extra) := by
  have staging : Triple (fun state => Ongoing given start before state.primary state.extra ∧
        state.primary.Covers last)
      (onPrimary (·.stage bytes last))
      (fun staged state => (Ongoing given start before state.primary state.extra ∧
        Ready staged bytes state.primary) ∧ staged.lastTxid = last)
      (fun _ state => Ongoing given start before state.primary state.extra) := by
    rintro state ⟨ongoing, covers⟩
    rw [run_onPrimary]
    rcases state.primary.stage_cases ongoing.sound bytes last with
      ⟨error, failed⟩ | ⟨storage, staged, done, rfl, stages⟩
    · rw [failed]
      exact ongoing
    · obtain ⟨number, temporary⟩ := stages.path
      rw [done]
      refine ⟨⟨ongoing.foreign (stages.changes.retains ?_), covers, ⟨number, temporary⟩,
        stages.read⟩, rfl⟩
      rintro _ _ rfl own
      exact absurd temporary ((not_not.mp own).ne_temporary _ _)
  have committing (staged : StagedImage) :
      Triple (fun state => Ongoing given start before state.primary state.extra ∧
          Ready staged bytes state.primary)
        (onPrimary (·.commit staged))
        (fun _ state => Settled given start before bytes staged.lastTxid
          (discard staged state).primary (discard staged state).extra)
        (fun _ state => Ongoing given start before (discard staged state).primary
          (discard staged state).extra) := by
    rintro state ⟨ongoing, ready⟩
    obtain ⟨number, temporary⟩ := ready.temporary
    obtain ⟨commits, shown⟩ := ongoing.chained.commit temporary ready.stored ready.covers
    have left : Ongoing given start before (state.primary.commit staged).1 state.extra := by
      refine ⟨commits.chained, commits.directory.trans ongoing.directory,
        commits.config.trans ongoing.config, UInt64.le_trans ongoing.image commits.image, ?_, ?_⟩
      · intro info member
        rcases ongoing.kept info member with listed | covered
        · exact commits.kept info listed
        · exact .inr (UInt64.le_trans covered commits.image)
      · rw [commits.active]
        exact ongoing.issued
    have retains := left.discarded temporary (by rw [commits.gone]; exact nofun)
    rw [run_onPrimary]
    cases done : state.primary.commit staged with
    | mk after result =>
      rw [done] at left retains shown
      cases result with
      | error error => exact left.foreign retains
      | ok installed => exact Settled.foreign ⟨left, shown installed rfl⟩ retains
  refine staging.bind fun staged => Triple.under fun same => Triple.ensuring ?_
  subst same
  refine (enter_preserves (fun primary extra => Ongoing given start before primary extra ∧
    Ready staged bytes primary) .imageUploaded).bind fun _ => ?_
  refine ((pass_preserves (preserves_ongoing orderly (lasting_ready staged bytes))
    .afterImageUpload).abort_imp ?_).bind fun _ => (committing staged).bind fun _ _ here => here
  rintro _ state ⟨ongoing, ready⟩
  obtain ⟨number, temporary⟩ := ready.temporary
  exact ongoing.foreign (ongoing.discarded temporary ready.plain)

section Recorded

variable {α : Type} {known : ε × Notes → List UInt64} {contents : List (List UInt8)}
  {visited : List RoundStage}

/-- A round that goes on, on a primary that other calls go on with too. -/
def Underway (secondary : Secondary ε) (known : ε × Notes → List UInt64) (start : Primary)
    (before : List UInt64) (holds : Primary → Prop) (visited : List RoundStage)
    (contents : List (List UInt8)) (state : RoundState (ε × Notes)) : Prop :=
  (Ongoing known start before state.primary state.extra ∧ holds state.primary) ∧
    Calm secondary visited contents state

theorem enter_underway {holds : Primary → Prop} {stage : RoundStage}
    (order : visited ++ [stage] <+: RoundStage.course) :
    Triple (Underway secondary known start before holds visited contents) (enter stage)
      (fun _ => Underway secondary known start before holds (visited ++ [stage]) contents)
      (fun _ state => Ongoing known start before state.primary state.extra) :=
  (enter_preserves (fun primary extra => Ongoing known start before primary extra ∧ holds primary)
    stage).both (enter_calm start.config order)

theorem pass_underway (orderly : secondary.recording.injector.Orderly known)
    {holds : Primary → Prop} (lasting : Lasting holds) {hook : Hook}
    (quiet : ∀ primary passed, hook.sends primary passed = []) :
    Triple (Underway secondary known start before holds visited contents)
      (secondary.recording.pass hook)
      (fun _ => Underway secondary known start before holds visited contents)
      (fun _ state => Ongoing known start before state.primary state.extra) :=
  Triple.both ((pass_preserves (preserves_ongoing orderly lasting) hook).abort_imp
    fun _ _ here => here.1) (pass_calm start.config quiet)

theorem send_underway (orderly : secondary.recording.injector.Orderly known)
    {holds : Primary → Prop} (lasting : Lasting holds) (path : Path) :
    Triple (Underway secondary known start before holds visited contents)
      (secondary.recording.send path)
      (fun body state =>
        Underway secondary known start before holds visited (contents ++ [body]) state ∧
          state.primary.storage.read path = .ok body)
      (fun _ state => Ongoing known start before state.primary state.extra) :=
  (Triple.both ((send_preserves (preserves_ongoing orderly lasting) path).abort_imp
    fun _ _ here => here.1) (send_calm start.config path)).post_imp
      fun _ _ ⟨⟨here, read⟩, calm⟩ => ⟨⟨here, calm⟩, read⟩

theorem sends_underway (orderly : secondary.recording.injector.Orderly known)
    {holds : Primary → Prop} (lasting : Lasting holds) (image : List UInt8)
    (segments : List SegmentInfo) :
    Triple (Underway secondary known start before holds visited [image])
      (segments.mapM fun segment => secondary.recording.send segment.path)
      (fun bodies => Underway secondary known start before holds visited (image :: bodies))
      (fun _ state => Ongoing known start before state.primary state.extra) := by
  have step (bodies : List (List UInt8)) (segment : SegmentInfo) :
      Triple (Underway secondary known start before holds visited (image :: bodies))
        (secondary.recording.send segment.path)
        (fun body =>
          Underway secondary known start before holds visited (image :: (bodies ++ [body])))
        (fun _ state => Ongoing known start before state.primary state.extra) :=
    (send_underway orderly lasting segment.path).post_imp fun _ _ known => known.1
  exact Triple.mapM_append step segments []

theorem onStorage_underway (holds : Primary → Prop) {holds' : Primary → Prop}
    {action : Storage → Except StorageFault Storage}
    (foreign : ∀ primary storage, primary.directory = start.directory → primary.storage.Sound →
      holds primary → action primary.storage = .ok storage →
        Retains (fun path => ¬ Own start.directory path) primary.storage storage ∧
          holds' { primary with storage := storage }) :
    Triple (Underway secondary known start before holds visited contents) (onStorage action)
      (fun _ => Underway secondary known start before holds' visited contents)
      (fun _ state => Ongoing known start before state.primary state.extra) := by
  refine Triple.both ?_ (onPrimary_calm start.config _)
  rintro state ⟨ongoing, here⟩
  rw [onStorage, run_onPrimary]
  cases done : action state.primary.storage with
  | error fault => exact ongoing
  | ok storage =>
    obtain ⟨retains, here⟩ :=
      foreign state.primary storage ongoing.directory ongoing.sound here done
    exact ⟨ongoing.foreign retains, here⟩

theorem withScratch_underway {body : Path → RoundM (ε × Notes) α}
    {post : α → RoundState (ε × Notes) → Prop}
    (inside : ∀ scratch, Scratch start.directory scratch →
      Triple (Underway secondary known start before (fun _ => True) visited contents) (body scratch)
        (fun value state => post value (removeDirectory scratch state))
        (fun _ state => Ongoing known start before state.primary state.extra)) :
    Triple (Underway secondary known start before (fun _ => True) visited contents)
      (secondary.recording.withScratch body) post
      (fun _ state => Ongoing known start before state.primary state.extra) := by
  have working : Triple
      (Underway secondary known start before (fun _ => True) visited contents)
      (onStorage (·.makeDirectories secondary.workDirectory))
      (fun _ => Underway secondary known start before
        (·.storage.lookup? secondary.workDirectory = some .directory) visited contents)
      (fun _ state => Ongoing known start before state.primary state.extra) := by
    refine onStorage_underway _ fun primary storage _ sound _ made => ?_
    obtain ⟨grows, work⟩ := Storage.grows_makeDirectories sound made
    exact ⟨grows.retains, work⟩
  refine working.bind fun _ => Triple.get_bind_eq ?_
  rintro current ⟨⟨ongoing, work⟩, calm⟩
  obtain ⟨number, path, fresh⟩ :=
    current.primary.storage.temporaryPath_eq secondary.workDirectory
  obtain ⟨recent, tidy⟩ := ongoing.chained.tidy
  have scratch := scratch_of_fresh ongoing.sound (ongoing.directory ▸ tidy.directory) fresh
  have making : Triple (· = current)
      (onStorage (·.makeDirectories (secondary.workDirectory ++ [Storage.temporaryName number])))
      (fun _ => Underway secondary known start before (fun _ => True) visited contents)
      (fun _ state => Ongoing known start before state.primary state.extra) := by
    refine (onStorage_underway (· = current.primary) ?_).pre_imp ?_
    · rintro _ storage - sound rfl made
      obtain ⟨changes, -⟩ := Storage.changes_makeDirectory sound work made
      refine ⟨changes.retains fun other _ below own => ?_, trivial⟩
      exact absurd below (scratch.apart other (not_not.mp own))
    · rintro _ rfl
      exact ⟨⟨ongoing, rfl⟩, calm⟩
  simp only [recording, path]
  refine making.bind fun _ => Triple.ensuring ?_
  exact (inside _ scratch).abort_imp fun _ _ ongoing => ongoing.foreign (ongoing.removed scratch)

theorem upload_underway (orderly : secondary.recording.injector.Orderly known) {scratch : Path}
    (apart : Scratch start.directory scratch) (name : String) (merged : List UInt8)
    (last : UInt64) :
    Triple (Underway secondary known start before (·.Covers last) [.headerSent, .mergeInProgress]
        contents)
      (do
        onStorage (·.write (scratch ++ [name]) merged)
        let uploaded ← secondary.recording.send (scratch ++ [name])
        secondary.recording.install uploaded last)
      (fun _ state => Settled known start before merged last state.primary state.extra ∧
        Calm secondary RoundStage.course (contents ++ [merged]) state)
      (fun _ state => Ongoing known start before state.primary state.extra) := by
  -- The file is none of the primary's, so it stays as the merger has made it.
  let stays (primary : Primary) : Prop :=
    primary.Covers last ∧ primary.directory = start.directory ∧
      primary.storage.read (scratch ++ [name]) = .ok merged
  have lasting : Lasting stays := by
    rintro before after ids advances ⟨covers, directory, stored⟩
    refine ⟨lasting_covers last advances covers, advances.directory.trans directory,
      advances.changes.read_eq_ok ?_ stored⟩
    rintro ⟨first, segment⟩
    exact apart.apart _ (.inr ⟨first, directory ▸ segment⟩) (List.prefix_append ..)
  have storing : Triple
      (Underway secondary known start before (·.Covers last) [.headerSent, .mergeInProgress]
        contents)
      (onStorage (·.write (scratch ++ [name]) merged))
      (fun _ => Underway secondary known start before stays [.headerSent, .mergeInProgress] contents)
      (fun _ state => Ongoing known start before state.primary state.extra) := by
    refine onStorage_underway _ fun primary storage directory sound covers wrote => ?_
    obtain ⟨changes, read⟩ := Storage.changes_write sound wrote
    refine ⟨changes.retains ?_, covers, directory, read⟩
    rintro _ _ rfl own
    exact absurd (List.prefix_append ..) (apart.apart _ (not_not.mp own))
  refine storing.bind fun _ => (send_underway orderly lasting _).bind fun uploaded => ?_
  rintro state ⟨⟨⟨ongoing, covers, -, stored⟩, calm⟩, read⟩
  obtain rfl : merged = uploaded := Except.ok.inj (stored.symm.trans read)
  exact (install_ongoing orderly merged last).both (install_calm start.config merged last) state
    ⟨⟨ongoing, covers⟩, calm⟩

def Concluded (secondary : Secondary ε) (known : ε × Notes → List UInt64) (start : Primary)
    (before : List UInt64) (state : RoundState (ε × Notes)) : Prop :=
  ∃ image bodies merged last, state.extra.2.map (·.2) = image :: bodies ++ [merged] ∧
    secondary.merger image bodies start.config = .ok merged ∧
    (∀ info ∈ start.finalized, info.lastTxid ≤ last) ∧
    Settled known start before merged last state.primary state.extra

theorem checkpoint_underway (orderly : secondary.recording.injector.Orderly known) :
    Triple (Underway secondary known start before (fun _ => True) [] [])
      secondary.recording.checkpoint
      (fun _ => Concluded secondary known start before)
      (fun _ state => Ongoing known start before state.primary state.extra) := by
  have anywhere : Lasting fun _ => True := fun _ _ => trivial
  refine (pass_underway orderly anywhere fun _ _ => rfl).bind fun _ => ?_
  refine withScratch_underway fun scratch apart => ?_
  refine (pass_underway orderly anywhere fun _ _ => rfl).bind fun _ => ?_
  refine Triple.get_bind_eq fun listed here => ?_
  -- From here on the image will go up to the newest segment that there is now.
  have lasting : Lasting (·.Covers (lastMerged listed.primary)) := lasting_covers _
  have heading : Triple (· = listed) (enter .headerSent)
      (fun _ => Underway secondary known start before (·.Covers (lastMerged listed.primary))
        [.headerSent] [])
      (fun _ state => Ongoing known start before state.primary state.extra) := by
    rintro state rfl
    exact enter_underway (List.prefix_append [RoundStage.headerSent] _) state
      ⟨⟨here.1.1, covers_newest _⟩, here.2⟩
  refine heading.bind fun _ => ?_
  refine ((send_underway orderly lasting _).post_imp fun _ _ here => here.1).bind fun image => ?_
  refine (sends_underway orderly lasting image _).bind fun bodies => ?_
  refine (enter_underway (by decide)).bind fun _ => ?_
  refine (pass_underway orderly lasting fun _ _ => rfl).bind fun _ => ?_
  simp only [recording]
  cases merged : secondary.merger image bodies listed.primary.config with
  | error error => cases error <;> exact fun _ here => here.1.1
  | ok bytes =>
    refine (upload_underway orderly apart _ bytes _).post_imp ?_
    rintro _ state ⟨settled, calm⟩
    refine ⟨image, bodies, bytes, _, calm.contents, ?_, fun info => here.1.1.newest, ?_⟩
    · rw [← here.1.1.config]
      exact merged
    · exact settled.foreign (settled.removed apart)

end Recorded

theorem runRound_ongoing (orderly : secondary.injector.Orderly given) (chained : primary.Chained)
    (room : primary.HasRoom 2) (extra : ε) :
    Ongoing given primary (given extra) (secondary.runRound primary extra).1.1
      (secondary.runRound primary extra).1.2 := by
  obtain ⟨notes, same⟩ := secondary.runRound_recording primary extra
  have recorded : Ongoing (fun both : ε × Notes => given both.1) primary (given extra)
      (secondary.recording.runRound primary (extra, [])).1.1
      (secondary.recording.runRound primary (extra, [])).1.2 := by
    obtain ⟨linked, advances⟩ := chained.roll room
    have ongoing : Ongoing (fun both : ε × Notes => given both.1) primary (given extra)
        primary.roll.1 (extra, []) :=
      ⟨linked, advances.directory, advances.config, by rw [advances.image]; exact UInt64.le_refl _,
        fun info member => .inl (advances.finalized.subset member), [], (List.append_nil _).symm,
        advances.issued⟩
    rw [runRound_eq]
    split
    · exact Ongoing.refl chained (fun both : ε × Notes => given both.1) (extra, [])
    · cases rolled : primary.roll with
      | mk next result =>
        rw [rolled] at ongoing
        cases result with
        | error error => exact ongoing
        | ok source =>
          have held := checkpoint_underway orderly.recording (opening .idle next (extra, []))
            ⟨⟨ongoing.lock true, trivial⟩, secondary.calm_opening next extra⟩
          cases ran : secondary.recording.checkpoint.run.run (opening .idle next (extra, [])) with
          | mk ended state =>
            rw [ran] at held
            simp only [ran]
            cases ended with
            | error cause => exact held.lock false
            | ok value =>
              obtain ⟨_, _, _, _, -, -, -, settled⟩ := held
              exact settled.lock false
  rw [same] at recorded
  exact ⟨recorded.chained, recorded.directory, recorded.config, recorded.image, recorded.kept,
    recorded.issued⟩

end Secondary

namespace Primary

/-- Calls of a primary one after the other, with the ids that they return: those that anyone may make,
and rounds, whose hooks may make more of these. -/
inductive Calls (start : Primary) : List UInt64 → Primary → Prop
  | none : Calls start [] start
  | acts {ids more : List UInt64} {middle after : Primary} (calls : Calls start ids middle)
      (acts : Acts middle more after) : Calls start (ids ++ more) after
  | round {ids more : List UInt64} {middle : Primary} (calls : Calls start ids middle)
      (room : middle.HasRoom 2) {ε : Type} {secondary : Secondary ε} {given : ε → List UInt64}
      (orderly : secondary.injector.Orderly given) (extra : ε)
      (known : given (secondary.runRound middle extra).1.2 = given extra ++ more) :
      Calls start (ids ++ more) (secondary.runRound middle extra).1.1

theorem Calls.onward {start after : Primary} {ids : List UInt64} (calls : Calls start ids after)
    (chained : start.Chained) :
    after.Chained ∧ Issued start.active.writer.nextTxid ids after.active.writer.nextTxid ∧
      start.image.lastTxid ≤ after.image.lastTxid := by
  induction calls with
  | none => exact ⟨chained, .nil (UInt64.le_refl _), UInt64.le_refl _⟩
  | acts calls acts ih =>
    obtain ⟨chained, issued, image⟩ := ih
    obtain ⟨chained, advances⟩ := acts.advances chained
    exact ⟨chained, issued.append advances.issued, by rw [advances.image]; exact image⟩
  | round calls room orderly extra known ih =>
    obtain ⟨chained, issued, image⟩ := ih
    obtain ⟨chained, -, -, image', -, more, known', issued'⟩ :=
      Secondary.runRound_ongoing orderly chained room extra
    obtain rfl := List.append_cancel_left (known.symm.trans known')
    exact ⟨chained, issued.append issued', UInt64.le_trans image image'⟩

/-- What the files of a primary show: closed segments with every id from their first to their last, the
active segment with every id that it has been given, and no id between one segment and the next. -/
structure Gapless (primary : Primary) : Prop where
  closed : ∀ info ∈ primary.finalized, ∃ bytes records scan,
    primary.storage.read info.path = .ok bytes ∧
      Segment.readAll .strict primary.config bytes = .ok (records, scan) ∧
      scan.firstError = none ∧ scan.cleanlyClosed = true ∧
      records.map (·.txid.toNat) =
        List.range' info.firstTxid.toNat (info.lastTxid.toNat + 1 - info.firstTxid.toNat) ∧
      records.head? = some ⟨info.firstTxid, .startSegment⟩ ∧
      records.getLast? = some ⟨info.lastTxid, .endSegment⟩
  active : ∃ bytes records scan, primary.storage.read primary.active.path = .ok bytes ∧
    Segment.readAll .strict { primary.config with requireEndMarker := false }
      (bytes ++ Packed.toList primary.active.writer.sink.pending) = .ok (records, scan) ∧
    scan.firstError = none ∧
    records.map (·.txid.toNat) = List.range' primary.active.firstTxid.toNat records.length ∧
    records.head? = some ⟨primary.active.firstTxid, .startSegment⟩ ∧
    primary.active.writer.nextTxid.toNat = primary.active.firstTxid.toNat + records.length
  linked : Linked primary.image.lastTxid primary.finalized primary.active.firstTxid

theorem Sealed.shown {storage : Storage} {config : Config} {info : SegmentInfo}
    (closed : Sealed storage config info) : ∃ bytes records scan,
      storage.read info.path = .ok bytes ∧
        Segment.readAll .strict config bytes = .ok (records, scan) ∧
        scan.firstError = none ∧ scan.cleanlyClosed = true ∧
        records.map (·.txid.toNat) =
          List.range' info.firstTxid.toNat (info.lastTxid.toNat + 1 - info.firstTxid.toNat) ∧
        records.head? = some ⟨info.firstTxid, .startSegment⟩ ∧
        records.getLast? = some ⟨info.lastTxid, .endSegment⟩ := by
  obtain ⟨bytes, fill, records, read, written, consecutive⟩ := closed
  have last : info.lastTxid.toNat = info.firstTxid.toNat + records.length := consecutive.last
  refine ⟨bytes, _, _, read, Segment.readAll_of_written written fun _ => Nat.le_add_left 1 fill,
    Segment.firstError_cleanScan .., decide_eq_true (Nat.le_add_left 1 fill), ?_,
    consecutive.opened, List.getLast?_concat⟩
  rw [consecutive.txids, last, List.length_append, List.length_singleton]
  congr 1
  omega

theorem Chained.gapless {primary : Primary} (chained : primary.Chained) : primary.Gapless := by
  obtain ⟨recent, tidy⟩ := chained.tidy
  refine ⟨fun info member => (chained.closed info member).shown, ?_, chained.linked⟩
  obtain ⟨bytes, read, written⟩ := tidy.active.read
  exact ⟨bytes, recent, _, read, Segment.readAll_of_written written nofun,
    Segment.firstError_cleanScan .., tidy.active.consecutive.txids,
    tidy.active.consecutive.opened, tidy.active.counted⟩

/-- From a formatted primary on, whatever is called and whatever hooks do in between: the segments have
no gap, ids only go up, and so does the image. -/
theorem segments_gapless {storage : Storage} (sound : storage.Sound) {directory : Path}
    {config : Config} {start primary : Primary}
    (formatted : format storage directory config = .ok start) {ids : List UInt64}
    (calls : Calls start ids primary) :
    primary.Gapless ∧ ids.Pairwise (· < ·) ∧
      ∀ more after, Calls primary more after → primary.image.lastTxid ≤ after.image.lastTxid := by
  obtain ⟨chained, issued, -⟩ := calls.onward (chained_format sound formatted)
  refine ⟨chained.gapless, issued.ascending, fun more after later => ?_⟩
  exact (later.onward chained).2.2

set_option maxRecDepth 10000 in
theorem segments_gapless_round :
    let deletion : Operation := ⟨.delete, ⟨"/a", 9⟩⟩
    let secondary : Secondary (List UInt64) := ⟨["work"], Merger.consolidate, .logging deletion⟩
    ∃ start, format .empty ["primary"] .standard = .ok start ∧
      let merged := (secondary.runRound (start.log deletion).1 []).1
      let last := (merged.1.roll.1.log deletion).1.roll.1
      last.finalized.map (fun info => (info.firstTxid, info.lastTxid)) = [(4, 6), (7, 9)] ∧
        last.Gapless ∧ ([2] ++ merged.2 ++ [8]).Pairwise (· < ·) := by
  intro deletion secondary
  have seen : (format .empty ["primary"] .standard).toOption.any fun start =>
      let merged := (secondary.runRound (start.log deletion).1 []).1
      let again := merged.1.roll.1
      (start.HasRoom 1 ∧ (start.log deletion).1.HasRoom 2 ∧
        (start.log deletion).2.toOption.toList = [2]) ∧
      (merged.1.HasRoom 2 ∧ again.HasRoom 1 ∧ (again.log deletion).1.HasRoom 2 ∧
        (again.log deletion).2.toOption.toList = [8]) ∧
      (again.log deletion).1.roll.1.finalized.map (fun info => (info.firstTxid, info.lastTxid)) =
        [(4, 6), (7, 9)] := by
    decide +kernel
  cases formatted : format .empty ["primary"] .standard with
  | error error =>
    rw [formatted] at seen
    contradiction
  | ok start =>
    rw [formatted, Except.toOption, Option.any_some, decide_eq_true_iff] at seen
    obtain ⟨⟨room, roundRoom, first⟩, ⟨rollRoom, logRoom, lastRoom, second⟩, ended⟩ := seen
    have orderly : secondary.injector.Orderly id := Injector.orderly_logging deletion
    have logged : Acts start _ (start.log deletion).1 := .log .none room deletion
    have calls := (Calls.acts .none logged).round roundRoom orderly [] (List.nil_append _).symm
    have rolled := (Acts.none.roll rollRoom).log logRoom deletion
    have calls := calls.acts (rolled.roll lastRoom)
    obtain ⟨gapless, ascending, -⟩ := segments_gapless Storage.sound_empty formatted calls
    rw [first, second] at ascending
    exact ⟨start, rfl, ended, gapless, ascending⟩

end Primary

end Journal
