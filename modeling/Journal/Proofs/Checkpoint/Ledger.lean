import Journal.Proofs.Checkpoint.Merge
import Journal.Proofs.Checkpoint.Run

set_option autoImplicit false

namespace Journal

open Storage (Changes Retains)

variable {primary : Primary} {recent done : List Record}

namespace Primary

def substanceAt (primary : Primary) (path : Path) : Except Error (List Record) :=
  (primary.storage.read path).mapError .ofStorage >>= Merger.substance primary.config

def sources (primary : Primary) : List Path :=
  primary.image.path :: (primary.segmentsAfter primary.image.lastTxid).map (·.path)

def activeSubstance (primary : Primary) : Except Error (List Record) := do
  let written ← (primary.storage.read primary.active.path).mapError .ofStorage
  let pending := Packed.toList primary.active.writer.sink.pending
  Merger.substance { primary.config with requireEndMarker := false } (written ++ pending)

def recorded (primary : Primary) : Except Error (List Record) := do
  let closed ← primary.sources.mapM primary.substanceAt
  return closed.flatten ++ (← primary.activeSubstance)

theorem Tidy.activeSubstance (tidy : primary.Tidy recent) :
    primary.activeSubstance = .ok (recent.filter fun record => !record.opcode.isBoundary) := by
  obtain ⟨bytes, read, written⟩ := tidy.active.read
  rw [Primary.activeSubstance, read]
  exact Merger.substance_of_written written nofun

def Accounts (primary : Primary) (done : List Record) : Prop :=
  ∃ recent closed, primary.Tidy recent ∧
    primary.sources.mapM primary.substanceAt = .ok closed ∧
    done = closed.flatten ++ recent.filter fun record => !record.opcode.isBoundary

theorem Accounts.recorded (accounts : primary.Accounts done) : primary.recorded = .ok done := by
  obtain ⟨recent, closed, tidy, mapped, rfl⟩ := accounts
  rw [Primary.recorded, mapped, ok_bind, tidy.activeSubstance]
  rfl

theorem mem_sources {path : Path} :
    path ∈ primary.sources ↔ path = primary.image.path ∨
      ∃ info ∈ primary.finalized, primary.image.lastTxid < info.lastTxid ∧ info.path = path := by
  simp [sources, segmentsAfter, and_assoc]

theorem Tidy.sources_apart (tidy : primary.Tidy recent) {first : UInt64}
    (later : primary.active.firstTxid ≤ first) {path : Path} (listed : path ∈ primary.sources) :
    ¬ SegmentPath primary.directory first path := by
  intro segment
  rcases mem_sources.mp listed with image | ⟨info, member, -, same⟩
  · exact tidy.image_apart segment image.symm
  · exact tidy.segment_apart member later segment same

theorem substanceAt_of_read {before after : Primary} (config : after.config = before.config)
    {path : Path}
    (kept : ∀ bytes, before.storage.read path = .ok bytes → after.storage.read path = .ok bytes)
    {records : List Record} (known : before.substanceAt path = .ok records) :
    after.substanceAt path = .ok records := by
  obtain ⟨bytes, read, scanned⟩ := bind_eq_ok.mp known
  refine bind_eq_ok.mpr ⟨bytes, ?_, ?_⟩
  · exact mapError_eq_ok.mpr (kept bytes (mapError_eq_ok.mp read))
  · rw [config]
    exact scanned

theorem Accounts.of_format {storage : Storage} (sound : storage.Sound) {directory : Path}
    {config : Config} (formatted : format storage directory config = .ok primary) :
    primary.Accounts [] := by
  obtain ⟨tidy, -, none, bytes, fill, read, written⟩ := tidy_format sound formatted
  refine ⟨_, [[]], tidy, ?_, rfl⟩
  have substance := Merger.substance_of_written written
    fun _ : primary.config.requireEndMarker = true => Nat.le_add_left 1 fill
  have image : primary.substanceAt primary.image.path = .ok [] := by
    rw [substanceAt, read]
    exact substance
  rw [sources, segmentsAfter, none]
  change [primary.image.path].mapM primary.substanceAt = _
  rw [List.mapM_cons, image]
  rfl

theorem closed_of_changes {closed : List (List Record)}
    (mapped : primary.sources.mapM primary.substanceAt = .ok closed) {after : Primary}
    (config : after.config = primary.config) {touched : Path → Prop}
    (changes : Changes touched primary.storage after.storage)
    (free : ∀ path ∈ primary.sources, ¬ touched path) :
    primary.sources.mapM after.substanceAt = .ok closed := by
  refine mapM_eq_ok_of_imp (fun path listed _ => ?_) mapped
  exact substanceAt_of_read config fun _ => changes.read_eq_ok (free path listed)

theorem Tidy.closed_of_act (tidy : primary.Tidy recent) {closed : List (List Record)}
    (mapped : primary.sources.mapM primary.substanceAt = .ok closed) {storage : Storage}
    {writer : SegmentWriter FileHandle}
    (changes : Changes (· = primary.active.path) primary.storage storage) :
    let after := { primary with
      storage := storage, active := { primary.active with writer := writer } }
    after.sources.mapM after.substanceAt = .ok closed := by
  -- The active writer leaves the closed files alone.
  intro after
  apply closed_of_changes mapped (show after.config = primary.config from rfl) changes
  rintro path listed rfl
  exact tidy.sources_apart (UInt64.le_refl _) listed tidy.activePath

theorem Accounts.log (accounts : primary.Accounts done) (room : primary.HasRoom 1)
    (operation : Operation) :
    (primary.log operation).1.Accounts
      (done ++ acknowledged operation (primary.log operation).2) := by
  obtain ⟨recent, closed, tidy, mapped, rfl⟩ := accounts
  rcases tidy.log_cases room operation with
    ⟨storage, writer, logged, changes, tidy'⟩ | ⟨error, refused⟩
  · rw [logged]
    refine ⟨_, closed, tidy', tidy.closed_of_act mapped changes, ?_⟩
    rw [List.filter_append, ← List.append_assoc, acknowledged]
    by_cases boundary : operation.opcode.isBoundary = true
    · rw [if_pos boundary, List.filter_singleton]
      simp [boundary, Record.opcode]
    · rw [if_neg boundary]
      simp [boundary, Record.opcode]
  · rw [refused]
    refine ⟨recent, closed, tidy, mapped, ?_⟩
    exact List.append_nil _

theorem Accounts.sync (accounts : primary.Accounts done) : primary.sync.1.Accounts done := by
  obtain ⟨recent, closed, tidy, mapped, rfl⟩ := accounts
  obtain ⟨storage, writer, synced, changes, tidy'⟩ := tidy.sync
  rw [synced]
  exact ⟨recent, closed, tidy', tidy.closed_of_act mapped changes, rfl⟩

theorem Tidy.closed_of_rolled (tidy : primary.Tidy recent) (room : primary.HasRoom 2)
    {closed : List (List Record)} (mapped : primary.sources.mapM primary.substanceAt = .ok closed)
    {info : SegmentInfo} {storage : Storage} {active : ActiveSegment}
    (rolled : primary.Rolled recent info storage active) :
    let after := { primary with
      storage := storage, active := active, finalized := primary.finalized ++ [info] }
    after.sources.mapM after.substanceAt =
      .ok (closed ++ [recent.filter fun record => !record.opcode.isBoundary]) := by
  intro after
  have started : primary.active.firstTxid < info.lastTxid := by
    rw [rolled.last]
    exact tidy.active.started
  have later : primary.active.firstTxid ≤ info.lastTxid + 1 := by
    refine UInt64.le_of_lt (UInt64.lt_trans started ?_)
    rw [rolled.last]
    exact Txid.lt_succ (by rw [HasRoom] at room; omega)
  have more : after.sources = primary.sources ++ [info.path] := by
    have unmerged : primary.image.lastTxid < info.lastTxid := UInt64.lt_trans tidy.covered started
    simp [sources, segmentsAfter, after, unmerged]
  have kept : primary.sources.mapM after.substanceAt = .ok closed := by
    refine closed_of_changes mapped rfl rolled.changes fun path listed => ?_
    refine not_or.mpr ⟨tidy.sources_apart ?_ listed, tidy.sources_apart later listed⟩
    rw [rolled.first]
    exact UInt64.le_refl _
  have ended : after.substanceAt info.path =
      .ok (recent.filter fun record => !record.opcode.isBoundary) := by
    obtain ⟨bytes, fill, read, written⟩ := rolled.closed
    have read : after.storage.read info.path = .ok bytes := read
    have substance := Merger.substance_of_written written
      fun _ : primary.config.requireEndMarker = true => Nat.le_add_left 1 fill
    rw [substanceAt, read]
    refine Eq.trans substance (congrArg Except.ok ?_)
    rw [List.filter_append]
    exact List.append_nil _
  rw [more, List.mapM_append, kept, ok_bind, List.mapM_cons, ended]
  rfl

theorem Accounts.roll (accounts : primary.Accounts done) (room : primary.HasRoom 2) :
    primary.roll.1.Accounts done := by
  obtain ⟨recent, closed, tidy, mapped, rfl⟩ := accounts
  rcases tidy.roll_cases room with ⟨error, failed⟩ | ⟨info, storage, active, result, done, -, rolled⟩
  · rw [failed]
    exact ⟨recent, closed, tidy, mapped, rfl⟩
  · rw [done]
    refine ⟨_, _, tidy.rolled room rolled, tidy.closed_of_rolled room mapped rolled, ?_⟩
    rw [List.flatten_concat]
    exact (List.append_nil _).symm

theorem uses_of_mem_sources {path : Path} (listed : path ∈ primary.sources) : primary.Uses path := by
  rcases mem_sources.mp listed with image | ⟨info, member, -, same⟩
  · exact .inr (.inl image)
  · exact .inr (.inr ⟨info, member, same⟩)

theorem Accounts.others (accounts : primary.Accounts done) {storage : Storage}
    (retains : Retains (fun path => ¬ primary.Uses path) primary.storage storage) :
    Accounts { primary with storage := storage } done := by
  obtain ⟨recent, closed, tidy, mapped, rfl⟩ := accounts
  refine ⟨recent, closed, tidy.others retains, mapM_eq_ok_of_imp (fun path listed _ known => ?_) mapped,
    rfl⟩
  let after : Primary := { primary with storage := storage }
  exact substanceAt_of_read (show after.config = primary.config from rfl)
    (fun _ => retains.read_eq_ok (not_not_intro (uses_of_mem_sources listed))) known

theorem Accounts.kept (accounts : primary.Accounts done) {path : Path} {after : Primary}
    (kept : Secondary.Kept path primary after) : after.Accounts done := by
  obtain ⟨storage, rfl, grows⟩ := kept
  exact accounts.others grows.retains

theorem mapM_substance_of_read {image : List UInt8} {bodies : List (List UInt8)}
    (readImage : primary.storage.read primary.image.path = .ok image)
    (readBodies : (primary.segmentsAfter primary.image.lastTxid).mapM
      (fun segment => primary.storage.read segment.path) = .ok bodies) :
    primary.sources.mapM primary.substanceAt =
      (image :: bodies).mapM (Merger.substance primary.config) := by
  have fetched : primary.sources.mapM primary.storage.read = .ok (image :: bodies) := by
    refine mapM_cons_eq_ok.mpr ⟨image, bodies, readImage, ?_, rfl⟩
    rw [List.mapM_map]
    exact readBodies
  exact mapM_bind_of_eq_ok fetched

theorem written_of_succeeds {ε : Type} {secondary : Secondary ε}
    (merger : secondary.merger = Merger.consolidate) (tidy : primary.Tidy recent)
    {closed : List (List Record)} (mapped : primary.sources.mapM primary.substanceAt = .ok closed)
    {after : Primary} (succeeds : Secondary.Succeeds secondary primary after) :
    after.config = primary.config ∧ after.sources = [after.image.path] ∧
      ∃ merged fill, after.storage.read after.image.path = .ok merged ∧
        Segment.Written primary.config.layoutVersion closed.flatten (fill + 1) merged := by
  obtain ⟨-, none⟩ := succeeds.tidy tidy
  obtain ⟨merged, grown, ⟨image, bodies, readImage, readBodies, made⟩, -, installed⟩ := succeeds
  rw [merger] at made
  obtain ⟨kept, fill, inputs, written⟩ := Merger.written_of_consolidate tidy.checked made
  rw [← mapM_substance_of_read readImage readBodies, mapped] at inputs
  obtain rfl : closed = kept := Except.ok.inj inputs
  have config := congrArg Primary.config installed.same
  have path := congrArg (·.image.path) installed.same
  simp only at config path
  refine ⟨config, by rw [sources, segmentsAfter, none]; rfl, merged, fill, ?_, written⟩
  rw [path]
  exact installed.image

theorem filter_closed {paths : List Path} {closed : List (List Record)}
    (mapped : paths.mapM primary.substanceAt = .ok closed) :
    (closed.flatten.filter fun record => !record.opcode.isBoundary) = closed.flatten := by
  refine List.filter_eq_self.mpr fun record member => ?_
  obtain ⟨records, inside, member⟩ := List.mem_flatten.mp member
  obtain ⟨path, -, found⟩ := mem_of_mapM_eq_ok mapped inside
  obtain ⟨bytes, -, substance⟩ := bind_eq_ok.mp found
  obtain ⟨_, all, _, -, -, rfl⟩ := Merger.substance_eq_ok.mp substance
  exact (List.mem_filter.mp member).2

theorem Accounts.succeeds (accounts : primary.Accounts done) {ε : Type} {secondary : Secondary ε}
    (merger : secondary.merger = Merger.consolidate) {after : Primary}
    (succeeds : Secondary.Succeeds secondary primary after) : after.Accounts done := by
  obtain ⟨recent, closed, tidy, mapped, rfl⟩ := accounts
  obtain ⟨config, sources, merged, fill, read, written⟩ :=
    written_of_succeeds merger tidy mapped succeeds
  have substance := Merger.substance_of_written written
    fun _ : after.config.requireEndMarker = true => Nat.le_add_left 1 fill
  rw [filter_closed mapped] at substance
  refine ⟨recent, [closed.flatten], (succeeds.tidy tidy).1, ?_, by simp⟩
  rw [sources]
  refine mapM_cons_eq_ok.mpr ⟨closed.flatten, [], ?_, rfl, rfl⟩
  exact bind_eq_ok.mpr ⟨merged, mapError_eq_ok.mpr read, substance⟩

theorem Onward.accounts {start : Primary} {more : List Record}
    (onward : Onward (· = Merger.consolidate) start more primary) (accounts : start.Accounts done)
    (idle : start.roundRunning = false) : primary.Accounts (done ++ more) := by
  have ⟨_, _, tidy, _⟩ := accounts
  induction onward with
  | here =>
    rw [List.append_nil]
    exact accounts
  | log onward room operation ih =>
    rw [← List.append_assoc]
    exact ih.log room operation
  | sync onward ih => exact ih.sync
  | roll onward room ih => exact ih.roll room
  | round onward room merger passive extra ih =>
    obtain ⟨⟨recent, tidy⟩, idle⟩ := onward.tidy tidy idle
    obtain ⟨after, _, _, ran, cases⟩ := Secondary.coordinate_cases passive tidy idle room extra
    rw [Secondary.runRound, ran]
    rcases cases with ⟨-, kept⟩ | ⟨-, succeeds⟩
    · exact (ih.roll room).kept kept
    · exact (ih.roll room).succeeds merger succeeds
  | others onward retains ih => exact ih.others retains

theorem Run.accounts (run : Run (· = Merger.consolidate) primary done) : primary.Accounts done := by
  obtain ⟨start, ⟨storage, directory, config, sound, formatted⟩, onward⟩ := run.onward
  have accounts := onward.accounts (.of_format sound formatted) (tidy_format sound formatted).2.1
  rwa [List.nil_append] at accounts

/-- Whatever calls a primary has had, and however its rounds have been interfered with: its records
are those that were acknowledged, each of them once and in the order in which they were logged. -/
theorem recorded_eq_acknowledged (run : Run (· = Merger.consolidate) primary done) :
    primary.recorded = .ok done :=
  run.accounts.recorded

theorem recorded_eq_acknowledged_round :
    let deletion : Operation := ⟨.delete, ⟨"/a", 9⟩⟩
    let secondary : Secondary Unit := ⟨["work"], Merger.consolidate, .none⟩
    ∃ primary, format .empty ["primary"] .standard = .ok primary ∧
      (secondary.runRound (primary.log deletion).1 ()).1.1.recorded = .ok [⟨2, deletion⟩] := by
  intro deletion secondary
  have logged : (format .empty ["primary"] .standard).toOption.any fun primary =>
      primary.HasRoom 1 ∧ (primary.log deletion).1.HasRoom 2 ∧
        acknowledged deletion (primary.log deletion).2 = [⟨2, deletion⟩] := by
    decide +kernel
  cases formatted : format .empty ["primary"] .standard with
  | error error =>
    rw [formatted] at logged
    contradiction
  | ok primary =>
    rw [formatted, Except.toOption, Option.any_some, decide_eq_true_iff] at logged
    obtain ⟨room, room', known⟩ := logged
    have run : Run (· = Merger.consolidate) (primary.log deletion).1 [⟨2, deletion⟩] := by
      rw [← known]
      exact (Run.format Storage.sound_empty formatted).log room deletion
    have passive : secondary.injector.Passive := fun _ _ _ => rfl
    exact ⟨primary, rfl, recorded_eq_acknowledged (run.round room' rfl passive ())⟩

end Primary

end Journal
