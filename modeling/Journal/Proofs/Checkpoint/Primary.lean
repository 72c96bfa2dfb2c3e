import Journal.Proofs.Checkpoint.File
import Journal.Proofs.Checkpoint.Names

set_option autoImplicit false

namespace Journal

namespace Primary

open Storage (Changes)

variable {primary : Primary} {recent : List Record}

structure Consecutive (first : UInt64) (records : List Record) : Prop where
  opened : records.head? = some ⟨first, .startSegment⟩
  txids : records.map (·.txid.toNat) = List.range' first.toNat records.length

namespace Consecutive

variable {first : UInt64} {records : List Record}

theorem concat (consecutive : Consecutive first records) {record : Record}
    (next : record.txid.toNat = first.toNat + records.length) :
    Consecutive first (records ++ [record]) where
  opened := by rw [List.head?_append, consecutive.opened, Option.some_or]
  txids := by
    rw [List.map_append, consecutive.txids, List.length_append, List.length_singleton,
      List.range'_1_concat, ← next]
    rfl

theorem last {record : Record} (consecutive : Consecutive first (records ++ [record])) :
    record.txid.toNat = first.toNat + records.length := by
  have txids := consecutive.txids
  rw [List.map_append, List.length_append, List.length_singleton, List.range'_1_concat] at txids
  exact List.singleton_inj.mp (List.append_inj_right' txids rfl)

theorem length_pos (consecutive : Consecutive first records) : 0 < records.length := by
  refine List.length_pos_iff.mpr fun empty => ?_
  have opened := consecutive.opened
  rw [empty] at opened
  contradiction

theorem mem_lt (consecutive : Consecutive first records) {record : Record}
    (member : record ∈ records) : record.txid.toNat < first.toNat + records.length := by
  have listed := List.mem_map_of_mem (f := fun record : Record => record.txid.toNat) member
  rw [consecutive.txids] at listed
  exact (List.mem_range'_1.mp listed).2

end Consecutive

structure Writes (storage : Storage) (directory : Path) (config : Config) (active : ActiveSegment)
    (records : List Record) : Prop where
  path : active.path = directory ++ [inProgressName active.firstTxid]
  file : active.writer.OnFile storage active.path config records
  consecutive : Consecutive active.firstTxid records
  counted : active.writer.nextTxid.toNat = active.firstTxid.toNat + records.length

theorem Writes.started {storage : Storage} {directory : Path} {config : Config}
    {active : ActiveSegment} {records : List Record}
    (writes : Writes storage directory config active records) :
    active.firstTxid < active.writer.nextTxid := by
  have := writes.consecutive.length_pos
  rw [UInt64.lt_iff_toNat_lt, writes.counted]
  omega

theorem Writes.below {storage : Storage} {directory : Path} {config : Config}
    {active : ActiveSegment} {records : List Record}
    (writes : Writes storage directory config active records) :
    ∀ record ∈ records, record.txid < active.writer.nextTxid := by
  intro record member
  rw [UInt64.lt_iff_toNat_lt, writes.counted]
  exact writes.consecutive.mem_lt member

theorem Writes.changes {storage after : Storage} {directory : Path} {config : Config}
    {active : ActiveSegment} {records : List Record}
    (writes : Writes storage directory config active records) {touched : Path → Prop}
    (changes : Changes touched storage after) (free : ¬ touched active.path) :
    Writes after directory config active records :=
  ⟨writes.path, writes.file.changes changes free, writes.consecutive, writes.counted⟩

theorem Writes.read {storage : Storage} {directory : Path} {config : Config} {active : ActiveSegment}
    {records : List Record} (writes : Writes storage directory config active records) :
    ∃ bytes, storage.read active.path = .ok bytes ∧
      Segment.Written config.layoutVersion records 0
        (bytes ++ Packed.toList active.writer.sink.pending) := by
  obtain ⟨bytes, wrote, written⟩ := writes.file.logged
  have held := wrote.held.bytes
  simp only [SegmentWriter.withSink] at held
  rw [← held] at written
  exact ⟨_, Storage.read_eq_ok.mpr ⟨_, writes.file.found, rfl⟩, writes.file.version ▸ written⟩

structure Tidy (primary : Primary) (recent : List Record) : Prop where
  sound : primary.storage.Sound
  checked : SegmentWriter.checkConfig primary.config = .ok ()
  active : Writes primary.storage primary.directory primary.config primary.active recent
  image : primary.image.path = primary.directory ++ [imageName primary.image.lastTxid]
  imageFile : ∃ id, primary.storage.lookup? primary.image.path = some (.file id)
  covered : primary.image.lastTxid < primary.active.firstTxid
  segment : ∀ info ∈ primary.finalized, SegmentPath primary.directory info.firstTxid info.path
  segmentFile : ∀ info ∈ primary.finalized,
    ∃ id, primary.storage.lookup? info.path = some (.file id)
  extent : ∀ info ∈ primary.finalized,
    info.firstTxid < info.lastTxid ∧ info.lastTxid < primary.active.firstTxid
  order : primary.finalized.Pairwise (·.lastTxid < ·.firstTxid)

theorem Tidy.lock (tidy : primary.Tidy recent) (running : Bool) :
    Tidy { primary with roundRunning := running } recent :=
  ⟨tidy.sound, tidy.checked, tidy.active, tidy.image, tidy.imageFile, tidy.covered, tidy.segment,
    tidy.segmentFile, tidy.extent, tidy.order⟩

theorem startSegment_of_blocked {storage : Storage} {directory : Path} {first : UInt64}
    {fault : StorageFault}
    (blocked : storage.create (directory ++ [inProgressName first]) = .error fault)
    (config : Config) :
    startSegment storage directory config first = (storage, .error (.ofStorage fault)) := by
  simp only [startSegment, SegmentWriter.createSegment_of_blocked blocked config]

theorem startSegment_of_created {storage : Storage} (sound : storage.Sound) {config : Config}
    (checked : SegmentWriter.checkConfig config = .ok ()) {directory : Path} {first : UInt64}
    (room : first.toNat + 1 < 2 ^ 64) {made : Storage} {id : Nat}
    (free : storage.create (directory ++ [inProgressName first]) = .ok (made, id)) :
    ∃ after active, startSegment storage directory config first = (after, .ok active) ∧
      Changes (· = directory ++ [inProgressName first]) storage after ∧
      active.firstTxid = first ∧ active.writer.nextTxid = first + 1 ∧
      Writes after directory config active [⟨first, .startSegment⟩] := by
  obtain ⟨opened, writer, created, changes, on, -⟩ :=
    SegmentWriter.createSegment_of_created sound checked free
  have on : (writer.startingAt first).OnFile opened (directory ++ [inProgressName first]) config
      [] := by
    obtain ⟨found, version, preallocation, bytes, wrote, written⟩ := on
    exact ⟨found, version, preallocation, bytes, ⟨wrote.held, wrote.offset, wrote.last⟩, written⟩
  obtain ⟨after, next, appended, changes', on, txid⟩ := on.append_boundary changes.sound
    (by simp) (show Operation.startSegment.opcode.isBoundary = true from rfl)
  have txid : next.nextTxid = first + 1 := txid.trans (Txid.max_succ room)
  refine ⟨after, ⟨next, _, first⟩, by simp only [startSegment, created, appended],
    changes.trans changes', rfl, txid, rfl, on, ⟨rfl, rfl⟩, ?_⟩
  simp only [txid]
  exact Txid.toNat_succ (by omega)

theorem startSegment_cases {storage : Storage} (sound : storage.Sound) {config : Config}
    (checked : SegmentWriter.checkConfig config = .ok ()) (directory : Path) {first : UInt64}
    (room : first.toNat + 1 < 2 ^ 64) :
    (∃ error, startSegment storage directory config first = (storage, .error error)) ∨
    ∃ after active, startSegment storage directory config first = (after, .ok active) ∧
      Changes (· = directory ++ [inProgressName first]) storage after ∧
      active.firstTxid = first ∧ active.writer.nextTxid = first + 1 ∧
      Writes after directory config active [⟨first, .startSegment⟩] := by
  cases free : storage.create (directory ++ [inProgressName first]) with
  | error fault => exact .inl ⟨_, startSegment_of_blocked free config⟩
  | ok made => exact .inr (startSegment_of_created sound checked room free)

theorem Tidy.activePath (tidy : primary.Tidy recent) :
    SegmentPath primary.directory primary.active.firstTxid primary.active.path :=
  .inl tidy.active.path

theorem Tidy.image_apart (tidy : primary.Tidy recent) {first : UInt64} {path : Path}
    (segment : SegmentPath primary.directory first path) : primary.image.path ≠ path := by
  rw [tidy.image]
  exact (segment.ne_image _).symm

theorem Tidy.segment_apart (tidy : primary.Tidy recent) {info : SegmentInfo}
    (member : info ∈ primary.finalized) {first : UInt64}
    (later : primary.active.firstTxid ≤ first) {path : Path}
    (segment : SegmentPath primary.directory first path) : info.path ≠ path := by
  intro same
  subst same
  have same := (tidy.segment info member).unique segment
  have extent := tidy.extent info member
  grind

theorem Tidy.directory (tidy : primary.Tidy recent) :
    primary.storage.lookup? primary.directory = some .directory := by
  obtain ⟨id, found⟩ := tidy.imageFile
  rw [tidy.image] at found
  have parent := tidy.sound.parents found (by simp)
  rwa [Path.parent, List.dropLast_concat] at parent

theorem Tidy.act (tidy : primary.Tidy recent) {storage : Storage}
    {writer : SegmentWriter FileHandle} {records : List Record}
    (changes : Changes (· = primary.active.path) primary.storage storage)
    (on : writer.OnFile storage primary.active.path primary.config records)
    (consecutive : Consecutive primary.active.firstTxid records)
    (counted : writer.nextTxid.toNat = primary.active.firstTxid.toNat + records.length) :
    Tidy { primary with storage := storage, active := { primary.active with writer := writer } }
      records where
  sound := changes.sound
  checked := tidy.checked
  active := ⟨tidy.active.path, on, consecutive, counted⟩
  image := tidy.image
  imageFile := by
    obtain ⟨id, found⟩ := tidy.imageFile
    exact ⟨id, changes.isFile (tidy.image_apart tidy.activePath) found⟩
  covered := tidy.covered
  segment := tidy.segment
  segmentFile := by
    intro info member
    obtain ⟨id, found⟩ := tidy.segmentFile info member
    exact ⟨id, changes.isFile
      (tidy.segment_apart member (UInt64.le_refl _) tidy.activePath) found⟩
  extent := tidy.extent
  order := tidy.order

theorem Tidy.log_cases (tidy : primary.Tidy recent)
    (room : primary.active.writer.nextTxid.toNat + 1 < 2 ^ 64) (operation : Operation) :
    (∃ storage writer,
      let after := { primary with
        storage := storage, active := { primary.active with writer := writer } }
      primary.log operation = (after, .ok primary.active.writer.nextTxid) ∧
      Changes (· = primary.active.path) primary.storage storage ∧
      after.Tidy (recent ++ [⟨primary.active.writer.nextTxid, operation⟩])) ∨
    ∃ error, primary.log operation = (primary, .error error) := by
  rcases tidy.active.file.append_cases tidy.sound operation with
    ⟨storage, writer, appended, changes, on, txid⟩ | ⟨error, refused⟩
  · have counted := tidy.active.counted
    have next : writer.nextTxid.toNat =
        primary.active.firstTxid.toNat + (recent.length + 1) := by
      rw [txid, Txid.max_succ room, Txid.toNat_succ room, counted]
      omega
    refine .inl ⟨storage, writer, ?_, changes, tidy.act changes on
      (tidy.active.consecutive.concat counted) ?_⟩
    · simp only [log, onActive, appended]
    · rw [next, List.length_append, List.length_singleton]
  · right
    refine ⟨error, ?_⟩
    simp only [log, onActive, refused]

theorem Tidy.sync (tidy : primary.Tidy recent) :
    ∃ storage writer,
      let after := { primary with
        storage := storage, active := { primary.active with writer := writer } }
      primary.sync = (after, .ok ()) ∧
      Changes (· = primary.active.path) primary.storage storage ∧ after.Tidy recent := by
  obtain ⟨storage, writer, flushed, changes, on, txid⟩ := tidy.active.file.flush tidy.sound
  refine ⟨storage, writer, ?_, changes, tidy.act changes on tidy.active.consecutive ?_⟩
  · simp only [Primary.sync, onActive, flushed]
  · rw [txid]
    exact tidy.active.counted

/-- What a roll does: the segment that was active is now `info`, and the next one is `active`. -/
structure Rolled (before : Primary) (recent : List Record) (info : SegmentInfo) (storage : Storage)
    (active : ActiveSegment) : Prop where
  first : info.firstTxid = before.active.firstTxid
  last : info.lastTxid = before.active.writer.nextTxid
  path : SegmentPath before.directory info.firstTxid info.path
  closed : ∃ bytes fill, storage.read info.path = .ok bytes ∧
    Segment.Written before.config.layoutVersion
      (recent ++ [⟨info.lastTxid, .endSegment⟩]) (fill + 1) bytes
  next : active.firstTxid = info.lastTxid + 1
  writes : Writes storage before.directory before.config active
    [⟨info.lastTxid + 1, .startSegment⟩]
  changes : Changes (fun path => SegmentPath before.directory info.firstTxid path ∨
    SegmentPath before.directory (info.lastTxid + 1) path) before.storage storage

theorem rename_blocked_of_changes {before after : Storage} {touched : Path → Prop}
    (changes : Changes touched before after) {directory : Path}
    (within : ∀ path, touched path → ∃ other, path = directory ++ [inProgressName other])
    {source : Path} {id id' : Nat} (found : before.lookup? source = some (.file id))
    (found' : after.lookup? source = some (.file id')) {first last : UInt64} {fault : StorageFault}
    (blocked : before.rename source (directory ++ [finalizedName first last]) = .error fault) :
    after.rename source (directory ++ [finalizedName first last]) = .error fault := by
  refine Storage.rename_eq_error_of_same found found' (changes.entry _ fun inside => ?_)
    (changes.entry _ fun inside => ?_) blocked
  · obtain ⟨other, same⟩ := within _ inside
    exact finalizedName_ne_inProgressName _ _ _ (last_injective same)
  · obtain ⟨other, same⟩ := within _ inside
    have lengths := congrArg List.length same
    simp [Path.parent] at lengths

theorem finalize_eq (sound : primary.storage.Sound) {old : ActiveSegment} {records : List Record}
    (on : old.writer.OnFile primary.storage old.path primary.config records)
    (named : old.path = primary.directory ++ [inProgressName old.firstTxid])
    (chunked : primary.config.preallocation ≠ some 0) (last : UInt64) :
    ∃ storage info result,
      primary.finalize old last = ({ primary with
        storage := storage, finalized := primary.finalized ++ [info] }, result) ∧
      (∀ source, result = .ok source → source = info) ∧
      info.firstTxid = old.firstTxid ∧ info.lastTxid = last ∧
      SegmentPath primary.directory old.firstTxid info.path ∧
      Changes (SegmentPath primary.directory old.firstTxid) primary.storage storage ∧
      (∃ bytes fill, storage.read info.path = .ok bytes ∧
        Segment.Written primary.config.layoutVersion records (fill + 1) bytes) ∧
      ∀ fault, primary.storage.rename old.path
          (primary.directory ++ [finalizedName old.firstTxid last]) = .error fault →
        result = .error (.ofStorage fault) ∧ info.path = old.path := by
  -- If the segment cannot be renamed, it is kept under the name that it has.
  obtain ⟨closed, bytes, fill, shut, changes, stored, written⟩ := on.close sound chunked
  have within : ∀ path, path = old.path → SegmentPath primary.directory old.firstTxid path := by
    intro other same
    subst same
    exact .inl named
  let path := primary.directory ++ [finalizedName old.firstTxid last]
  obtain ⟨id, found, held⟩ := Storage.read_eq_ok.mp stored
  have blocked {fault : StorageFault} (blocked : primary.storage.rename old.path path = .error fault) :
      closed.rename old.path path = .error fault := by
    refine rename_blocked_of_changes changes (fun other same => ?_) on.found found blocked
    exact ⟨_, same.trans named⟩
  cases renamed : closed.rename old.path path with
  | error fault =>
    refine ⟨closed, ⟨old.path, old.firstTxid, last⟩, .error (.ofStorage fault), ?_, nofun, rfl, rfl,
      .inl named, changes.mono within, ⟨bytes, fill, stored, written⟩, fun cause known => ?_⟩
    · simp only [finalize, shut, renamed, path]
    · obtain rfl : fault = cause := Except.error.inj (renamed.symm.trans (blocked known))
      exact ⟨rfl, rfl⟩
  | ok storage =>
    obtain ⟨moved, target, same, -⟩ := Storage.changes_rename changes.sound found renamed
    refine ⟨storage, ⟨path, old.firstTxid, last⟩, .ok ⟨path, old.firstTxid, last⟩, ?_, ?_, rfl, rfl,
      .inr ⟨last, rfl⟩, (changes.mono within).trans (moved.mono ?_), ⟨bytes, fill, ?_, written⟩,
      fun fault known => ?_⟩
    · simp only [finalize, shut, renamed, path]
    · intro source given
      exact (Except.ok.inj given).symm
    · intro other either
      rcases either with rfl | rfl
      · exact .inl named
      · exact .inr ⟨last, rfl⟩
    · exact Storage.read_eq_ok.mpr ⟨id, target, same.trans held⟩
    · rw [blocked known] at renamed
      contradiction

theorem Tidy.next_apart (tidy : primary.Tidy recent)
    (room : primary.active.writer.nextTxid.toNat + 1 < 2 ^ 64) :
    ¬ SegmentPath primary.directory primary.active.firstTxid
      (primary.directory ++ [inProgressName (primary.active.writer.nextTxid + 1)]) := by
  intro segment
  have reused := segment.unique (.inl rfl)
  have started := tidy.active.started
  rw [reused] at started
  exact UInt64.lt_asymm started (Txid.lt_succ room)

def nextPath (primary : Primary) : Path :=
  primary.directory ++ [inProgressName (primary.active.writer.nextTxid + 1)]

def closedPath (primary : Primary) : Path :=
  primary.directory ++ [finalizedName primary.active.firstTxid primary.active.writer.nextTxid]

theorem roll_of_blocked {fault : StorageFault}
    (blocked : primary.storage.create primary.nextPath = .error fault) :
    primary.roll = (primary, .error (.ofStorage fault)) := by
  simp only [roll, startSegment_of_blocked blocked primary.config]

theorem Tidy.roll_of_created (tidy : primary.Tidy recent)
    (room : primary.active.writer.nextTxid.toNat + 2 < 2 ^ 64) {opened : Storage} {id : Nat}
    (free : primary.storage.create primary.nextPath = .ok (opened, id)) :
    ∃ info storage active result,
      primary.roll = ({ primary with
        storage := storage, active := active, finalized := primary.finalized ++ [info] }, result) ∧
      (∀ source, result = .ok source → source = info) ∧
      primary.Rolled recent info storage active ∧
      ∀ fault, primary.storage.rename primary.active.path primary.closedPath = .error fault →
        result = .error (.ofStorage fault) ∧ info.path = primary.active.path := by
  have succ := Txid.toNat_succ (show primary.active.writer.nextTxid.toNat + 1 < 2 ^ 64 by omega)
  have apart := tidy.next_apart (by omega)
  obtain ⟨made, next, started, changes, first, txid, writes⟩ :=
    startSegment_of_created tidy.sound tidy.checked (by omega) free
  -- The active segment is ended while the next one is already open.
  have opening := tidy.active.file.changes changes fun same => apart (same ▸ tidy.activePath)
  obtain ⟨ended, writer, appended, changes', on, -⟩ := opening.append_boundary changes.sound
    (fun record member => UInt64.le_of_lt (tidy.active.below record member))
    (show Operation.endSegment.opcode.isBoundary = true from rfl)
  let opened : Primary := { primary with storage := ended, active := next }
  let old : ActiveSegment := { primary.active with writer := writer }
  have chunked := (SegmentWriter.checkConfig_eq_ok.mp tidy.checked).2
  obtain ⟨storage, info, result, finalized, source, first', last, path, changes'', closed, blocked⟩ :=
    finalize_eq (show opened.storage.Sound from changes'.sound)
      (show old.writer.OnFile ended old.path primary.config _ from on) tidy.active.path chunked
      primary.active.writer.nextTxid
  refine ⟨info, storage, next, result, ?_, source, ⟨first', last, first' ▸ path, last ▸ closed,
    by rw [last]; exact first, ?_, ?_⟩, fun fault known => blocked fault ?_⟩
  · simp only [roll, started, onActive, appended]
    exact finalized
  · rw [← first, ← writes.path] at apart
    rw [last]
    exact (writes.changes changes' fun same => apart (same ▸ tidy.activePath)).changes changes'' apart
  · rw [first', last]
    refine ((changes.mono ?_).trans (changes'.mono ?_)).trans (changes''.mono fun _ => .inl)
    · intro other same
      subst same
      exact .inr (.inl rfl)
    · intro other same
      subst same
      exact .inl tidy.activePath
  · refine rename_blocked_of_changes changes' (fun other same => ⟨_, same.trans tidy.active.path⟩)
      opening.found on.found ?_
    exact rename_blocked_of_changes changes (fun other same => ⟨_, same⟩) tidy.active.file.found
      opening.found known

theorem Tidy.roll_cases (tidy : primary.Tidy recent)
    (room : primary.active.writer.nextTxid.toNat + 2 < 2 ^ 64) :
    (∃ error, primary.roll = (primary, .error error)) ∨
    ∃ info storage active result,
      primary.roll = ({ primary with
        storage := storage, active := active, finalized := primary.finalized ++ [info] }, result) ∧
      (∀ source, result = .ok source → source = info) ∧
      primary.Rolled recent info storage active := by
  cases free : primary.storage.create primary.nextPath with
  | error fault => exact .inl ⟨_, roll_of_blocked free⟩
  | ok opened =>
    obtain ⟨info, storage, active, result, done, source, rolled, -⟩ := tidy.roll_of_created room free
    exact .inr ⟨info, storage, active, result, done, source, rolled⟩

theorem Tidy.rolled_later (tidy : primary.Tidy recent)
    (room : primary.active.writer.nextTxid.toNat + 2 < 2 ^ 64) {info : SegmentInfo}
    {storage : Storage} {active : ActiveSegment}
    (rolled : primary.Rolled recent info storage active) :
    info.firstTxid < info.lastTxid ∧ info.lastTxid < active.firstTxid ∧
      primary.active.firstTxid < active.firstTxid := by
  have started : info.firstTxid < info.lastTxid := by
    rw [rolled.first, rolled.last]
    exact tidy.active.started
  have ended : info.lastTxid < active.firstTxid := by
    rw [rolled.next, rolled.last]
    exact Txid.lt_succ (by omega)
  refine ⟨started, ended, ?_⟩
  rw [← rolled.first]
  exact UInt64.lt_trans started ended

theorem Tidy.rolled_apart (tidy : primary.Tidy recent)
    (room : primary.active.writer.nextTxid.toNat + 2 < 2 ^ 64) {info : SegmentInfo}
    {storage : Storage} {active : ActiveSegment}
    (rolled : primary.Rolled recent info storage active) {other : SegmentInfo}
    (before : other ∈ primary.finalized) :
    ¬ (SegmentPath primary.directory info.firstTxid other.path ∨
      SegmentPath primary.directory (info.lastTxid + 1) other.path) := by
  obtain ⟨-, -, later⟩ := tidy.rolled_later room rolled
  rintro (segment | segment)
  · exact tidy.segment_apart before (by rw [rolled.first]; exact UInt64.le_refl _) segment rfl
  · rw [← rolled.next] at segment
    exact tidy.segment_apart before (UInt64.le_of_lt later) segment rfl

theorem Tidy.rolled (tidy : primary.Tidy recent)
    (room : primary.active.writer.nextTxid.toNat + 2 < 2 ^ 64) {info : SegmentInfo}
    {storage : Storage} {active : ActiveSegment}
    (rolled : primary.Rolled recent info storage active) :
    Tidy { primary with
      storage := storage, active := active, finalized := primary.finalized ++ [info] }
      [⟨info.lastTxid + 1, .startSegment⟩] := by
  obtain ⟨started, ended, later⟩ := tidy.rolled_later room rolled
  refine ⟨rolled.changes.sound, tidy.checked, rolled.writes, tidy.image, ?_, ?_, ?_, ?_, ?_, ?_⟩
  · obtain ⟨id, found⟩ := tidy.imageFile
    refine ⟨id, rolled.changes.isFile ?_ found⟩
    rintro (segment | segment) <;> exact tidy.image_apart segment rfl
  · exact UInt64.lt_trans tidy.covered later
  · intro other member
    rcases List.mem_append.mp member with before | last
    · exact tidy.segment other before
    · rw [List.mem_singleton.mp last]
      exact rolled.path
  · intro other member
    rcases List.mem_append.mp member with before | last
    · obtain ⟨id, found⟩ := tidy.segmentFile other before
      exact ⟨id, rolled.changes.isFile (tidy.rolled_apart room rolled before) found⟩
    · obtain ⟨bytes, _, read, -⟩ := rolled.closed
      obtain ⟨id, found, -⟩ := Storage.read_eq_ok.mp read
      rw [List.mem_singleton.mp last]
      exact ⟨id, found⟩
  · intro other member
    rcases List.mem_append.mp member with before | last
    · exact ⟨(tidy.extent other before).1, UInt64.lt_trans (tidy.extent other before).2 later⟩
    · rw [List.mem_singleton.mp last]
      exact ⟨started, ended⟩
  · refine List.pairwise_append.mpr ⟨tidy.order, List.pairwise_singleton _ _, ?_⟩
    intro other before last member
    rw [List.mem_singleton.mp member, rolled.first]
    exact (tidy.extent other before).2

theorem Tidy.roll (tidy : primary.Tidy recent)
    (room : primary.active.writer.nextTxid.toNat + 2 < 2 ^ 64) :
    (∃ records, primary.roll.1.Tidy records) ∧
      primary.roll.1.roundRunning = primary.roundRunning := by
  rcases tidy.roll_cases room with ⟨error, failed⟩ | ⟨info, storage, active, result, done, -, rolled⟩
  · rw [failed]
    exact ⟨⟨recent, tidy⟩, rfl⟩
  · rw [done]
    exact ⟨⟨_, tidy.rolled room rolled⟩, rfl⟩

theorem checked_of_createSegment {storage : Storage} {path : Path} {config : Config}
    {writer : SegmentWriter FileHandle}
    (created : (createSegment storage path config).2 = .ok writer) :
    SegmentWriter.checkConfig config = .ok () := by
  rw [createSegment] at created
  cases checked : SegmentWriter.checkConfig config with
  | ok => rfl
  | error error =>
    simp only [SegmentWriter.start, checked] at created
    split at created <;> contradiction

theorem tidy_format {storage : Storage} (sound : storage.Sound) {directory : Path} {config : Config}
    (formatted : format storage directory config = .ok primary) :
    primary.Tidy [⟨1, .startSegment⟩] ∧ primary.roundRunning = false ∧ primary.finalized = [] ∧
      ∃ bytes fill, primary.storage.read primary.image.path = .ok bytes ∧
        Segment.Written primary.config.layoutVersion [] (fill + 1) bytes := by
  obtain ⟨rooted, made, rest⟩ := bind_eq_ok.mp formatted
  obtain ⟨grows, -⟩ := Storage.grows_makeDirectories sound (mapError_eq_ok.mp made)
  simp only at rest
  cases created : createSegment rooted (directory ++ [imageName 0]) config with
  | mk after outcome =>
    rw [created] at rest
    obtain ⟨writer, rfl, rest⟩ := bind_eq_ok.mp rest
    have checked := checked_of_createSegment (congrArg Prod.snd created)
    rcases SegmentWriter.createSegment_cases grows.sound checked (directory ++ [imageName 0]) with
      ⟨error, failed⟩ | ⟨_, _, again, changes, on, -⟩
    · rw [failed] at created
      cases created
    · cases again.symm.trans created
      obtain ⟨closed, bytes, fill, shut, changes', read, written⟩ :=
        on.close changes.sound (SegmentWriter.checkConfig_eq_ok.mp checked).2
      rw [shut] at rest
      obtain ⟨⟨⟩, -, rest⟩ := bind_eq_ok.mp rest
      rcases startSegment_cases changes'.sound checked directory
        (show (1 : UInt64).toNat + 1 < 2 ^ 64 by decide) with
        ⟨error, failed⟩ | ⟨storage, active, started, changes'', first, -, writes⟩
      · rw [failed] at rest
        cases rest
      · rw [started] at rest
        cases pure_eq_ok.mp rest
        have apart : directory ++ [imageName 0] ≠ directory ++ [inProgressName 1] :=
          (SegmentPath.ne_image (.inl rfl) 0).symm
        have kept := changes''.read_eq_ok apart read
        obtain ⟨id, found, -⟩ := Storage.read_eq_ok.mp kept
        refine ⟨⟨changes''.sound, checked, writes, rfl, ⟨id, found⟩, ?_, by simp, by simp, by simp,
          .nil⟩, rfl, rfl, bytes, fill, kept, written⟩
        change (0 : UInt64) < active.firstTxid
        rw [first]
        decide

end Primary

end Journal
