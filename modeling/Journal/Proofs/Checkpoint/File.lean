import Journal.Checkpoint.Primary
import Journal.Proofs.Segment.Records
import Journal.Proofs.Storage.Directories

set_option autoImplicit false

namespace Journal

namespace OpenFile

structure Holds (base : Storage) (id : Nat) (file : OpenFile) (bytes : List UInt8) : Prop where
  handle : file.handle.id = id
  known : id < file.storage.contents.length
  entries : file.storage.entries = base.entries
  length : file.storage.contents.length = base.contents.length
  others : ∀ other, other ≠ id → file.storage.contentsOf other = base.contentsOf other
  position : file.handle.position = (file.storage.contentsOf id).length
  bytes : file.storage.contentsOf id ++ Packed.toList file.handle.pending = bytes

theorem Holds.of_empty {storage : Storage} {id : Nat} (known : id < storage.contents.length)
    (empty : storage.contentsOf id = []) : Holds storage id ⟨storage, .opened id⟩ [] :=
  ⟨rfl, known, rfl, rfl, fun _ _ => rfl, by rw [empty]; rfl, by rw [empty]; rfl⟩

variable {base : Storage} {id : Nat} {file : OpenFile} {bytes : List UInt8}

theorem Holds.writeThrough (held : Holds base id file bytes)
    (empty : Packed.toList file.handle.pending = []) (chunk : ByteArray) :
    Holds base id (file.writeThrough chunk) (bytes ++ Packed.toList chunk) := by
  obtain ⟨rfl, known, entries, length, others, position, rfl⟩ := held
  have contents (other : Nat) : (file.writeThrough chunk).storage.contentsOf other =
      if other = file.handle.id then
        file.storage.contentsOf file.handle.id ++ Packed.toList chunk
      else file.storage.contentsOf other := by
    have atEnd : file.handle.position = (file.storage.bufferOf file.handle.id).size :=
      position.trans (Buffer.length_bytes _)
    rw [OpenFile.writeThrough, Storage.writeAt, Storage.contentsOf_setBuffer known,
      Buffer.writeAt, if_pos atEnd, Buffer.bytes_push]
    rfl
  have size : (file.writeThrough chunk).storage.contents.length = file.storage.contents.length :=
    Storage.length_setBuffer _ _
  refine ⟨rfl, by rwa [size], entries, by rw [size, length], fun other differs => ?_, ?_, ?_⟩
  · rw [contents, if_neg differs, others other differs]
  · rw [contents, if_pos rfl, List.length_append, Packed.length_toList, ← position]
    rfl
  · have waiting : Packed.toList (file.writeThrough chunk).handle.pending = [] := empty
    rw [contents, if_pos rfl, waiting, empty]
    simp

theorem pending_writePending (file : OpenFile) :
    Packed.toList file.writePending.handle.pending = [] := by
  rw [OpenFile.writePending]
  by_cases empty : file.handle.pending.size = 0
  · rw [if_pos empty]
    exact List.length_eq_zero_iff.mp (by rw [Packed.length_toList, empty])
  · rw [if_neg empty]
    rfl

theorem Holds.writePending (held : Holds base id file bytes) :
    Holds base id file.writePending bytes := by
  rw [OpenFile.writePending]
  by_cases empty : file.handle.pending.size = 0
  · rw [if_pos empty]
    exact held
  · rw [if_neg empty]
    -- The bytes that waited are taken from the handle before they are written.
    have emptied : Holds base id
        { file with handle := { file.handle with pending := .empty } }
        (file.storage.contentsOf id) :=
      ⟨held.handle, held.known, held.entries, held.length, held.others, held.position,
        List.append_nil _⟩
    have written := emptied.writeThrough rfl file.handle.pending
    rwa [held.bytes] at written

theorem Holds.hold (held : Holds base id file bytes) (chunk : ByteArray) :
    Holds base id (file.hold chunk) (bytes ++ Packed.toList chunk) := by
  refine ⟨held.handle, held.known, held.entries, held.length, held.others, held.position, ?_⟩
  rw [← held.bytes, List.append_assoc, ← Packed.toList_append]
  rfl

theorem Holds.put (held : Holds base id file bytes) (chunk : ByteArray) :
    Holds base id (file.put chunk) (bytes ++ Packed.toList chunk) := by
  rw [OpenFile.put]
  by_cases room : capacity < file.handle.pending.size + chunk.size
  · rw [if_pos room]
    split
    · exact held.writePending.writeThrough file.pending_writePending chunk
    · exact held.writePending.hold chunk
  · rw [if_neg room]
    split
    · next large =>
      have empty : file.handle.pending.size = 0 := by omega
      exact held.writeThrough
        (List.length_eq_zero_iff.mp (by rw [Packed.length_toList, empty])) chunk
    · exact held.hold chunk

theorem keeps (base : Storage) (id : Nat) : Sink.Keeps (Holds base id) where
  write chunk held := ⟨_, rfl, held.put chunk⟩
  flush held := ⟨_, rfl, held.writePending⟩
  sync held := ⟨_, rfl, held.writePending⟩

theorem Holds.changes (held : Holds base id file bytes) (sound : base.Sound) {path : Path}
    (found : base.lookup? path = some (.file id)) :
    Storage.Changes (· = path) base file.storage :=
  Storage.changes_of_file sound found held.entries held.length held.others

theorem Holds.moved {storage after : Storage} {handle : FileHandle}
    (held : Holds storage id ⟨storage, handle⟩ bytes) (known : id < after.contents.length)
    (same : after.contentsOf id = storage.contentsOf id) :
    Holds after id ⟨after, handle⟩ bytes :=
  ⟨held.handle, known, rfl, rfl, fun _ _ => rfl, by rw [same]; exact held.position,
    by rw [same]; exact held.bytes⟩

theorem Holds.settled (held : Holds base id file bytes) : Holds file.storage id file bytes :=
  ⟨held.handle, held.known, rfl, rfl, fun _ _ => rfl, held.position, held.bytes⟩

end OpenFile

namespace SegmentWriter

open Storage (Changes)

theorem pending_close (writer : SegmentWriter OpenFile) :
    Packed.toList writer.close.1.handle.pending = [] := by
  simp only [close, write, flush, Sink.write, Sink.sync]
  exact OpenFile.pending_writePending _

structure OnFile (storage : Storage) (path : Path) (config : Config)
    (writer : SegmentWriter FileHandle) (records : List Record) : Prop where
  found : storage.lookup? path = some (.file writer.sink.id)
  version : writer.version = config.layoutVersion
  preallocation : writer.preallocation = config.preallocation
  logged : (writer.withSink (OpenFile.mk storage writer.sink)).Logged
    (OpenFile.Holds storage writer.sink.id) records

variable {storage after : Storage} {path : Path} {config : Config}
  {writer : SegmentWriter FileHandle} {records : List Record}

theorem OnFile.moved (on : writer.OnFile storage path config records) (sound : after.Sound)
    (found : after.lookup? path = some (.file writer.sink.id))
    (same : after.contentsOf writer.sink.id = storage.contentsOf writer.sink.id) :
    writer.OnFile after path config records := by
  obtain ⟨-, version, preallocation, bytes, wrote, written⟩ := on
  exact ⟨found, version, preallocation, bytes,
    ⟨wrote.held.moved (sound.allocated found) same, wrote.offset, wrote.last⟩, written⟩

theorem OnFile.changes (on : writer.OnFile storage path config records)
    {touched : Path → Prop} (changes : Changes touched storage after) (free : ¬ touched path) :
    writer.OnFile after path config records :=
  on.moved changes.sound (changes.isFile free on.found) (changes.contents _ _ free on.found)

theorem onFile_of_logged (sound : storage.Sound) {id : Nat}
    (found : storage.lookup? path = some (.file id)) {next : SegmentWriter OpenFile}
    (logged : next.Logged (OpenFile.Holds storage id) records)
    (version : next.version = config.layoutVersion)
    (preallocation : next.preallocation = config.preallocation) :
    Changes (· = path) storage next.sink.storage ∧
      (next.withSink next.sink.handle).OnFile next.sink.storage path config records := by
  obtain ⟨bytes, wrote, written⟩ := logged
  have same : next.sink.handle.id = id := wrote.held.handle
  have kept : next.sink.storage.lookup? path = some (.file id) := by
    rw [Storage.lookup?, wrote.held.entries, ← Storage.lookup?, found]
  refine ⟨wrote.held.changes sound found, ?_, version, preallocation, bytes,
    ⟨?_, wrote.offset, wrote.last⟩, written⟩
  · exact same.symm ▸ kept
  · change OpenFile.Holds next.sink.storage next.sink.handle.id next.sink bytes
    rw [same]
    exact wrote.held.settled

theorem OnFile.settle (on : writer.OnFile storage path config records) (sound : storage.Sound)
    {next : SegmentWriter OpenFile} {records' : List Record}
    (logged : next.Logged (OpenFile.Holds storage writer.sink.id) records')
    (setup : SameSetup (writer.withSink (OpenFile.mk storage writer.sink)) next) :
    Changes (· = path) storage next.sink.storage ∧
      (next.withSink next.sink.handle).OnFile next.sink.storage path config records' :=
  onFile_of_logged sound on.found logged (setup.version.trans on.version)
    (setup.preallocation.trans on.preallocation)

theorem OnFile.append_cases (on : writer.OnFile storage path config records)
    (sound : storage.Sound) (operation : Operation) :
    (∃ after next, Primary.onFile storage writer (·.append operation) =
        (after, next, .ok writer.nextTxid) ∧ Changes (· = path) storage after ∧
      next.OnFile after path config (records ++ [⟨writer.nextTxid, operation⟩]) ∧
      next.nextTxid = max writer.nextTxid (writer.nextTxid + 1)) ∨
    ∃ error, Primary.onFile storage writer (·.append operation) =
      (storage, writer, .error error) := by
  rcases on.logged.append_cases (OpenFile.keeps storage writer.sink.id) operation with
    ⟨next, appended, logged, setup, txid⟩ | ⟨error, refused⟩
  · obtain ⟨changes, on⟩ := on.settle sound logged setup
    refine .inl ⟨_, _, ?_, changes, on, txid⟩
    simp only [Primary.onFile, appended]
    rfl
  · right
    refine ⟨error, ?_⟩
    simp only [Primary.onFile, refused]
    rfl

theorem OnFile.append_boundary (on : writer.OnFile storage path config records)
    (sound : storage.Sound) (later : ∀ earlier ∈ records, earlier.txid ≤ writer.nextTxid)
    {operation : Operation} (boundary : operation.opcode.isBoundary = true) :
    ∃ after next, Primary.onFile storage writer (·.append operation) =
        (after, next, .ok writer.nextTxid) ∧ Changes (· = path) storage after ∧
      next.OnFile after path config (records ++ [⟨writer.nextTxid, operation⟩]) ∧
      next.nextTxid = max writer.nextTxid (writer.nextTxid + 1) := by
  obtain ⟨next, appended, logged, setup, txid⟩ :=
    on.logged.append_boundary (OpenFile.keeps storage writer.sink.id) later boundary
  obtain ⟨changes, on⟩ := on.settle sound logged setup
  refine ⟨_, _, ?_, changes, on, txid⟩
  simp only [Primary.onFile, appended]
  rfl

theorem OnFile.flush (on : writer.OnFile storage path config records) (sound : storage.Sound) :
    ∃ after next, Primary.onFile storage writer (·.flush) = (after, next, .ok ()) ∧
      Changes (· = path) storage after ∧ next.OnFile after path config records ∧
      next.nextTxid = writer.nextTxid := by
  obtain ⟨bytes, wrote, written⟩ := on.logged
  obtain ⟨sink, flushed, wrote⟩ := wrote.flush (OpenFile.keeps storage writer.sink.id)
  obtain ⟨changes, on⟩ := on.settle sound ⟨bytes, wrote, written⟩ ⟨rfl, rfl, rfl⟩
  refine ⟨_, _, ?_, changes, on, rfl⟩
  simp only [Primary.onFile, flushed]

theorem OnFile.close (on : writer.OnFile storage path config records) (sound : storage.Sound)
    (chunked : config.preallocation ≠ some 0) :
    ∃ after bytes fill, Primary.closeFile storage writer = (after, .ok ()) ∧
      Changes (· = path) storage after ∧ after.read path = .ok bytes ∧
      Segment.Written config.layoutVersion records (fill + 1) bytes := by
  have chunked : (writer.withSink (OpenFile.mk storage writer.sink)).preallocation ≠ some 0 :=
    on.preallocation.symm ▸ chunked
  obtain ⟨file, bytes, fill, closed, held, written, -⟩ :=
    on.logged.close (OpenFile.keeps storage writer.sink.id) chunked
  have empty := pending_close (writer.withSink (OpenFile.mk storage writer.sink))
  rw [closed] at empty
  have stored := held.bytes
  rw [empty, List.append_nil] at stored
  refine ⟨file.storage, bytes, fill, ?_, held.changes sound on.found, ?_, on.version ▸ written⟩
  · rw [Primary.closeFile, closed]
  · refine Storage.read_eq_ok.mpr ⟨writer.sink.id, ?_, stored⟩
    rw [Storage.lookup?, held.entries, ← Storage.lookup?, on.found]

theorem createSegment_of_blocked {fault : StorageFault} (blocked : storage.create path = .error fault)
    (config : Config) :
    Primary.createSegment storage path config = (storage, .error (.ofStorage fault)) := by
  rw [Primary.createSegment, blocked]

theorem createSegment_of_created (sound : storage.Sound) (checked : checkConfig config = .ok ())
    {made : Storage} {id : Nat} (created : storage.create path = .ok (made, id)) :
    ∃ after writer, Primary.createSegment storage path config = (after, .ok writer) ∧
      Changes (· = path) storage after ∧ writer.OnFile after path config [] ∧
      writer.nextTxid = 1 := by
  rw [Primary.createSegment, created]
  obtain ⟨changes, found, empty⟩ := Storage.changes_create sound created
  have held := OpenFile.Holds.of_empty (changes.sound.allocated found) empty
  obtain ⟨writer, started, logged, setup, txid⟩ :=
    start_logged (OpenFile.keeps made id) checked held
  obtain ⟨wrote, on⟩ :=
    onFile_of_logged changes.sound found logged setup.version setup.preallocation
  exact ⟨_, _, by simp only [started], changes.trans wrote, on, txid⟩

theorem createSegment_cases (sound : storage.Sound) (checked : checkConfig config = .ok ())
    (path : Path) :
    (∃ error, Primary.createSegment storage path config = (storage, .error error)) ∨
    ∃ after writer, Primary.createSegment storage path config = (after, .ok writer) ∧
      Changes (· = path) storage after ∧ writer.OnFile after path config [] ∧
      writer.nextTxid = 1 := by
  cases created : storage.create path with
  | error fault => exact .inl ⟨_, createSegment_of_blocked created config⟩
  | ok made => exact .inr (createSegment_of_created sound checked created)

end SegmentWriter

end Journal
