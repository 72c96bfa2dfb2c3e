import Journal.Segment.Writer

set_option autoImplicit false

namespace Journal

structure SegmentInfo where
  path : Path
  firstTxid : UInt64
  lastTxid : UInt64
deriving DecidableEq

structure ImagePointer where
  path : Path
  lastTxid : UInt64
deriving DecidableEq

structure ActiveSegment where
  writer : SegmentWriter FileHandle
  path : Path
  firstTxid : UInt64

structure StagedImage where
  path : Path
  lastTxid : UInt64

structure Primary where
  storage : Storage
  directory : Path
  config : Config
  active : ActiveSegment
  finalized : List SegmentInfo
  image : ImagePointer
  roundRunning : Bool

namespace Primary

def padded (txid : UInt64) : String :=
  String.ofList ((Nat.toDigits 10 txid.toNat).leftpad 19 (Char.ofNat 0x30))

def imageName (last : UInt64) : String := "image_" ++ padded last

def inProgressName (first : UInt64) : String := "edits_inprogress_" ++ padded first

def finalizedName (first last : UInt64) : String := "edits_" ++ padded first ++ "-" ++ padded last

def createSegment (storage : Storage) (path : Path) (config : Config) :
    Storage × Except Error (SegmentWriter FileHandle) :=
  match storage.create path with
  | .error fault => (storage, .error (.ofStorage fault))
  | .ok (storage, id) =>
    match SegmentWriter.start config (OpenFile.mk storage (.opened id)) with
    | .error (error, file) => (file.storage, .error error)
    | .ok writer => (writer.sink.storage, .ok (writer.withSink writer.sink.handle))

def onFile {α : Type} (storage : Storage) (writer : SegmentWriter FileHandle)
    (action : SegmentWriter OpenFile → SegmentWriter OpenFile × α) :
    Storage × SegmentWriter FileHandle × α :=
  let (writer, result) := action (writer.withSink ⟨storage, writer.sink⟩)
  (writer.sink.storage, writer.withSink writer.sink.handle, result)

def closeFile (storage : Storage) (writer : SegmentWriter FileHandle) :
    Storage × Except Error Unit :=
  let (file, result) := (writer.withSink (OpenFile.mk storage writer.sink)).close
  (file.storage, result)

def startSegment (storage : Storage) (directory : Path) (config : Config) (first : UInt64) :
    Storage × Except Error ActiveSegment :=
  let path := directory ++ [inProgressName first]
  match createSegment storage path config with
  | (storage, .error error) => (storage, .error error)
  | (storage, .ok writer) =>
    match onFile storage (writer.startingAt first) (·.append .startSegment) with
    | (storage, writer, .ok _) => (storage, .ok ⟨writer, path, first⟩)
    | (storage, _, .error error) => (storage, .error error)

def format (storage : Storage) (directory : Path) (config : Config) : Except Error Primary := do
  let storage ← (storage.makeDirectories directory).mapError .ofStorage
  let imagePath := directory ++ [imageName 0]
  let (storage, created) := createSegment storage imagePath config
  let (storage, closed) := closeFile storage (← created)
  closed
  let (storage, active) := startSegment storage directory config 1
  return ⟨storage, directory, config, ← active, [], ⟨imagePath, 0⟩, false⟩

def onActive {α : Type} (primary : Primary)
    (action : SegmentWriter OpenFile → SegmentWriter OpenFile × α) : Primary × α :=
  let (storage, writer, result) := onFile primary.storage primary.active.writer action
  ({ primary with storage := storage, active := { primary.active with writer := writer } }, result)

def log (primary : Primary) (operation : Operation) : Primary × Except Error UInt64 :=
  primary.onActive (·.append operation)

def sync (primary : Primary) : Primary × Except Error Unit := primary.onActive (·.flush)

def segmentsAfter (primary : Primary) (txid : UInt64) : List SegmentInfo :=
  primary.finalized.filter fun segment => txid < segment.lastTxid

def finalize (primary : Primary) (old : ActiveSegment) (last : UInt64) :
    Primary × Except Error SegmentInfo :=
  -- The segment counts as finalized even if this fails: its last record already marks its end.
  let path := primary.directory ++ [finalizedName old.firstTxid last]
  let keep (storage : Storage) (path : Path) : Primary × SegmentInfo :=
    let info : SegmentInfo := ⟨path, old.firstTxid, last⟩
    ({ primary with storage := storage, finalized := primary.finalized ++ [info] }, info)
  match closeFile primary.storage old.writer with
  | (storage, .error error) => ((keep storage old.path).1, .error error)
  | (storage, .ok ()) =>
    match storage.rename old.path path with
    | .error fault => ((keep storage old.path).1, .error (.ofStorage fault))
    | .ok storage =>
      let (primary, info) := keep storage path
      (primary, .ok info)

/-- Closes the active segment and goes on in a new one. The new one is opened first, so a failure to
open it changes nothing. -/
def roll (primary : Primary) : Primary × Except Error SegmentInfo :=
  let last := primary.active.writer.nextTxid
  match startSegment primary.storage primary.directory primary.config (last + 1) with
  | (storage, .error error) => ({ primary with storage := storage }, .error error)
  | (storage, .ok next) =>
    match { primary with storage := storage }.onActive (·.append .endSegment) with
    | (primary, .error error) =>
      ({ primary with storage := primary.storage.unbind next.path }, .error error)
    | (primary, .ok _) => { primary with active := next }.finalize primary.active last

def stage (primary : Primary) (bytes : List UInt8) (last : UInt64) :
    Primary × Except Error StagedImage :=
  match primary.storage.createTemporary primary.directory with
  | .error fault => (primary, .error (.ofStorage fault))
  | .ok (storage, path, id) =>
    ({ primary with storage := storage.setContents id bytes }, .ok ⟨path, last⟩)

def discard (primary : Primary) (staged : StagedImage) : Primary :=
  { primary with storage := primary.storage.unbind staged.path }

def removeFile (primary : Primary) (path : Path) : Primary × Except Error Unit :=
  match primary.storage.removeFile path with
  | .ok storage => ({ primary with storage := storage }, .ok ())
  | .error fault => (primary, .error (.ofStorage fault))

def removeSegments (primary : Primary) : List SegmentInfo → Primary × Except Error Unit
  | [] => (primary, .ok ())
  | segment :: rest =>
    match primary.removeFile segment.path with
    | (primary, .ok ()) => primary.removeSegments rest
    | (primary, .error error) => (primary, .error error)

def retire (primary : Primary) (last : UInt64) : Primary × Except Error Unit :=
  let (retired, kept) := primary.finalized.partition fun segment => segment.lastTxid ≤ last
  { primary with finalized := kept }.removeSegments retired

def commit (primary : Primary) (staged : StagedImage) : Primary × Except Error ImagePointer :=
  let path := primary.directory ++ [imageName staged.lastTxid]
  match primary.storage.rename staged.path path with
  | .error fault => (primary.discard staged, .error (.ofStorage fault))
  | .ok storage =>
    let previous := primary.image
    let image : ImagePointer := ⟨path, staged.lastTxid⟩
    let primary := { primary with storage := storage, image := image }
    let (primary, removed) :=
      if previous.path = path then (primary, .ok ()) else primary.removeFile previous.path
    match removed with
    | .error error => (primary, .error error)
    | .ok () =>
      match primary.retire staged.lastTxid with
      | (primary, .ok ()) => (primary, .ok image)
      | (primary, .error error) => (primary, .error error)

end Primary

end Journal
