import Journal.Visitor

set_option autoImplicit false

namespace Journal

structure SegmentReader where
  bytes : List UInt8
  config : Config

namespace SegmentReader

def openFile (storage : Storage) (path : Path) (config : Config) : Except Error SegmentReader := do
  return ⟨← (storage.read path).mapError .ofStorage, config⟩

def openInProgress (storage : Storage) (path : Path) (flushed : Nat) (config : Config) :
    Except Error SegmentReader := do
  -- Opens a segment that is still being written. Only what the writer has flushed counts, and no end
  -- marker can be asked for.
  let bytes ← (storage.read path).mapError .ofStorage
  return ⟨bytes.take flushed, { config with requireEndMarker := false }⟩

def size (reader : SegmentReader) : Nat := reader.bytes.length

def scan (reader : SegmentReader) (mode : ScanMode) : Except Error Scan :=
  Segment.scan mode reader.config reader.bytes

def scanInto {υ : Type} [Visitor υ] (reader : SegmentReader) (mode : ScanMode) (visitor : υ) :
    υ × Except Error Scan :=
  Segment.scanInto mode reader.config reader.bytes visitor

def readAll (reader : SegmentReader) (mode : ScanMode) : Except Error (List Record × Scan) :=
  Segment.readAll mode reader.config reader.bytes

end SegmentReader

end Journal
