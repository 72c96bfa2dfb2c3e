import Journal.Document.Emitter
import Journal.Document.Reader
import Journal.Segment.Emitter
import Journal.Statistics
import Journal.Storage.Name

set_option autoImplicit false

namespace Journal

inductive Processor
  | binary | text | stats
deriving DecidableEq, Repr

def Processor.ofName (name : String) : Except Error Processor :=
  let name := String.ofList (name.toList.map Char.toLower)
  if name = "binary" then .ok .binary
  else if name = "text" ∨ name = "json" then .ok .text
  else if name = "stats" then .ok .stats
  else .error (.config (.unknownProcessor name))

inductive InputKind
  | binary | text
deriving DecidableEq, Repr

namespace InputKind

def isBlank (byte : UInt8) : Bool :=
  byte == 0x20 || byte == 0x09 || byte == 0x0A || byte == 0x0C || byte == 0x0D

def openBrace : UInt8 := 0x7B

def sniff (bytes : ByteArray) : InputKind :=
  -- A document opens with a brace, and a segment with a negative number, which never does.
  if Packed.findFrom? (!isBlank ·) bytes 0 = some openBrace then .text else .binary

theorem sniff_eq (bytes : ByteArray) :
    sniff bytes =
      if (Packed.toList bytes).find? (!isBlank ·) = some openBrace then .text else .binary := by
  rw [sniff, Packed.findFrom?_eq, List.drop_zero]

end InputKind

structure ConversionReport where
  inputKind : InputKind
  records : Nat
  scan : Option Scan
  statistics : Option StatisticsReport

def visitLog {υ : Type} [Visitor υ] (mode : ScanMode) (config : Config) (bytes : ByteArray)
    (visitor : υ) : υ × Except Error (Nat × Option Scan) :=
  match InputKind.sniff bytes with
  | .text =>
    match Document.read bytes with
    | .error error => (visitor, .error error)
    | .ok document =>
      match document.feed visitor with
      | (visitor, result) => (visitor, result.map (·, none))
  | .binary =>
    match Segment.scanInto mode config (Packed.toList bytes) visitor with
    | (visitor, .error error) => (visitor, .error error)
    | (visitor, .ok scan) =>
      (visitor, scan.check.map fun scan => (scan.recordsConsumed, some scan))

def convertInto (processor : Processor) (mode : ScanMode) (config : Config) (bytes : ByteArray)
    (file : OpenFile) : OpenFile × Except Error ConversionReport :=
  let kind := InputKind.sniff bytes
  let report (statistics : Option StatisticsReport) (seen : Nat × Option Scan) :=
    ConversionReport.mk kind seen.1 seen.2 statistics
  match processor with
  | .binary =>
    match visitLog mode config bytes (SegmentEmitter.onto config file) with
    | (emitter, result) => (emitter.stage.sink, result.map (report none))
  | .text =>
    match visitLog mode config bytes (DocumentEmitter.onto file) with
    | (emitter, result) => (emitter.sink, result.map (report none))
  | .stats =>
    match visitLog mode config bytes Tally.empty with
    | (_, .error error) => (file, .error error)
    | (tally, .ok seen) =>
      let statistics := StatisticsReport.ofTally tally Opcode.obsolete
      let text := statistics.toJson.pretty ++ "\n"
      ((file.put text.toByteArray).writePending, .ok (report (some statistics) seen))

namespace Storage

def createBeside (storage : Storage) (name : FileName) :
    Except StorageFault (Storage × Path × Nat) := do
  checkName (name.parent.entry temporaryPattern)
  storage.createTemporary (← storage.follow name.parent)

def install (storage : Storage) (path : Path) (name : FileName) : Except StorageFault Storage := do
  storage.rename path (← storage.locate name)

def convert (storage : Storage) (input output : FileName) (processor : Processor) (mode : ScanMode)
    (config : Config) : Storage × Except Error ConversionReport :=
  match storage.loadNamed input with
  | .error fault => (storage, .error (.ofStorage fault))
  | .ok bytes =>
    match storage.createBeside output with
    | .error fault => (storage, .error (.ofStorage fault))
    | .ok (staged, temporary, id) =>
      match convertInto processor mode config bytes ⟨staged, .opened id⟩ with
      | (file, .error error) => (file.storage.unbind temporary, .error error)
      | (file, .ok report) =>
        match file.storage.install temporary output with
        | .error fault => (file.storage.unbind temporary, .error (.ofStorage fault))
        | .ok storage => (storage, .ok report)

def collectStatistics (storage : Storage) (input : FileName) (mode : ScanMode) (config : Config) :
    Except Error (Tally × Option Scan) :=
  match storage.loadNamed input with
  | .error fault => .error (.ofStorage fault)
  | .ok bytes =>
    match visitLog mode config bytes Tally.empty with
    | (tally, .ok (_, scan)) => .ok (tally, scan)
    | (_, .error error) => .error error

end Storage

end Journal
