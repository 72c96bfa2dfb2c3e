import Journal.Config
import Journal.Record.Binary
import Journal.Sink

set_option autoImplicit false

namespace Journal

structure SegmentWriter (σ : Type) where
  sink : σ
  version : LayoutVersion
  sync : SyncPolicy
  preallocation : Option Nat
  offset : Nat
  /-- How much of it is durable; a reader must not look further. -/
  flushedOffset : Nat
  unsynced : Nat
  lastTxid : Option UInt64
  nextTxid : UInt64

namespace SegmentWriter

variable {σ : Type} [Sink σ]

def flush (writer : SegmentWriter σ) : SegmentWriter σ × Except Error Unit :=
  match Sink.sync writer.sink with
  | (sink, .ok ()) =>
    ({ writer with sink := sink, flushedOffset := writer.offset, unsynced := 0 }, .ok ())
  | (sink, .error fault) => ({ writer with sink := sink }, .error (.io fault))

def write (writer : SegmentWriter σ) (bytes : ByteArray) : SegmentWriter σ × Except Error Unit :=
  match Sink.write bytes writer.sink with
  | (sink, .ok ()) =>
    ({ writer with sink := sink, offset := writer.offset + bytes.size }, .ok ())
  | (sink, .error fault) => ({ writer with sink := sink }, .error (.io fault))

def checkConfig (config : Config) : Except Error Unit :=
  if !config.layoutVersion.isSupported then .error (.unsupportedFormat config.layoutVersion)
  else if config.preallocation = some 0 then .error (.config .zeroPreallocation)
  else .ok ()

def blank (config : Config) (sink : σ) : SegmentWriter σ :=
  ⟨sink, config.layoutVersion, config.sync, config.preallocation, 0, 0, 0, none, 1⟩

def start (config : Config) (sink : σ) : Except (Error × σ) (SegmentWriter σ) :=
  match checkConfig config with
  | .error error => .error (error, sink)
  | .ok () =>
    match (blank config sink).write config.layoutVersion.header.toByteArray with
    | (writer, .error error) => .error (error, writer.sink)
    | (writer, .ok ()) =>
      match writer.flush with
      | (writer, .error error) => .error (error, writer.sink)
      | (writer, .ok ()) => .ok writer

def startingAt (writer : SegmentWriter σ) (txid : UInt64) : SegmentWriter σ :=
  { writer with nextTxid := txid }

def checkOrder (writer : SegmentWriter σ) (txid : UInt64) : Except Error Unit :=
  match writer.lastTxid with
  | some last => if txid < last then .error (.write (.outOfOrder txid last)) else .ok ()
  | none => .ok ()

def advance (writer : SegmentWriter σ) (txid : UInt64) : SegmentWriter σ :=
  { writer with
    lastTxid := some txid
    nextTxid := max writer.nextTxid (txid + 1)
    unsynced := writer.unsynced + 1 }

def appendRecord (writer : SegmentWriter σ) (record : Record) :
    SegmentWriter σ × Except Error Unit :=
  match writer.checkOrder record.txid with
  | .error error => (writer, .error error)
  | .ok () =>
    match record.packed writer.version with
    | .error error => (writer, .error error)
    | .ok bytes =>
      match writer.write bytes with
      | (writer, .error error) => (writer, .error error)
      | (writer, .ok ()) =>
        let writer := writer.advance record.txid
        if writer.sync.isDue writer.unsynced then writer.flush else (writer, .ok ())

def append (writer : SegmentWriter σ) (operation : Operation) :
    SegmentWriter σ × Except Error UInt64 :=
  let txid := writer.nextTxid
  match writer.appendRecord ⟨txid, operation⟩ with
  | (writer, .ok ()) => (writer, .ok txid)
  | (writer, .error error) => (writer, .error error)

def trailer (writer : SegmentWriter σ) : List UInt8 :=
  -- The fill goes up to the next multiple of the preallocated chunk.
  let marked := writer.offset + 1
  let stop :=
    match writer.preallocation with
    | some chunk => (marked + chunk - 1) / chunk * chunk
    | none => marked
  List.replicate (stop - writer.offset) Opcode.fillByte

def close (writer : SegmentWriter σ) : σ × Except Error Unit :=
  match writer.write writer.trailer.toByteArray with
  | (writer, .error error) => (writer.sink, .error error)
  | (writer, .ok ()) =>
    match writer.flush with
    | (writer, result) => (writer.sink, result)

def withSink {τ : Type} (writer : SegmentWriter σ) (sink : τ) : SegmentWriter τ :=
  { writer with sink := sink }

end SegmentWriter

end Journal
