import Journal.Segment.Writer
import Journal.Visitor

set_option autoImplicit false

namespace Journal

inductive EmitterStage (σ : Type)
  | pending (sink : σ)
  | writing (writer : SegmentWriter σ)
  | closed (sink : σ)
  -- Opened twice, or failed to open or to close.
  | spoiled (sink : σ)

def EmitterStage.sink {σ : Type} : EmitterStage σ → σ
  | .pending sink | .closed sink | .spoiled sink => sink
  | .writing writer => writer.sink

structure SegmentEmitter (σ : Type) where
  config : Config
  stage : EmitterStage σ
  recordsWritten : Nat

namespace SegmentEmitter

variable {σ : Type} [Sink σ]

def onto (config : Config) (sink : σ) : SegmentEmitter σ := ⟨config, .pending sink, 0⟩

def finished? (emitter : SegmentEmitter σ) : Option σ :=
  match emitter.stage with
  | .closed sink => some sink
  | _ => none

def enter (emitter : SegmentEmitter σ) (stage : EmitterStage σ) : SegmentEmitter σ :=
  { emitter with stage := stage }

def onOpen (version : LayoutVersion) (emitter : SegmentEmitter σ) :
    SegmentEmitter σ × Except Error Unit :=
  match emitter.stage with
  | .pending sink =>
    match SegmentWriter.start { emitter.config with layoutVersion := version } sink with
    | .ok writer => (emitter.enter (.writing writer), .ok ())
    | .error (error, sink) => (emitter.enter (.spoiled sink), .error error)
  | stage => (emitter.enter (.spoiled stage.sink), .error (.write .openedTwice))

def consume (record : Record) (emitter : SegmentEmitter σ) : SegmentEmitter σ × Except Error Unit :=
  match emitter.stage with
  | .writing writer =>
    match writer.appendRecord record with
    | (writer, .ok ()) =>
      ({ emitter with stage := .writing writer, recordsWritten := emitter.recordsWritten + 1 },
        .ok ())
    | (writer, .error error) => (emitter.enter (.writing writer), .error error)
  | _ => (emitter, .error (.write .notOpen))

def onClose (emitter : SegmentEmitter σ) : SegmentEmitter σ × Except Error Unit :=
  -- Also a partial segment gets its end marker, so that all its records can be read.
  match emitter.stage with
  | .writing writer =>
    match writer.close with
    | (sink, .ok ()) => (emitter.enter (.closed sink), .ok ())
    | (sink, .error error) => (emitter.enter (.spoiled sink), .error error)
  | _ => (emitter, .ok ())

instance : Visitor (SegmentEmitter σ) where
  onOpen := onOpen
  consume := consume
  onClose _ := onClose

end SegmentEmitter

end Journal
