import Journal.Record.Textual
import Journal.Sink
import Journal.Visitor

set_option autoImplicit false

namespace Journal

structure DocumentEmitter (σ : Type) where
  sink : σ
  written : Nat
  isOpen : Bool

namespace DocumentEmitter

variable {σ : Type} [Sink σ]

def onto (sink : σ) : DocumentEmitter σ := ⟨sink, 0, false⟩

def opening (version : LayoutVersion) : List String :=
  -- The opening lines. The sign of the version is a piece of its own.
  let number := version.number.toInt
  ["\x7b\n  \"version\": "] ++ (if number < 0 then ["-"] else []) ++
    [toString number.natAbs, ",\n  \"records\": ["]

def separator (written : Nat) : String := if written = 0 then "\n    " else ",\n    "

def closing (written : Nat) : List String :=
  (if written = 0 then [] else ["\n  "]) ++ ["]\n\x7d\n"]

def onOpen (version : LayoutVersion) (emitter : DocumentEmitter σ) :
    DocumentEmitter σ × Except Error Unit :=
  match Sink.writeAll (opening version) emitter.sink with
  | (sink, .ok ()) => ({ emitter with sink := sink, isOpen := true }, .ok ())
  | (sink, .error fault) => ({ emitter with sink := sink }, .error (.io fault))

def consume (record : Record) (emitter : DocumentEmitter σ) :
    DocumentEmitter σ × Except Error Unit :=
  match Sink.write (separator emitter.written).toByteArray emitter.sink with
  | (sink, .error fault) => ({ emitter with sink := sink }, .error (.io fault))
  | (sink, .ok ()) =>
    match Sink.writeTokens record.toJson.tokens sink with
    | (sink, .error fault) => ({ emitter with sink := sink }, .error (.text (.unwritable fault)))
    | (sink, .ok ()) => ({ emitter with sink := sink, written := emitter.written + 1 }, .ok ())

def onClose (emitter : DocumentEmitter σ) : DocumentEmitter σ × Except Error Unit :=
  if emitter.isOpen then
    match Sink.writeAll (closing emitter.written) emitter.sink with
    | (sink, .error fault) => ({ emitter with sink := sink }, .error (.io fault))
    | (sink, .ok ()) =>
      match Sink.flush sink with
      | (sink, .error fault) => ({ emitter with sink := sink }, .error (.io fault))
      | (sink, .ok ()) => ({ emitter with sink := sink, isOpen := false }, .ok ())
  else (emitter, .ok ())

instance : Visitor (DocumentEmitter σ) where
  onOpen := onOpen
  consume := consume
  onClose _ := onClose

end DocumentEmitter

end Journal
