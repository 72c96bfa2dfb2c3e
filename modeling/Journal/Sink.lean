import Journal.Error
import Journal.Json.Printer

/-!
Where bytes are written to. A write happens as a whole or not at all; what is written becomes durable
with the next sync.
-/

set_option autoImplicit false

namespace Journal

class Sink (σ : Type) where
  write : ByteArray → σ → σ × Except IoFault Unit
  flush : σ → σ × Except IoFault Unit
  sync : σ → σ × Except IoFault Unit

@[specialize] def Sink.writeAll {σ : Type} [Sink σ] : List String → σ → σ × Except IoFault Unit
  | [], sink => (sink, .ok ())
  | piece :: rest, sink =>
    match Sink.write piece.toByteArray sink with
    | (sink, .ok ()) => Sink.writeAll rest sink
    | (sink, .error fault) => (sink, .error fault)

@[specialize] def Sink.writeTokens {σ : Type} [Sink σ] : List Token → σ → σ × Except IoFault Unit
  | [], sink => (sink, .ok ())
  | token :: rest, sink =>
    match Sink.writeAll token.pieces sink with
    | (sink, .ok ()) => Sink.writeTokens rest sink
    | (sink, .error fault) => (sink, .error fault)

theorem Sink.writeAll_append {σ : Type} [Sink σ] (first second : List String) (sink : σ) :
    Sink.writeAll (first ++ second) sink =
      match Sink.writeAll first sink with
      | (sink, .ok ()) => Sink.writeAll second sink
      | (sink, .error fault) => (sink, .error fault) := by
  induction first generalizing sink with
  | nil => rfl
  | cons piece rest ih =>
    simp only [List.cons_append, Sink.writeAll]
    split
    · exact ih _
    · rfl

theorem Sink.writeTokens_eq {σ : Type} [Sink σ] (tokens : List Token) (sink : σ) :
    Sink.writeTokens tokens sink = Sink.writeAll (tokens.flatMap Token.pieces) sink := by
  induction tokens generalizing sink with
  | nil => rfl
  | cons token rest ih =>
    simp only [Sink.writeTokens, List.flatMap_cons, Sink.writeAll_append, ih]

instance : Sink Buffer where
  write chunk buffer := (buffer.push chunk, .ok ())
  flush buffer := (buffer, .ok ())
  sync buffer := (buffer, .ok ())

/-- A buffer with room for so many bytes, which syncs so many times. -/
structure BoundedBuffer where
  buffer : Buffer
  room : Option Nat
  /-- After one refused write, refuse all others too. -/
  sticky : Bool
  refused : Bool
  syncs : Option Nat
  synced : Nat

namespace BoundedBuffer

def bytes (bounded : BoundedBuffer) : List UInt8 := bounded.buffer.bytes

def accepts (bounded : BoundedBuffer) (count : Nat) : Bool :=
  !(bounded.sticky && bounded.refused) &&
    match bounded.room with
    | some room => bounded.buffer.size + count ≤ room
    | none => true

def maySync (bounded : BoundedBuffer) : Bool :=
  match bounded.syncs with
  | some syncs => bounded.synced < syncs
  | none => true

end BoundedBuffer

instance : Sink BoundedBuffer where
  write chunk bounded :=
    if bounded.accepts chunk.size then
      ({ bounded with buffer := bounded.buffer.push chunk }, .ok ())
    else ({ bounded with refused := true }, .error .sinkFull)
  flush bounded := (bounded, .ok ())
  sync bounded :=
    if bounded.maySync then ({ bounded with synced := bounded.synced + 1 }, .ok ())
    else (bounded, .error .syncFailed)

structure FileHandle where
  id : Nat
  position : Nat
  pending : ByteArray

def FileHandle.opened (id : Nat) : FileHandle := ⟨id, 0, .empty⟩

structure OpenFile where
  storage : Storage
  handle : FileHandle

namespace OpenFile

def capacity : Nat := 8192

def writeThrough (file : OpenFile) (bytes : ByteArray) : OpenFile :=
  { storage := file.storage.writeAt file.handle.id file.handle.position bytes
    handle := { file.handle with position := file.handle.position + bytes.size } }

def writePending (file : OpenFile) : OpenFile :=
  if file.handle.pending.size = 0 then file
  else
    { file with handle := { file.handle with pending := .empty } }.writeThrough file.handle.pending

def hold : OpenFile → ByteArray → OpenFile
  | ⟨storage, ⟨id, position, pending⟩⟩, bytes => ⟨storage, ⟨id, position, pending ++ bytes⟩⟩

def put (file : OpenFile) (bytes : ByteArray) : OpenFile :=
  -- Bytes wait as long as there is room for them; as many as fill the room alone do not wait.
  let file := if capacity < file.handle.pending.size + bytes.size then file.writePending else file
  if capacity ≤ bytes.size then file.writeThrough bytes else file.hold bytes

end OpenFile

instance : Sink OpenFile where
  write bytes file := (file.put bytes, .ok ())
  flush file := (file.writePending, .ok ())
  sync file := (file.writePending, .ok ())

end Journal
