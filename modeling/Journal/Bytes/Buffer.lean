import Journal.Bytes.Packed

set_option autoImplicit false

namespace Journal

def Packed.totalSize (chunks : List ByteArray) : Nat := chunks.foldr (·.size + ·) 0

/-- The chunks, the last one first. -/
structure Buffer where
  chunks : List ByteArray
  size : Nat
  size_eq : size = Packed.totalSize chunks

namespace Buffer

def empty : Buffer := ⟨[], 0, rfl⟩

def prepend : (chunks : List ByteArray) → (rest : List UInt8) → List UInt8
  | [], rest => rest
  | chunk :: older, rest => prepend older (Packed.before chunk rest)

def bytes (buffer : Buffer) : List UInt8 := prepend buffer.chunks []

def packed (buffer : Buffer) : ByteArray :=
  buffer.chunks.foldr (fun chunk before => before ++ chunk) .empty

def push : Buffer → ByteArray → Buffer
  | ⟨chunks, size, size_eq⟩, chunk =>
    ⟨chunk :: chunks, size + chunk.size, by simp [size_eq, Packed.totalSize, Nat.add_comm]⟩

def ofList (bytes : List UInt8) : Buffer := empty.push bytes.toByteArray

theorem prepend_append (chunks : List ByteArray) (first second : List UInt8) :
    prepend chunks (first ++ second) = prepend chunks first ++ second := by
  induction chunks generalizing first with
  | nil => rfl
  | cons chunk older ih => simp only [prepend, Packed.before_eq, ← ih, List.append_assoc]

theorem prepend_cons (chunk : ByteArray) (older : List ByteArray) :
    prepend (chunk :: older) [] = prepend older [] ++ Packed.toList chunk := by
  rw [prepend, ← Packed.toList, ← prepend_append, List.nil_append]

@[simp] theorem bytes_empty : empty.bytes = [] := rfl

@[simp] theorem bytes_push (buffer : Buffer) (chunk : ByteArray) :
    (buffer.push chunk).bytes = buffer.bytes ++ Packed.toList chunk :=
  prepend_cons chunk buffer.chunks

@[simp] theorem bytes_ofList (bytes : List UInt8) : (ofList bytes).bytes = bytes := by
  simp [ofList]

@[simp] theorem toList_packed (buffer : Buffer) : Packed.toList buffer.packed = buffer.bytes := by
  simp only [packed, bytes]
  induction buffer.chunks with
  | nil => rfl
  | cons chunk older ih => rw [List.foldr_cons, Packed.toList_append, ih, prepend_cons]

@[simp] theorem length_bytes (buffer : Buffer) : buffer.bytes.length = buffer.size := by
  obtain ⟨chunks, -, rfl⟩ := buffer
  simp only [bytes]
  induction chunks with
  | nil => rfl
  | cons chunk older ih =>
    rw [prepend_cons, List.length_append, ih, Packed.length_toList]
    simp [Packed.totalSize, Nat.add_comm]

def writeAt (buffer : Buffer) (position : Nat) (chunk : ByteArray) : Buffer :=
  if position = buffer.size then buffer.push chunk
  else
    let old := buffer.bytes
    let gap := List.replicate (position - buffer.size) 0
    ofList (old.take position ++ gap ++ Packed.toList chunk ++ old.drop (position + chunk.size))

theorem bytes_writeAt (buffer : Buffer) (position : Nat) (chunk : ByteArray) :
    (buffer.writeAt position chunk).bytes =
      buffer.bytes.take position ++ List.replicate (position - buffer.bytes.length) 0 ++
        Packed.toList chunk ++ buffer.bytes.drop (position + chunk.size) := by
  rw [writeAt]
  split
  · next atEnd => simp [atEnd, ← length_bytes]
  · simp

end Buffer

end Journal
