import Journal.Storage

/-!
Names as they are written for files: parts between slashes, where `..` goes up. What such a name stands
for depends on the directories that are there, so it is followed part by part. A name that holds a zero
character, or is too long as it is written, stands for nothing.
-/

set_option autoImplicit false

namespace Journal

/-- How a name ends. After a slash or a dot it can only be that of a directory. -/
inductive NameEnding
  | part | slash | dot
deriving DecidableEq, Repr

structure FileName where
  start : Path
  pieces : List String
deriving DecidableEq, Repr

namespace FileName

def ofText (base : Path) (text : String) : FileName :=
  ⟨if text.startsWith "/" then [] else base, text.splitOn "/"⟩

def below (base : Path) (text : String) : FileName :=
  if text.startsWith "/" then ofText [] text else ⟨[], "" :: base ++ text.splitOn "/"⟩

def ofPath (path : Path) : FileName := ⟨[], "" :: path⟩

def isPart (piece : String) : Bool := piece ≠ "" && piece ≠ "."

def parts (name : FileName) : List String := name.start ++ name.pieces.filter isPart

def ending (name : FileName) : NameEnding :=
  if (name.pieces.filter (· ≠ "")).getLast? = some "." then .dot
  else if name.pieces.getLast? = some "" then .slash
  else .part

def trim (pieces : List String) : List String :=
  (pieces.reverse.dropWhile fun piece => !isPart piece).reverse

def parent (name : FileName) : FileName :=
  { name with pieces := trim (trim name.pieces).dropLast }

theorem length_trim_le (pieces : List String) : (trim pieces).length ≤ pieces.length := by
  have := (List.dropWhile_sublist (fun piece => !isPart piece) (l := pieces.reverse)).length_le
  simpa [trim] using this

theorem length_pieces_parent_lt (name : FileName) (h : name.pieces ≠ []) :
    name.parent.pieces.length < name.pieces.length := by
  have := List.length_pos_iff.mpr h
  have whole := length_trim_le name.pieces
  have front := length_trim_le (trim name.pieces).dropLast
  simp only [List.length_dropLast] at front
  simp only [parent]
  omega

def up : String := ".."

def last? (name : FileName) : Option String :=
  (name.pieces.filter isPart).getLast?.filter (· ≠ up)

def maxPartSize : Nat := 255

def maxSize : Nat := 4095

def size (name : FileName) : Nat :=
  name.pieces.foldr (·.utf8ByteSize + ·) (name.pieces.length - 1)

def isSound (name : FileName) : Bool :=
  name.size ≤ maxSize && name.pieces.all fun piece => !piece.toList.contains (Char.ofNat 0)

def entry (name : FileName) (part : String) : FileName :=
  -- What is called `part` in the directory `name`, written out from the root.
  let above := if name.start = [] then [] else "" :: name.start
  ⟨[], above ++ name.pieces ++ [part]⟩

def text (name : FileName) : String := String.intercalate "/" name.pieces

end FileName

namespace Storage

def checkName (name : FileName) : Except StorageFault Unit :=
  if name.isSound then .ok () else .error (.badName name.text)

def checkPart (part : String) : Except StorageFault Unit :=
  if part.utf8ByteSize ≤ FileName.maxPartSize then .ok () else .error (.badName part)

def enter (storage : Storage) (place : Path) (part : String) : Except StorageFault Path :=
  if part = FileName.up then .ok place.parent
  else do
    checkPart part
    let next := place ++ [part]
    match storage.lookup? next with
    | some .directory => return next
    | some (.file _) => throw (.notDirectory next)
    | none => throw (.notFound next)

def follow (storage : Storage) (name : FileName) : Except StorageFault Path := do
  checkName name
  name.parts.foldlM storage.enter []

def placeOf (storage : Storage) (name : FileName) (part : String) : Except StorageFault Path := do
  -- Where something called `part` is, or would be, in the directory that `name` is in.
  checkName name
  let directory ← storage.follow name.parent
  checkPart part
  return directory ++ [part]

def locate (storage : Storage) (name : FileName) : Except StorageFault Path :=
  match name.last?, name.ending with
  | some part, .part => storage.placeOf name part
  | _, _ => do throw (.isDirectory (← storage.follow name))

def readNamed (storage : Storage) (name : FileName) : Except StorageFault (List UInt8) := do
  storage.read (← storage.locate name)

def loadNamed (storage : Storage) (name : FileName) : Except StorageFault ByteArray := do
  storage.load (← storage.locate name)

def createNamed (storage : Storage) (name : FileName) : Except StorageFault (Storage × Nat) := do
  storage.create (← storage.locate name)

def writeNamed (storage : Storage) (name : FileName) (bytes : List UInt8) :
    Except StorageFault Storage := do
  storage.write (← storage.locate name) bytes

def ensureDirectory (storage : Storage) (name : FileName) : Except StorageFault Storage :=
  -- The directory called `name` is there afterwards. The one it is in has to be there before.
  match name.last?, name.ending with
  | none, _ | some _, .dot => (storage.follow name).map fun _ => storage
  | some part, _ => do
    let place ← storage.placeOf name part
    match storage.lookup? place with
    | some .directory => return storage
    | some (.file _) => throw (.notDirectory place)
    | none => return storage.bind place .directory

def makeDirectoriesTo (storage : Storage) (name : FileName) : Storage × Except StorageFault Unit :=
  -- Makes the directory called `name` after those on the way to it, some of which can be there
  -- afterwards even if it cannot be made.
  match storage.ensureDirectory name with
  | .ok storage => (storage, .ok ())
  | .error (.notFound place) =>
    if h : name.pieces = [] then (storage, .error (.notFound place))
    else
      have := name.length_pieces_parent_lt h
      match storage.makeDirectoriesTo name.parent with
      | (storage, .error fault) => (storage, .error fault)
      | (storage, .ok ()) =>
        match storage.ensureDirectory name with
        | .ok storage => (storage, .ok ())
        | .error fault => (storage, .error fault)
  | .error fault => (storage, .error fault)
termination_by name.pieces.length

/-- Empties the directory called `name`, then removes it. If the way to it led through something that was
in it, it is out of reach by then and stays; if its name ends in a dot it cannot be removed. -/
def removeDirectoryAt (storage : Storage) (name : FileName) :
    Storage × Except StorageFault Unit :=
  match storage.follow name with
  | .error fault => (storage, .error fault)
  | .ok place =>
    let cleared := storage.clear place
    match cleared.follow name, name.ending with
    | .error _, _ => (cleared, .ok ())
    | .ok _, .dot => (cleared, .error (.isDirectory place))
    | .ok _, _ => (cleared.unbind place, .ok ())

end Storage

end Journal
