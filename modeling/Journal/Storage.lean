import Journal.Bytes.Buffer

/-!
A file system in memory: directories, files, and open files with a write buffer. Names and contents
are kept apart, so a file that is open keeps its contents when its name goes to another file.
-/

set_option autoImplicit false

namespace Journal

abbrev Path := List String

inductive StorageFault
  | notFound (path : Path)
  | isDirectory (path : Path)
  | notDirectory (path : Path)
  | notEmpty (path : Path)
  | insideItself (path : Path)
  | badName (name : String)
deriving DecidableEq, Repr

def Path.text (path : Path) : String := String.intercalate "/" path

def Path.parent (path : Path) : Path := path.dropLast

def Path.name (path : Path) : String := path.getLastD ""

def StorageFault.message : StorageFault → String
  | .notFound path => s!"{path.text}: no such file or directory"
  | .isDirectory path => s!"{path.text}: is a directory"
  | .notDirectory path => s!"{path.text}: not a directory"
  | .notEmpty path => s!"{path.text}: directory not empty"
  | .insideItself path => s!"{path.text}: cannot be moved into itself"
  | .badName name => s!"{name}: not a name for a file"

inductive Entry
  | file (id : Nat)
  | directory
deriving DecidableEq

/-- The root directory is always there and has no entry of its own. -/
structure Storage where
  entries : List (Path × Entry)
  contents : List Buffer

namespace Storage

def empty : Storage := ⟨[], []⟩

def lookup? (storage : Storage) (path : Path) : Option Entry :=
  if path = [] then some .directory else storage.entries.lookup path

def bind (storage : Storage) (path : Path) (entry : Entry) : Storage :=
  { storage with entries := (path, entry) :: storage.entries.filter (·.1 ≠ path) }

def unbind (storage : Storage) (path : Path) : Storage :=
  { storage with entries := storage.entries.filter (·.1 ≠ path) }

def bufferOf (storage : Storage) (id : Nat) : Buffer := storage.contents[id]?.getD .empty

def setBuffer (storage : Storage) (id : Nat) (buffer : Buffer) : Storage :=
  { storage with contents := storage.contents.set id buffer }

def contentsOf (storage : Storage) (id : Nat) : List UInt8 := (storage.bufferOf id).bytes

def setContents (storage : Storage) (id : Nat) (bytes : List UInt8) : Storage :=
  storage.setBuffer id (.ofList bytes)

/-- Bytes put at `position` of the file `id`; a gap before them is filled with zeros. -/
def writeAt (storage : Storage) (id position : Nat) (bytes : ByteArray) : Storage :=
  storage.setBuffer id ((storage.bufferOf id).writeAt position bytes)

def checkParent (storage : Storage) (path : Path) : Except StorageFault Unit :=
  match storage.lookup? path.parent with
  | some .directory => .ok ()
  | some (.file _) => .error (.notDirectory path.parent)
  | none => .error (.notFound path.parent)

def fileAt (storage : Storage) (path : Path) : Except StorageFault Nat :=
  match storage.lookup? path with
  | some (.file id) => .ok id
  | some .directory => .error (.isDirectory path)
  | none => .error (.notFound path)

def read (storage : Storage) (path : Path) : Except StorageFault (List UInt8) :=
  (storage.fileAt path).map storage.contentsOf

def load (storage : Storage) (path : Path) : Except StorageFault ByteArray :=
  (storage.fileAt path).map fun id => (storage.bufferOf id).packed

theorem load_map_toList (storage : Storage) (path : Path) :
    (storage.load path).map Packed.toList = storage.read path := by
  simp only [load, read]
  cases storage.fileAt path <;> simp [Except.map, contentsOf]

def create (storage : Storage) (path : Path) : Except StorageFault (Storage × Nat) :=
  match storage.lookup? path with
  | some .directory => .error (.isDirectory path)
  | some (.file id) => .ok (storage.setBuffer id .empty, id)
  | none => do
    storage.checkParent path
    let id := storage.contents.length
    return ({ storage with contents := storage.contents ++ [Buffer.empty] }.bind path (.file id), id)

def write (storage : Storage) (path : Path) (bytes : List UInt8) : Except StorageFault Storage := do
  let (storage, id) ← storage.create path
  return storage.setContents id bytes

def removeFile (storage : Storage) (path : Path) : Except StorageFault Storage := do
  let _ ← storage.fileAt path
  return storage.unbind path

def renameFile (storage : Storage) (id : Nat) (source target : Path) :
    Except StorageFault Storage := do
  -- Gives the file at `source` the name `target`; a file of that name is replaced.
  if storage.lookup? target = some .directory then throw (.isDirectory target)
  storage.checkParent target
  return (storage.unbind source).bind target (.file id)

def isEmptyAt (storage : Storage) (path : Path) : Bool :=
  storage.entries.all fun entry => !path.isPrefixOf entry.1 || entry.1 == path

def movedPath (source target path : Path) : Path :=
  if source.isPrefixOf path then target ++ path.drop source.length else path

def renameDirectory (storage : Storage) (source target : Path) : Except StorageFault Storage := do
  -- Gives the directory at `source` the name `target`, with everything below it; an empty directory of
  -- that name is replaced.
  if source = target then return storage
  if source.isPrefixOf target then throw (.insideItself source)
  match storage.lookup? target with
  | some (.file _) => throw (.notDirectory target)
  | some .directory => if !storage.isEmptyAt target then throw (.notEmpty target)
  | none => storage.checkParent target
  let others := (storage.unbind target).entries
  return { storage with
    entries := others.map fun entry => (movedPath source target entry.1, entry.2) }

def rename (storage : Storage) (source target : Path) : Except StorageFault Storage :=
  match storage.lookup? source with
  | some (.file id) => storage.renameFile id source target
  | some .directory => storage.renameDirectory source target
  | none => .error (.notFound source)

def makeDirectoriesBelow (storage : Storage) (made : Path) :
    (rest : List String) → Except StorageFault Storage
  | [] => .ok storage
  | part :: rest =>
    let path := made ++ [part]
    match storage.lookup? path with
    | some .directory => storage.makeDirectoriesBelow path rest
    | some (.file _) => .error (.notDirectory path)
    | none => (storage.bind path .directory).makeDirectoriesBelow path rest

def makeDirectories (storage : Storage) (path : Path) : Except StorageFault Storage :=
  storage.makeDirectoriesBelow [] path

def clear (storage : Storage) (path : Path) : Storage :=
  { storage with
    entries := storage.entries.filter fun entry => !path.isPrefixOf entry.1 || entry.1 == path }

def removeDirectory (storage : Storage) (path : Path) : Except StorageFault Storage :=
  match storage.lookup? path with
  | some .directory => .ok ((storage.clear path).unbind path)
  | some (.file _) => .error (.notDirectory path)
  | none => .error (.notFound path)

def namesIn (storage : Storage) (directory : Path) : List String :=
  (storage.entries.filter fun entry => entry.1 ≠ [] ∧ entry.1.parent = directory).map (·.1.name)

def temporaryMark : String := ".tmp"

def temporaryPattern : String := temporaryMark ++ "000000"

def freshNumber (taken : List String) : (candidate fuel : Nat) → Nat
  | candidate, 0 => candidate
  | candidate, fuel + 1 =>
    if taken.contains (temporaryMark ++ toString candidate) then
      freshNumber taken (candidate + 1) fuel
    else candidate

def temporaryPath (storage : Storage) (directory : Path) : Path :=
  -- A name in `directory` that is not taken: among one more candidates than names, one is free.
  let taken := storage.namesIn directory
  directory ++ [temporaryMark ++ toString (freshNumber taken 0 taken.length)]

def createTemporary (storage : Storage) (directory : Path) :
    Except StorageFault (Storage × Path × Nat) := do
  let path := storage.temporaryPath directory
  let (storage, id) ← storage.create path
  return (storage, path, id)

end Storage

end Journal
