import Journal.CommandLine

set_option autoImplicit false

namespace Journal.Viewer

open CommandLine

def load (storage : Storage) (parts : List String) : IO Storage := do
  let text := "/" ++ Path.text parts
  try
    let place ← IO.FS.realPath text
    if ← place.isDir then
      return (storage.makeDirectoriesTo (.ofPath parts)).1
    else
      let content ← IO.FS.readBinFile text
      return (storage.writeNamed (.ofPath parts) content.data.toList).toOption.getD storage
  catch _ => return storage

def loadNamed (here : Path) (storage : Storage) (name : String) : IO Storage :=
  let parts := (FileName.ofText here name).parts
  ((List.range (parts.length + 1)).map parts.take).foldlM load storage

def save (here : Path) (storage : Storage) (name : String) : IO Unit := do
  if let .ok bytes := storage.readNamed (FileName.ofText here name) then
    let staged := name ++ Storage.temporaryMark
    IO.FS.writeBinFile staged ⟨bytes.toArray⟩
    IO.FS.rename staged name

def inputOf : Command → List String
  | .convert input _ _ _ | .stats input _ _ => [input]
  | .generate _ => []

def outputOf : Command → List String
  | .convert _ output _ _ | .generate output => [output]
  | .stats _ _ _ => []

def run (command : Command) : IO UInt32 := do
  let outputs := outputOf command
  let here := (FileName.ofText [] (← IO.currentDir).toString).parts
  let storage ← (inputOf command ++ outputs).foldlM (loadNamed here) Storage.empty
  match command.run here storage with
  | (storage, .ok text) =>
    try
      outputs.forM (save here storage)
    catch fault =>
      IO.eprintln s!"error: {(Error.io (.reported fault.toString)).message}"
      return 1
    IO.print text
    return 0
  | (_, .error error) =>
    IO.eprintln s!"error: {error.message}"
    return 1

def answer (arguments : List String) : IO UInt32 := do
  match parse arguments with
  | .run command => run command
  | .version =>
    IO.print versionLine
    return 0
  | .help =>
    IO.print usage
    return 0
  | .misused =>
    IO.eprint usage
    return 2

end Journal.Viewer

def main (arguments : List String) : IO UInt32 := Journal.Viewer.answer arguments
