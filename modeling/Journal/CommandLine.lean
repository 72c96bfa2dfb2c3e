import Journal.Conversion
import Journal.Sample

set_option autoImplicit false

namespace Journal

namespace CommandLine

def programName : String := "editlog-viewer"

def programVersion : String := "0.1.0"

structure Flag where
  long : String
  short : Char
  takesValue : Bool
deriving DecidableEq

def inputFlag : Flag := ⟨"input", 'i', true⟩

def outputFlag : Flag := ⟨"output", 'o', true⟩

def processorFlag : Flag := ⟨"processor", 'p', true⟩

def recoverFlag : Flag := ⟨"recover", 'r', false⟩

def excludeFlag : Flag := ⟨"exclude", 'e', true⟩

def helpFlag : Flag := ⟨"help", 'h', false⟩

def versionFlag : Flag := ⟨"version", 'V', false⟩

inductive Item
  | given (flag : Flag) (value : String)
  | bad

def looksLikeOption (argument : String) : Bool :=
  -- Whether an argument starts like an option, and so is no value of the one before it.
  match argument.toList with
  | '-' :: _ :: _ => true
  | _ => false

structure Reading where
  items : List Item
  waiting : Option Flag

def bad : Reading := ⟨[.bad], none⟩

def readLong (flags : List Flag) (text : List Char) : Reading :=
  let name := String.ofList (text.takeWhile (· ≠ '='))
  match flags.find? (·.long == name), text.dropWhile (· ≠ '=') with
  | none, _ => bad
  | some flag, [] => if flag.takesValue then ⟨[], some flag⟩ else ⟨[.given flag ""], none⟩
  | some flag, _ :: value =>
    if flag.takesValue then ⟨[.given flag (String.ofList value)], none⟩ else bad

def readShort (flags : List Flag) : List Char → Reading
  -- Flags without values may share an argument; what follows one with a value is that value.
  | [] => ⟨[], none⟩
  | letter :: rest =>
    match flags.find? (·.short == letter) with
    | none => bad
    | some flag =>
      if flag.takesValue then
        match rest with
        | [] => ⟨[], some flag⟩
        | '=' :: value => ⟨[.given flag (String.ofList value)], none⟩
        | value => ⟨[.given flag (String.ofList value)], none⟩
      else
        let others := readShort flags rest
        { others with items := .given flag "" :: others.items }

def readArgument (flags : List Flag) (argument : String) : Reading :=
  match argument.toList with
  | '-' :: '-' :: text => readLong flags text
  | '-' :: letter :: rest => readShort flags (letter :: rest)
  | _ => bad

def items (flags : List Flag) : List String → List Item
  -- Two dashes end the options; nothing may follow them.
  | [] => []
  | ["--"] => []
  | [argument] =>
    let reading := readArgument flags argument
    reading.items ++ if reading.waiting.isSome then [.bad] else []
  | argument :: next :: rest =>
    if argument = "--" then [.bad]
    else
      let reading := readArgument flags argument
      match reading.waiting with
      | none => reading.items ++ items flags (next :: rest)
      | some flag =>
        if looksLikeOption next then reading.items ++ [.bad]
        else reading.items ++ .given flag next :: items flags rest

inductive Command
  | convert (input output : String) (processor : Processor) (recover : Bool)
  | generate (output : String)
  | stats (input : String) (exclude : List Opcode) (recover : Bool)

inductive Request
  | run (command : Command)
  | help
  | version
  | misused

structure Options where
  input : Option String
  output : Option String
  processor : Option Processor
  exclude : List Opcode
  recover : Bool

namespace Options

def none : Options := ⟨.none, .none, .none, [], false⟩

def setInput (options : Options) (value : String) : Option Options :=
  if options.input.isSome ∨ value = "" then .none else some { options with input := value }

def setOutput (options : Options) (value : String) : Option Options :=
  if options.output.isSome ∨ value = "" then .none else some { options with output := value }

def setProcessor (options : Options) (value : String) : Option Options :=
  match options.processor, Processor.ofName value with
  | .none, .ok processor => some { options with processor := some processor }
  | _, _ => .none

def addExcluded (options : Options) (value : String) : Option Options :=
  (Opcode.ofName? value).map fun opcode =>
    { options with exclude := options.exclude ++ [opcode] }

def set (options : Options) (flag : Flag) (value : String) : Option Options :=
  -- `none` for a value that cannot be used, and for an option given twice that may be given once.
  if flag = inputFlag then options.setInput value
  else if flag = outputFlag then options.setOutput value
  else if flag = processorFlag then options.setProcessor value
  else if flag = excludeFlag then options.addExcluded value
  else if options.recover then .none
  else some { options with recover := true }

end Options

def gather (finish : Options → Option Command) (options : Options) : List Item → Request
  -- Takes the items in order; the first that asks for help or cannot be used decides.
  | [] =>
    match finish options with
    | some command => .run command
    | none => .misused
  | .bad :: _ => .misused
  | .given flag value :: rest =>
    if flag = helpFlag then .help
    else
      match options.set flag value with
      | some options => gather finish options rest
      | none => .misused

def finishConvert (options : Options) : Option Command := do
  return .convert (← options.input) (← options.output) (options.processor.getD .text)
    options.recover

def finishGenerate (options : Options) : Option Command := do
  return .generate (← options.output)

def finishStats (options : Options) : Option Command := do
  return .stats (← options.input) options.exclude options.recover

def convertFlags : List Flag := [inputFlag, outputFlag, processorFlag, recoverFlag, helpFlag]

def generateFlags : List Flag := [outputFlag, helpFlag]

def statsFlags : List Flag := [inputFlag, excludeFlag, recoverFlag, helpFlag]

def readCommand (name : String) (arguments : List String) : Request :=
  if name = "convert" then gather finishConvert .none (items convertFlags arguments)
  else if name = "generate" then gather finishGenerate .none (items generateFlags arguments)
  else if name = "stats" then gather finishStats .none (items statsFlags arguments)
  else .misused

def readHelp : List String → Request
  | [] => .help
  | [topic] => if ["convert", "generate", "stats", "help"].contains topic then .help else .misused
  | _ => .misused

def parse : List String → Request
  -- Before a command there can be nothing but a call for help or for the version.
  | [] => .misused
  | "help" :: topics => readHelp topics
  | first :: rest =>
    if looksLikeOption first then
      match items [helpFlag, versionFlag] [first] with
      | .given flag _ :: _ => if flag = helpFlag then .help else .version
      | _ => .misused
    else readCommand first rest

def mode (recover : Bool) : ScanMode := if recover then .recovery else .strict

def line (text : String) : String := text ++ "\n"

def showScan (scan : Scan) : String :=
  line s!"recovery_invoked: {scan.recoveryInvoked}" ++
    line s!"trusted_range: 0..{scan.trustedEnd}" ++
    match scan.firstError with
    | some error => line s!"first_error: {error.message}"
    | none => ""

def showConversion (report : ConversionReport) : String :=
  line s!"records: {report.records}" ++ (report.scan.map showScan).getD ""

def showStatistics (tally : Tally) (exclude : List Opcode) (scan : Option Scan) : String :=
  -- The excluded opcodes come on top of the obsolete ones.
  let excluded := Opcode.obsolete ++ exclude
  tally.table ++ line s!"total: {tally.total}" ++
    line s!"complete: {tally.isComplete excluded}" ++
    String.join ((tally.missing excluded).map fun opcode => line s!"missing: {opcode.name}") ++
    match scan with
    | some scan =>
      if scan.recoveryInvoked then
        line s!"recovery_invoked: {scan.recoveryInvoked}" ++
          line s!"trusted_range: 0..{scan.trustedEnd}"
      else ""
    | none => ""

def Command.run (directory : Path) (storage : Storage) :
    Command → Storage × Except Error String
  | .convert input output processor recover =>
    let (storage, result) := storage.convert (.ofText directory input) (.ofText directory output)
      processor (mode recover) .standard
    (storage, result.map showConversion)
  | .generate output =>
    let (storage, result) := storage.writeSample (.ofText directory output) .standard
    (storage, result.map fun last => line s!"wrote {output} (last txid {last})")
  | .stats input exclude recover =>
    let result := storage.collectStatistics (.ofText directory input) (mode recover) .standard
    (storage, result.map fun (tally, scan) => showStatistics tally exclude scan)

def versionLine : String := line s!"{programName} {programVersion}"

def usage : String :=
  line s!"Usage: {programName} <COMMAND>" ++ "\n" ++
    line "Commands:" ++
    line "  convert   -i INPUT -o OUTPUT [-p binary|text|stats] [-r]" ++
    line "  generate  -o OUTPUT" ++
    line "  stats     -i INPUT [-e OPCODE]... [-r]"

end CommandLine

end Journal
