import Journal.Checkpoint.Merge
import Journal.Checkpoint.Primary
import Journal.Checkpoint.Transfer
import Journal.Text.Quoted

set_option autoImplicit false

namespace Journal

inductive Hook
  | afterLogRoll | beforeHeader | beforeFileSend (file : Path) | duringMerge | afterImageUpload
deriving DecidableEq, Repr

def Hook.name : Hook → String
  | .afterLogRoll => "after_log_roll"
  | .beforeHeader => "before_header"
  | .beforeFileSend _ => "before_file_send"
  | .duringMerge => "during_merge"
  | .afterImageUpload => "after_image_upload"

/-- Interferes with rounds. A hook may also act on the primary, and has a state of its own. -/
structure Injector (ε : Type) where
  onHook : Hook → Primary → ε → (Primary × ε) × Except Error Unit
  truncates : Path → Bool
  corrupts : Path → Bool

def Injector.none : Injector Unit := ⟨fun _ primary _ => ((primary, ()), .ok ()), fun _ => false,
  fun _ => false⟩

inductive InjectedFault
  | damage (damage : Damage)
  | hookFailed (hook : String)
deriving DecidableEq, Repr

inductive RoundStage
  | idle | headerSent | mergeInProgress | imageUploaded
deriving DecidableEq, Repr

inductive RoundOutcome
  | success
  | shortFile
  | corruptedByte
  | rejected (reason : String)
deriving DecidableEq, Repr

def RoundOutcome.text : RoundOutcome → String
  | .success => "Success"
  | .shortFile => "ShortFile"
  | .corruptedByte => "CorruptedByte"
  | .rejected reason => s!"Rejected({Quoted.encode reason})"

structure RoundReport where
  source : SegmentInfo
  injected : Option InjectedFault
  outcome : RoundOutcome
  stages : List RoundStage
  image : ImagePointer

namespace RoundReport

def isSuccess (report : RoundReport) : Bool := report.outcome = .success

def toExcept (report : RoundReport) : Except Error ImagePointer :=
  if report.isSuccess then .ok report.image
  else .error (.incompleteCheckpoint report.outcome.text)

end RoundReport

inductive Abort
  | transfer (fault : TransferFault)
  | rejected (reason : String)
  | error (error : Error)

structure RoundState (ε : Type) where
  primary : Primary
  extra : ε
  injected : Option InjectedFault
  stage : RoundStage
  stages : List RoundStage

def RoundState.enter {ε : Type} (stage : RoundStage) (state : RoundState ε) : RoundState ε :=
  { state with stage := stage, stages := state.stages ++ [stage] }

abbrev RoundM (ε : Type) := ExceptT Abort (StateM (RoundState ε))

structure Secondary (ε : Type) where
  workDirectory : Path
  merger : Merger
  injector : Injector ε

namespace Secondary

variable {ε : Type}

def raise {α : Type} (error : Error) : RoundM ε α := throw (.error error)

def onPrimary {α : Type} (action : Primary → Primary × Except Error α) : RoundM ε α := do
  let state ← get
  let (primary, result) := action state.primary
  set { state with primary := primary }
  match result with
  | .ok value => return value
  | .error error => raise error

def onStorage (action : Storage → Except StorageFault Storage) : RoundM ε Unit :=
  onPrimary fun primary =>
    match action primary.storage with
    | .ok storage => ({ primary with storage := storage }, .ok ())
    | .error fault => (primary, .error (.ofStorage fault))

def enter (stage : RoundStage) : RoundM ε Unit := modify (·.enter stage)

def pass (secondary : Secondary ε) (hook : Hook) : RoundM ε Unit := do
  let state ← get
  let ((primary, extra), result) := secondary.injector.onHook hook state.primary state.extra
  set { state with primary := primary, extra := extra }
  match result with
  | .ok () => return
  | .error error =>
    modify fun state => { state with injected := some (.hookFailed hook.name) }
    throw (.rejected s!"{hook.name}: {error.message}")

def send (secondary : Secondary ε) (path : Path) : RoundM ε (List UInt8) := do
  secondary.pass (.beforeFileSend path)
  match (← get).primary.storage.read path with
  | .error fault => raise (.ofStorage fault)
  | .ok bytes =>
    let (package, damage) := Package.send path.name bytes (secondary.injector.truncates path)
      (secondary.injector.corrupts path)
    if let some damage := damage then
      modify fun state => { state with injected := some (.damage damage) }
    match package.receive with
    | .ok (_, body) => return body
    | .error fault => throw (.transfer fault)

def ensuring {α : Type} (after : RoundState ε → RoundState ε) (body : RoundM ε α) : RoundM ε α :=
  ExceptT.mk fun state =>
    let (result, state) := body.run.run state
    (result, after state)

def removeDirectory (path : Path) (state : RoundState ε) : RoundState ε :=
  let storage := state.primary.storage
  { state with
    primary := { state.primary with storage := (storage.removeDirectory path).toOption.getD storage } }

def discard (staged : StagedImage) (state : RoundState ε) : RoundState ε :=
  { state with primary := state.primary.discard staged }

def withScratch {α : Type} (secondary : Secondary ε) (body : Path → RoundM ε α) : RoundM ε α := do
  -- The directory is there for as long as `body` runs.
  onStorage (·.makeDirectories secondary.workDirectory)
  let scratch := (← get).primary.storage.temporaryPath secondary.workDirectory
  onStorage (·.makeDirectories scratch)
  ensuring (removeDirectory scratch) (body scratch)

def install (secondary : Secondary ε) (bytes : List UInt8) (last : UInt64) : RoundM ε Unit := do
  -- The image is discarded if a hook objects.
  let staged ← onPrimary (·.stage bytes last)
  ensuring (discard staged) do
    enter .imageUploaded
    secondary.pass .afterImageUpload
    let _ ← onPrimary (·.commit staged)

def checkpoint (secondary : Secondary ε) : RoundM ε Unit := do
  secondary.pass .afterLogRoll
  secondary.withScratch fun scratch => do
    secondary.pass .beforeHeader
    let primary := (← get).primary
    let segments := primary.segmentsAfter primary.image.lastTxid
    enter .headerSent
    let image ← secondary.send primary.image.path
    let bodies ← segments.mapM fun segment => secondary.send segment.path
    enter .mergeInProgress
    secondary.pass .duringMerge
    let last := (segments.getLast?.map (·.lastTxid)).getD primary.image.lastTxid
    match secondary.merger image bodies primary.config with
    | .error (.io fault) => raise (.io fault)
    | .error error => throw (.rejected s!"merge failed: {error.message}")
    | .ok merged =>
      let path := scratch ++ [Primary.imageName last]
      onStorage (·.write path merged)
      let uploaded ← secondary.send path
      secondary.install uploaded last

/-- Only failures of storage are errors; every other abort is an outcome. -/
def outcome : Except Abort Unit → Except Error RoundOutcome
  | .ok () => .ok .success
  | .error (.transfer (.shortFile _ _ _)) => .ok .shortFile
  | .error (.transfer (.corruptedByte _)) => .ok .corruptedByte
  | .error (.transfer (.reported message)) => .ok (.rejected message)
  | .error (.rejected reason) => .ok (.rejected reason)
  | .error (.error error) => .error error

def coordinate (secondary : Secondary ε) (stage : RoundStage) (primary : Primary) (extra : ε) :
    (Primary × ε × RoundStage) × Except Error RoundReport :=
  if primary.roundRunning then
    ((primary, extra, stage), .error (.incompleteCheckpoint "another round is in progress"))
  else
    match primary.roll with
    | (primary, .error error) => ((primary, extra, stage), .error error)
    | (primary, .ok source) =>
      let start : RoundState ε :=
        ⟨{ primary with roundRunning := true }, extra, none, stage, [.idle]⟩
      let (result, state) := secondary.checkpoint.run start
      let state := state.enter .idle
      let primary := { state.primary with roundRunning := false }
      let report (outcome : RoundOutcome) : RoundReport :=
        ⟨source, state.injected, outcome, state.stages, primary.image⟩
      ((primary, state.extra, state.stage), (outcome result).map report)

def runRound (secondary : Secondary ε) (primary : Primary) (extra : ε) :
    (Primary × ε) × Except Error RoundReport :=
  let ((primary, extra, _), result) := secondary.coordinate .idle primary extra
  ((primary, extra), result)

end Secondary

end Journal
