import Journal.Segment.Resync

/-!
Scanning a segment. A scan is the list of what happens from the header to the end: records emitted,
failures, and ranges skipped to get past them. All that a scan reports is read off that list.
-/

set_option autoImplicit false

namespace Journal

inductive ScanMode
  | strict
  | recovery
deriving DecidableEq, Repr

inductive ScanEvent
  | emitted (start stop : Nat) (record : Record)
  | failed (error : DecodeError)
  | skipped (start stop : Nat)

structure ScanRules where
  mode : ScanMode
  version : LayoutVersion
  requireEndMarker : Bool
  resync : ResyncPolicy

inductive Reading
  | record (record : Record) (size : Nat)
  | finished (marked : Bool)
  | failure (fault : DecodeFault)

def ScanRules.read (rules : ScanRules) (last : Option UInt64) (rest : Remainder) : Reading :=
  match rest.bytes with
  | [] =>
    if rules.mode = .strict && rules.requireEndMarker then .failure (.truncated 1 0)
    else .finished false
  | byte :: _ =>
    if byte = Opcode.fillByte then
      if rest.isFill then .finished true else .failure .trailingGarbage
    else
      match Record.decodeInput rest.input rules.version with
      | .error fault => .failure fault
      | .ok (record, size) =>
        match last with
        | none => .record record size
        | some last =>
          if record.txid < last then .failure (.outOfOrder last record.txid)
          else .record record size

def ScanRules.resume (rules : ScanRules) (last : Option UInt64) (rest : Remainder) : Option Nat :=
  -- Where, after a failure at the front, the scan goes on; counted from the next byte.
  let beyond := rest.drop 1
  match rules.mode with
  | .strict => none
  | .recovery =>
    findRun rules.version rules.resync.run last (min rules.resync.window beyond.size) 0 [] beyond

theorem size_of_read {rules : ScanRules} {last : Option UInt64} {rest : Remainder} {record : Record}
    {size : Nat} (read : rules.read last rest = .record record size) :
    0 < size ∧ size ≤ rest.size := by
  have decoded : Record.decodeInput rest.input rules.version = .ok (record, size) := by
    unfold ScanRules.read at read
    split at read
    · split at read <;> contradiction
    · split at read
      · split at read <;> contradiction
      · split at read
        · contradiction
        · rename_i decoded
          split at read
          · simp_all
          · split at read
            · contradiction
            · simp_all
  have bounds := Record.size_of_decodeInput decoded
  exact ⟨by have : Record.headerSize = 13 := rfl; omega, bounds.2⟩

theorem firstRun_of_pos {version : LayoutVersion} {needed : Nat} {last : Option UInt64}
    {count passed found : Nat} {rest : Remainder}
    (success : firstRun version needed last count passed rest = some found) : 0 < count := by
  cases count with
  | zero => simp [firstRun] at success
  | succ count => omega

theorem size_of_resume {rules : ScanRules} {last : Option UInt64} {rest : Remainder} {passed : Nat}
    (resumed : rules.resume last rest = some passed) : 0 < rest.size := by
  unfold ScanRules.resume at resumed
  split at resumed
  · contradiction
  · rw [findRun_nil] at resumed
    have := firstRun_of_pos resumed
    simp only [Remainder.size_drop] at this
    omega

def ScanRules.walk (rules : ScanRules) (start : Nat) (last : Option UInt64)
    (events : Array ScanEvent) (rest : Remainder) : Array ScanEvent × Bool :=
  -- Walks on from `start`; also tells whether the walk ends at an end marker.
  match read : rules.read last rest with
  | .finished marked => (events, marked)
  | .record record size =>
    have := size_of_read read
    rules.walk (start + size) (some record.txid)
      (events.push (.emitted start (start + size) record)) (rest.drop size)
  | .failure fault =>
    let events := events.push (.failed ⟨start, fault⟩)
    match rules.mode, resumed : rules.resume last rest with
    | .strict, _ => (events, false)
    | .recovery, none => (events.push (.skipped start (start + rest.size)), false)
    | .recovery, some passed =>
      have := size_of_resume resumed
      rules.walk (start + 1 + passed) last
        (events.push (.skipped start (start + 1 + passed))) (rest.drop (1 + passed))
termination_by rest.size
decreasing_by all_goals simp only [Remainder.size_drop]; omega

structure Scan where
  mode : ScanMode
  version : LayoutVersion
  /-- Why the header could not be read, in which case the current layout is assumed. -/
  headerFault : Option DecodeFault
  events : List ScanEvent
  cleanlyClosed : Bool

namespace Scan

def records (scan : Scan) : List Record :=
  scan.events.filterMap fun
    | .emitted _ _ record => some record
    | _ => none

def spans (scan : Scan) : List (Nat × Nat) :=
  scan.events.filterMap fun
    | .emitted start stop _ => some (start, stop)
    | _ => none

def skipped (scan : Scan) : List (Nat × Nat) :=
  scan.events.filterMap fun
    | .skipped start stop => some (start, stop)
    | _ => none

def failures (scan : Scan) : List DecodeError :=
  scan.events.filterMap fun
    | .failed error => some error
    | _ => none

def headerError (scan : Scan) : Option DecodeError := scan.headerFault.map (⟨0, ·⟩)

def firstError (scan : Scan) : Option DecodeError := scan.headerError <|> scan.failures.head?

def recordsConsumed (scan : Scan) : Nat := scan.records.length

def lastTxid (scan : Scan) : Option UInt64 := scan.records.getLast?.map (·.txid)

/-- The end of the last record, or of the header if there is none. -/
def trustedEnd (scan : Scan) : Nat :=
  match scan.spans.getLast? with
  | some (_, stop) => stop
  | none => if scan.headerFault.isNone then LayoutVersion.headerSize else 0

def recoveryInvoked (scan : Scan) : Bool := scan.mode = .recovery && scan.firstError.isSome

def isFatal (scan : Scan) : Bool := scan.mode = .strict && scan.firstError.isSome

def check (scan : Scan) : Except Error Scan :=
  match scan.mode, scan.firstError with
  | .strict, some error => .error (.decode error)
  | _, _ => .ok scan

end Scan

namespace Segment

def layout (mode : ScanMode) (segment : Input) : Except Error (LayoutVersion × Option DecodeFault) :=
  match LayoutVersion.ofHeader? segment.bytes with
  | some version =>
    if version.isSupported then .ok (version, none)
    else
      match mode with
      | .strict => .error (.unsupportedFormat version)
      | .recovery => .ok (.current, some (.unsupportedVersion version))
  | none =>
    let fault := DecodeFault.truncated LayoutVersion.headerSize segment.size
    match mode with
    | .strict => .error (.decode ⟨0, fault⟩)
    | .recovery => .ok (.current, some fault)

def scan (mode : ScanMode) (config : Config) (bytes : List UInt8) : Except Error Scan := do
  let segment := Input.ofList bytes
  let (version, headerFault) ← layout mode segment
  let rules : ScanRules := ⟨mode, version, config.requireEndMarker, config.resync⟩
  let start := min LayoutVersion.headerSize segment.size
  let body := Remainder.ofInput (segment.drop LayoutVersion.headerSize)
  let (events, marked) := rules.walk start none #[] body
  return ⟨mode, version, headerFault, events.toList, marked⟩

end Segment

end Journal
