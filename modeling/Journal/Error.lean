import Journal.Layout
import Journal.Opcode
import Journal.Record.Schema
import Journal.Storage

set_option autoImplicit false

namespace Journal

inductive Malformation
  | noRecord
  | oversizedBody (length limit : Nat)
  | field (opcode : Opcode) (fault : FieldFault)
  | unreadBytes (opcode : Opcode) (count : Nat)
deriving DecidableEq, Repr

def Malformation.message : Malformation → String
  | .noRecord => FieldFault.noPayload.message
  | .oversizedBody length limit => s!"body length {length} exceeds maximum {limit}"
  | .field opcode fault => s!"{opcode.name}: {fault.message}"
  | .unreadBytes opcode count => s!"{opcode.name}: {count} unread bytes in body"

inductive DecodeFault
  | malformed (cause : Malformation)
  | truncated (needed available : Nat)
  | checksumMismatch (expected actual : UInt32)
  | unknownOpcode (byte : UInt8)
  | outOfOrder (last found : UInt64)
  | trailingGarbage
  | unsupportedVersion (version : LayoutVersion)
deriving DecidableEq

def DecodeFault.message : DecodeFault → String
  | .malformed cause => s!"malformed record: {cause.message}"
  | .truncated needed available =>
    s!"segment ends mid-record (needed {needed} bytes, {available} available)"
  | .checksumMismatch expected actual =>
    "checksum mismatch (expected 0x" ++ Hex.padded 8 expected.toNat ++ ", got 0x" ++
      Hex.padded 8 actual.toNat ++ ")"
  | .unknownOpcode byte => "unknown opcode 0x" ++ Hex.ofByte byte
  | .outOfOrder last found => s!"transaction id {found} follows {last}"
  | .trailingGarbage => "non-fill bytes after end-of-segment marker"
  | .unsupportedVersion version => s!"unsupported layout version {version.text}"

/-- A record that cannot be read; `offset` is where the record starts, not where it is damaged. -/
structure DecodeError where
  offset : Nat
  fault : DecodeFault
deriving DecidableEq

def DecodeError.message (error : DecodeError) : String :=
  s!"decode error in record starting at offset {error.offset}: {error.fault.message}"

def DecodeError.isTruncation (error : DecodeError) : Bool :=
  match error.fault with
  | .truncated _ _ => true
  | _ => false

inductive IoFault
  | sinkFull
  | syncFailed
  | storage (fault : StorageFault)
  | reported (message : String)
deriving DecidableEq, Repr

def IoFault.message : IoFault → String
  | .sinkFull => "sink full"
  | .syncFailed => "sync failed"
  | .storage fault => fault.message
  | .reported message => message

inductive WriteFault
  | outOfOrder (txid last : UInt64)
  | bodyTooLarge (opcode : Opcode) (size limit : Nat)
  | openedTwice
  | notOpen
  | reported (message : String)
deriving DecidableEq, Repr

def WriteFault.message : WriteFault → String
  | .outOfOrder txid last => s!"transaction id {txid} follows {last}"
  | .bodyTooLarge opcode size limit =>
    s!"{opcode.name} body too large: {size} bytes (max {limit})"
  | .openedTwice => "binary emitter opened twice"
  | .notOpen => "binary emitter is not open"
  | .reported message => message

inductive TextFault
  | notDocument
  | unwritable (fault : IoFault)
  | outOfOrder (index : Nat) (txid previous : UInt64)
deriving DecidableEq, Repr

def TextFault.message : TextFault → String
  | .notDocument => "not a document of records"
  | .unwritable fault => fault.message
  | .outOfOrder index txid previous => s!"record {index} has txid {txid} after txid {previous}"

inductive TransferFault
  | shortFile (name : String) (expected received : Nat)
  | corruptedByte (name : String)
  | reported (message : String)
deriving DecidableEq, Repr

def TransferFault.message : TransferFault → String
  | .shortFile name expected received => s!"{name}: received {received} of {expected} bytes"
  | .corruptedByte name => s!"{name}: checksum mismatch"
  | .reported message => message

inductive ConfigFault
  | zeroResyncRun
  | zeroPreallocation
  | zeroSyncCount
  | unknownOpcode (name : String)
  | unknownProcessor (name : String)
deriving DecidableEq, Repr

def ConfigFault.message : ConfigFault → String
  | .zeroResyncRun => "min_resync_run must be at least 1"
  | .zeroPreallocation => "preallocation_chunk must be non-zero"
  | .zeroSyncCount => "sync count must be non-zero"
  | .unknownOpcode name => s!"unknown opcode name: {name}"
  | .unknownProcessor name => s!"unknown processor: {name}"

inductive Error
  | io (fault : IoFault)
  | unsupportedFormat (version : LayoutVersion)
  | decode (error : DecodeError)
  | write (fault : WriteFault)
  | text (fault : TextFault)
  | incompleteCheckpoint (outcome : String)
  | transfer (fault : TransferFault)
  | config (fault : ConfigFault)
deriving DecidableEq

def Error.message : Error → String
  | .io fault => s!"IO error: {fault.message}"
  | .unsupportedFormat version => s!"Unsupported log format version: {version.text}"
  | .decode error => error.message
  | .write fault => s!"Log write failed: {fault.message}"
  | .text fault => s!"Textual form error: {fault.message}"
  | .incompleteCheckpoint outcome => s!"Checkpoint round aborted: {outcome}"
  | .transfer fault => s!"Transfer error: {fault.message}"
  | .config fault => s!"Configuration error: {fault.message}"

def Error.ofStorage (fault : StorageFault) : Error := .io (.storage fault)

def Opcode.ofName (name : String) : Except Error Opcode :=
  match ofName? name with
  | some opcode => .ok opcode
  | none => .error (.config (.unknownOpcode name))

end Journal
