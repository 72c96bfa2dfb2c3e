import Journal.Json.Printer
import Journal.Json.Reader
import Journal.Record.Operation

set_option autoImplicit false

namespace Journal

def nestingLimit : Nat := 127

namespace Opcode

def ofPlainTag? : Json → Option Opcode
  | .literal (.text (some name)) => ofName? name
  | _ => none

/-- The name, or an object whose one member is the name over nothing. -/
def ofTag? : Json → Option Opcode
  | .object [(some name, .literal .null)] => ofName? name
  | json => ofPlainTag? json

def ofRecordTag? : Json → Option Opcode
  -- In a record the nothing may also be an empty object.
  | .object [(some name, .object [])] => ofName? name
  | json => ofTag? json

end Opcode

namespace Operation

def members (operation : Operation) : Members :=
  [(some "opcode", .text operation.opcode.name),
    (some "data", operation.opcode.schema.toJson operation.payload)]

def ofTagged? (opcode : Option Opcode) (data : Json) : Option Operation := do
  let opcode ← opcode
  return ⟨opcode, ← opcode.schema.ofJson? data⟩

/-- An opcode and a payload are needed, each once; other members do not matter. -/
def ofMembers? (ofTag? : Json → Option Opcode) (members : Members) : Option Operation :=
  match Json.valuesOf "opcode" members, Json.valuesOf "data" members with
  | [tag], [data] => ofTagged? (ofTag? tag) data
  | _, _ => none

def isPart (member : Option String × Json) : Bool :=
  member.1 == some "opcode" || member.1 == some "data"

def payloadWaits (members : Members) : Bool :=
  -- A payload that comes before its opcode has to wait for it, and only what is sound can wait.
  match members.find? isPart with
  | some first => first.1 == some "data"
  | none => false

def isReadable (members : Members) : Bool :=
  members.all (·.1.isSome) &&
    (!payloadWaits members ||
      (Json.valuesOf "data" members).all (Json.isSound (nestingLimit - 1)))

def ofJson? : Json → Option Operation
  -- An operation by itself may also be an array of its opcode and its payload. What is ignored in it
  -- need not be sound.
  | .object members => if isReadable members then ofMembers? Opcode.ofTag? members else none
  | .array [tag, data] => ofTagged? (Opcode.ofPlainTag? tag) data
  | _ => none

def toJson (operation : Operation) : Json := .object operation.members

def text (operation : Operation) : String := operation.toJson.compact

def parse? (bytes : List UInt8) : Option Operation := do ofJson? (← Json.parse? bytes)

end Operation

namespace Record

def toJson (record : Record) : Json :=
  .object ((some "txid", .int record.txid.toNat) :: record.operation.members)

def text (record : Record) : String := record.toJson.compact

def txid? : Json → Option UInt64
  | .literal (.int n) => if 0 ≤ n ∧ n < UInt64.size then some (UInt64.ofNat n.toNat) else none
  | _ => none

def ofJson? (levels : Nat) (json : Json) : Option Record :=
  -- A record that may nest `levels` deep. Nothing in it may be unsound, not even what is ignored.
  if json.isSound levels then
    match json with
    | .object members =>
      match Json.valuesOf "txid" members with
      | [txid] => do return ⟨← txid? txid, ← Operation.ofMembers? Opcode.ofRecordTag? members⟩
      | _ => none
    | _ => none
  else none

def parse? (bytes : List UInt8) : Option Record := do ofJson? nestingLimit (← Json.parse? bytes)

end Record

end Journal
