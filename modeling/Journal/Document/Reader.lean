import Journal.Json.Progress
import Journal.Record.Textual
import Journal.Visitor

set_option autoImplicit false

namespace Journal

structure Document where
  version : LayoutVersion
  records : List Record

namespace Document

/-- The document and its list of records are the two outermost levels. -/
def recordLevels : Nat := nestingLimit - 2

def ofParts? (version records : Json) : Option Document := do
  let version ← Schema.i32.ofJson? version
  match records with
  | .array items => return ⟨⟨version⟩, ← items.mapM (Record.ofJson? recordLevels)⟩
  | _ => none

def ofMembers? (members : Members) : Option Document :=
  if members.all (·.1.isSome) then
    match Json.valuesOf "version" members, Json.valuesOf "records" members with
    | [version], [records] => ofParts? version records
    | _, _ => none
  else none

def ofJson? : Json → Option Document
  | .object members => ofMembers? members
  | .array [version, records] => ofParts? version records
  | _ => none

def parse? (bytes : ByteArray) : Option Document := do ofJson? (← Json.ofPacked? bytes)

def disorder? (index : Nat) : List Record → Option TextFault
  -- The first record whose id is below that of the record before it; `index` counts on.
  | first :: second :: rest =>
    if second.txid < first.txid then some (.outOfOrder index second.txid first.txid)
    else disorder? (index + 1) (second :: rest)
  | _ => none

def read (bytes : ByteArray) : Except Error Document :=
  match parse? bytes with
  | none => .error (.text .notDocument)
  | some document =>
    if !document.version.isSupported then .error (.unsupportedFormat document.version)
    else
      match disorder? 1 document.records with
      | some fault => .error (.text fault)
      | none => .ok document

def stream (document : Document) : RecordStream :=
  ⟨document.version, document.records.map fun record => (none, record), none⟩

def feed {υ : Type} [Visitor υ] (document : Document) (visitor : υ) : υ × Except Error Nat :=
  match document.stream.visit visitor with
  | (visitor, .ok ()) => (visitor, .ok document.records.length)
  | (visitor, .error error) => (visitor, .error error)

end Document

end Journal
