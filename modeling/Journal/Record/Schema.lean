import Journal.Bytes.BigEndian
import Journal.Bytes.Window
import Journal.Json.Value
import Journal.Text.Base64
import Journal.Text.Hex
import Journal.Text.Utf8

/-!
Schemas: how a value stands in the body of a record, and how it stands in the textual form. Each
payload is described once, field by field, and gets both forms from that description. What `put` says
of a body is built by `push`, without a list.
-/

set_option autoImplicit false

namespace Journal

inductive FieldFault
  | overrun (what : String) (needed left : Nat)
  | badFlag (byte : UInt8)
  | notText (fault : Utf8.Fault)
  | noPayload
deriving DecidableEq, Repr

def FieldFault.message : FieldFault → String
  | .overrun what needed left =>
    s!"{what} overruns record body ({needed} bytes needed, {left} left)"
  | .badFlag byte => "invalid bool byte 0x" ++ Hex.ofByte byte
  | .notText fault => s!"string is not UTF-8: {fault.message}"
  | .noPayload => "OP_INVALID does not carry a record"

def Window.next (body : Window) (what : String) (count : Nat) :
    Except FieldFault (List UInt8 × Window) :=
  if body.size < count then .error (.overrun what count body.size)
  else .ok (body.bytes.take count, body.drop count)

def Window.number (body : Window) (what : String) (width : Nat) :
    Except FieldFault (UInt64 × Window) :=
  if body.size < width then .error (.overrun what width body.size)
  else .ok (BigEndian.front width body.bytes, body.drop width)

structure Schema (α : Type) where
  put : α → List UInt8
  push : ByteArray → α → ByteArray
  toList_push : ∀ target value, Packed.toList (push target value) = Packed.toList target ++ put value
  get : Window → Except FieldFault (α × Window)
  toJson : α → Json
  ofJson? : Json → Option α
  /-- What a missing member stands for, where it may be missing. -/
  absent : Option α

namespace Schema

/-- Whole numbers of `width` bytes, seen as words in a body and as `Int` in text. -/
def integer {α : Type} (what : String) (width : Nat) (toWord : α → UInt64) (ofWord : UInt64 → α)
    (toInt : α → Int) (ofInt? : Int → Option α) : Schema α where
  put value := BigEndian.encode width (toWord value).toNat
  push target value := BigEndian.push target width (toWord value)
  toList_push target value := BigEndian.toList_push target width (toWord value)
  get body := do
    let (word, rest) ← body.number what width
    return (ofWord word, rest)
  toJson value := .int (toInt value)
  ofJson?
    | .literal (.int n) => ofInt? n
    | _ => none
  absent := none

def u16 : Schema UInt16 :=
  integer "u16" 2 UInt16.toUInt64 UInt64.toUInt16 (fun value => value.toNat)
    fun n => if 0 ≤ n ∧ n < UInt16.size then some (UInt16.ofNat n.toNat) else none

def i32 : Schema Int32 :=
  integer "i32" 4 (fun value => value.toUInt32.toUInt64) (fun word => word.toUInt32.toInt32)
    Int32.toInt fun n =>
      if Int32.minValue.toInt ≤ n ∧ n ≤ Int32.maxValue.toInt then some (Int32.ofInt n) else none

def i64 : Schema Int64 :=
  integer "i64" 8 Int64.toUInt64 UInt64.toInt64 Int64.toInt fun n =>
    if Int64.minValue.toInt ≤ n ∧ n ≤ Int64.maxValue.toInt then some (Int64.ofInt n) else none

def flag : Schema Bool where
  put value := [if value then 1 else 0]
  push target value := target.push (if value then 1 else 0)
  toList_push target _ := Packed.toList_push target _
  get body := do
    let (word, rest) ← body.number "u8" 1
    if word = 0 then return (false, rest)
    else if word = 1 then return (true, rest)
    else throw (.badFlag word.toUInt8)
  toJson := .bool
  ofJson?
    | .literal (.bool value) => some value
    | _ => none
  absent := none

def putCounted (bytes : List UInt8) : List UInt8 := BigEndian.encode 4 bytes.length ++ bytes

def pushCount (target : ByteArray) (count : Nat) : ByteArray :=
  BigEndian.push target 4 (UInt64.ofNat count)

theorem toList_pushCount (target : ByteArray) (count : Nat) :
    Packed.toList (pushCount target count) = Packed.toList target ++ BigEndian.encode 4 count := by
  rw [pushCount, BigEndian.toList_push, UInt64.toNat_ofNat', ← BigEndian.encode_mod,
    Nat.mod_mod_of_dvd _ (by decide), BigEndian.encode_mod]

def pushCounted (target bytes : ByteArray) : ByteArray := pushCount target bytes.size ++ bytes

theorem toList_pushCounted (target bytes : ByteArray) :
    Packed.toList (pushCounted target bytes) =
      Packed.toList target ++ putCounted (Packed.toList bytes) := by
  rw [pushCounted, Packed.toList_append, toList_pushCount, putCounted, Packed.length_toList,
    List.append_assoc]

def text : Schema String where
  put value := putCounted (Utf8.encode value)
  push target value := pushCounted target value.toByteArray
  toList_push target value := toList_pushCounted target value.toByteArray
  get body := do
    let (length, rest) ← body.number "string length" 4
    let (bytes, rest) ← rest.next "string" length.toNat
    match Utf8.decode bytes with
    | .ok value => return (value, rest)
    | .error fault => throw (.notText fault)
  toJson := .text
  ofJson?
    | .literal (.text value) => value
    | _ => none
  absent := none

def blob : Schema (List UInt8) where
  put := putCounted
  push target bytes := pushCounted target bytes.toByteArray
  toList_push target bytes := by
    rw [toList_pushCounted, Packed.toList_toByteArray]
  get body := do
    let (count, rest) ← body.number "list count" 4
    rest.next "list" count.toNat
  toJson bytes := .text (String.ofList (Base64.encode bytes))
  ofJson?
    | .literal (.text (some encoded)) => Base64.decode? encoded.toList
    | _ => none
  absent := none

def optional {α : Type} (schema : Schema α) : Schema (Option α) where
  put
    | some value => flag.put true ++ schema.put value
    | none => flag.put false
  push target
    | some value => schema.push (flag.push target true) value
    | none => flag.push target false
  toList_push target value := by
    cases value with
    | none => exact flag.toList_push target false
    | some value => rw [schema.toList_push, flag.toList_push, List.append_assoc]
  get body := do
    let (present, rest) ← flag.get body
    if present then
      let (value, rest) ← schema.get rest
      return (some value, rest)
    else return (none, rest)
  toJson
    | some value => schema.toJson value
    | none => .null
  ofJson?
    | .literal .null => some none
    | json => (schema.ofJson? json).map some
  absent := some none

def getItems {α : Type} (schema : Schema α) :
    (count : Nat) → (reversed : List α) → Window → Except FieldFault (List α × Window)
  | 0, reversed, body => .ok (reversed.reverse, body)
  | count + 1, reversed, body =>
    match schema.get body with
    | .error fault => .error fault
    | .ok (item, rest) => schema.getItems count (item :: reversed) rest

theorem toList_foldl_push {α : Type} (schema : Schema α) (target : ByteArray) (items : List α) :
    Packed.toList (items.foldl schema.push target) =
      Packed.toList target ++ items.flatMap schema.put := by
  induction items generalizing target with
  | nil => simp
  | cons item rest ih =>
    rw [List.foldl_cons, ih, schema.toList_push, List.flatMap_cons, List.append_assoc]

def list {α : Type} (schema : Schema α) : Schema (List α) where
  -- Every item takes a byte at least, so a count above what is left is refused at once.
  put items := BigEndian.encode 4 items.length ++ items.flatMap schema.put
  push target items := items.foldl schema.push (pushCount target items.length)
  toList_push target items := by
    rw [toList_foldl_push, toList_pushCount, List.append_assoc]
  get body := do
    let (count, rest) ← body.number "list count" 4
    let count := count.toNat
    if rest.size < count then throw (.overrun "list" count rest.size)
    schema.getItems count [] rest
  toJson items := .array (items.map schema.toJson)
  ofJson?
    | .array items => items.mapM schema.ofJson?
    | _ => none
  absent := none

def boundary : Schema Unit where
  put _ := []
  push target _ := target
  toList_push _ _ := (List.append_nil _).symm
  get body := .ok ((), body)
  toJson _ := .object []
  ofJson?
    | .object members => if members.all (·.1.isSome) then some () else none
    | _ => none
  absent := none

def nothing : Schema Empty where
  put := nofun
  push _ := nofun
  toList_push _ := nofun
  get _ := .error .noPayload
  toJson := nofun
  ofJson? _ := none
  absent := none

end Schema

structure Fields (α : Type) where
  put : α → List UInt8
  push : ByteArray → α → ByteArray
  toList_push : ∀ target value, Packed.toList (push target value) = Packed.toList target ++ put value
  get : Window → Except FieldFault (α × Window)
  toMembers : α → List (Option String × Json)
  ofMembers? : List (Option String × Json) → Option α
  ofItems? : List Json → Option α

namespace Fields

def done : Fields Unit where
  put _ := []
  push target _ := target
  toList_push _ _ := (List.append_nil _).symm
  get body := .ok ((), body)
  toMembers _ := []
  ofMembers? _ := some ()
  ofItems?
    | [] => some ()
    | _ => none

def member? {α : Type} (schema : Schema α) (name : String)
    (members : List (Option String × Json)) : Option α :=
  match Json.valuesOf name members with
  | [] => schema.absent
  | [value] => schema.ofJson? value
  | _ => none

def field {α β : Type} (name : String) (schema : Schema α) (rest : Fields β) : Fields (α × β) where
  put value := schema.put value.1 ++ rest.put value.2
  push target value := rest.push (schema.push target value.1) value.2
  toList_push target value := by
    rw [rest.toList_push, schema.toList_push, List.append_assoc]
  get body := do
    let (first, body) ← schema.get body
    let (others, body) ← rest.get body
    return ((first, others), body)
  toMembers value := (some name, schema.toJson value.1) :: rest.toMembers value.2
  ofMembers? members := do
    return (← member? schema name members, ← rest.ofMembers? members)
  ofItems?
    | item :: items => do return (← schema.ofJson? item, ← rest.ofItems? items)
    | [] => none

def as {α β : Type} (fields : Fields α) (pack : α → β) (unpack : β → α) : Fields β where
  put value := fields.put (unpack value)
  push target value := fields.push target (unpack value)
  toList_push target value := fields.toList_push target (unpack value)
  get body := do
    let (value, rest) ← fields.get body
    return (pack value, rest)
  toMembers value := fields.toMembers (unpack value)
  ofMembers? members := (fields.ofMembers? members).map pack
  ofItems? items := (fields.ofItems? items).map pack

def schema {α : Type} (fields : Fields α) : Schema α where
  -- In text an object whose names can all be read, or an array of the values in the order of the
  -- fields.
  put := fields.put
  push := fields.push
  toList_push := fields.toList_push
  get := fields.get
  toJson value := .object (fields.toMembers value)
  ofJson?
    | .object members => if members.all (·.1.isSome) then fields.ofMembers? members else none
    | .array items => fields.ofItems? items
    | _ => none
  absent := none

end Fields

end Journal
