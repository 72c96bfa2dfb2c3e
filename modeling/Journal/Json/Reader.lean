import Journal.Json.Token

set_option autoImplicit false

namespace Journal

abbrev Members := List (Option String × Json)

/-- An array or object around the value being read; what it holds so far is kept in reverse. -/
inductive Frame
  | array (items : List Json)
  | object (members : Members) (key : Option String)

inductive Expectation
  | value
  | valueOrEnd
  | keyOrEnd
  | key (members : Members)
  | colon (members : Members) (key : Option String)
  | afterValue (value : Json)

structure JsonReader where
  stack : List Frame
  expected : Expectation

namespace JsonReader

def start : JsonReader := ⟨[], .value⟩

def expect (reader : JsonReader) (expected : Expectation) : JsonReader :=
  { reader with expected := expected }

def beginValue (reader : JsonReader) (token : Token) : Option JsonReader :=
  match token with
  | .literal value => some (reader.expect (.afterValue (.literal value)))
  | .openArray => some ⟨.array [] :: reader.stack, .valueOrEnd⟩
  | .openObject => some (reader.expect .keyOrEnd)
  | _ => none

def readKey (reader : JsonReader) (members : Members) (token : Token) : Option JsonReader :=
  match token with
  | .literal (.text key) => some (reader.expect (.colon members key))
  | _ => none

def endValue (reader : JsonReader) (value : Json) (token : Token) : Option JsonReader :=
  -- A value is complete: its frame takes it up, or closes around it.
  match token, reader.stack with
  | .comma, .array items :: stack => some ⟨.array (value :: items) :: stack, .value⟩
  | .comma, .object members key :: stack => some ⟨stack, .key ((key, value) :: members)⟩
  | .closeArray, .array items :: stack =>
    some ⟨stack, .afterValue (.array (value :: items).reverse)⟩
  | .closeObject, .object members key :: stack =>
    some ⟨stack, .afterValue (.object ((key, value) :: members).reverse)⟩
  | _, _ => none

def step (reader : JsonReader) (token : Token) : Option JsonReader :=
  match reader.expected with
  | .value => reader.beginValue token
  | .valueOrEnd =>
    match token, reader.stack with
    | .closeArray, _ :: stack => some ⟨stack, .afterValue (.array [])⟩
    | _, _ => reader.beginValue token
  | .keyOrEnd =>
    match token with
    | .closeObject => some (reader.expect (.afterValue (.object [])))
    | _ => reader.readKey [] token
  | .key members => reader.readKey members token
  | .colon members key =>
    match token with
    | .colon => some ⟨.object members key :: reader.stack, .value⟩
    | _ => none
  | .afterValue value => reader.endValue value token

def run? (reader : JsonReader) : List Token → Option JsonReader
  | [] => some reader
  | token :: rest =>
    match reader.step token with
    | some reader => run? reader rest
    | none => none

def finish? (reader : JsonReader) : Option Json :=
  match reader.stack, reader.expected with
  | [], .afterValue value => some value
  | _, _ => none

end JsonReader

namespace Json

def ofTokens? (tokens : List Token) : Option Json := do
  (← JsonReader.start.run? tokens).finish?

def parse? (bytes : List UInt8) : Option Json := do ofTokens? (← Token.scan? bytes)

end Json

end Journal
