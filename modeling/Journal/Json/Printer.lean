import Journal.Json.Token
import Journal.Text.Hex

set_option autoImplicit false

namespace Journal

def isPlain (c : Char) : Bool := 0x20 ≤ c.toNat && c.toNat ≠ 0x22 && c.toNat ≠ 0x5C

def escape? (c : Char) : Option String :=
  if isPlain c then none
  else if c.toNat = 0x22 then some "\\\""
  else if c.toNat = 0x5C then some "\\\\"
  else if c.toNat = 0x08 then some "\\b"
  else if c.toNat = 0x0C then some "\\f"
  else if c.toNat = 0x0A then some "\\n"
  else if c.toNat = 0x0D then some "\\r"
  else if c.toNat = 0x09 then some "\\t"
  else some ("\\u" ++ Hex.padded 4 c.toNat)

/-- Pieces of a string literal: runs of plain characters, and one piece for each escape. -/
structure TextPieces where
  reversed : List String
  run : List Char

namespace TextPieces

def empty : TextPieces := ⟨[], []⟩

def flush (pieces : TextPieces) : List String :=
  if pieces.run.isEmpty then pieces.reversed
  else String.ofList pieces.run.reverse :: pieces.reversed

def push (pieces : TextPieces) (c : Char) : TextPieces :=
  match escape? c with
  | some escape => ⟨escape :: pieces.flush, []⟩
  | none => ⟨pieces.reversed, c :: pieces.run⟩

def inside (text : String) : List String :=
  -- Most texts are a single run.
  if text.isEmpty then []
  else if text.all isPlain then [text]
  else (text.toList.foldl push empty).flush.reverse

def ofText (text : String) : List String := ["\""] ++ inside text ++ ["\""]

theorem foldl_push_of_plain (chars : List Char) (plain : chars.all isPlain) (pieces : TextPieces) :
    chars.foldl push pieces = ⟨pieces.reversed, chars.reverse ++ pieces.run⟩ := by
  induction chars generalizing pieces with
  | nil => rfl
  | cons c rest ih =>
    simp only [List.all_cons, Bool.and_eq_true] at plain
    rw [List.foldl_cons, ih plain.2]
    simp [push, escape?, plain.1]

theorem inside_eq (text : String) :
    inside text = (text.toList.foldl push empty).flush.reverse := by
  simp only [inside]
  split
  · next blank =>
    have blank : text = "" := by simpa using blank
    simp [blank, empty, flush]
  · next written =>
    split
    · next plain =>
      have notBlank : text ≠ "" := by simpa using written
      rw [foldl_push_of_plain _ (String.all_bool_eq ▸ plain)]
      simp [flush, empty, notBlank]
    · rfl

end TextPieces

def Literal.pieces : Literal → List String
  -- A literal read without its value has no written form.
  | .null => ["null"]
  | .bool true => ["true"]
  | .bool false => ["false"]
  | .int value => [toString value]
  | .text (some value) => TextPieces.ofText value
  | .text none | .real _ => []

def Token.pieces : Token → List String
  | .openObject => ["\x7b"]
  | .closeObject => ["\x7d"]
  | .openArray => ["["]
  | .closeArray => ["]"]
  | .colon => [":"]
  | .comma => [","]
  | .literal value => value.pieces

namespace Json

mutual

def tokensBefore : Json → (rest : List Token) → List Token
  | .literal value, rest => .literal value :: rest
  | .array items, rest => .openArray :: itemTokens items (.closeArray :: rest)
  | .object members, rest => .openObject :: memberTokens members (.closeObject :: rest)

def itemTokens : List Json → (rest : List Token) → List Token
  | [], rest => rest
  | item :: items, rest => item.tokensBefore (laterItemTokens items rest)

def laterItemTokens : List Json → (rest : List Token) → List Token
  | [], rest => rest
  | item :: items, rest => .comma :: item.tokensBefore (laterItemTokens items rest)

def memberTokens : List (Option String × Json) → (rest : List Token) → List Token
  | [], rest => rest
  | (key, value) :: members, rest =>
    .literal (.text key) :: .colon :: value.tokensBefore (laterMemberTokens members rest)

def laterMemberTokens : List (Option String × Json) → (rest : List Token) → List Token
  | [], rest => rest
  | (key, value) :: members, rest =>
    .comma :: .literal (.text key) :: .colon ::
      value.tokensBefore (laterMemberTokens members rest)

end

def tokens (json : Json) : List Token := json.tokensBefore []

def pieces (json : Json) : List String := json.tokens.flatMap Token.pieces

def compact (json : Json) : String := String.join json.pieces

mutual

def indented (margin : String) : Json → String
  | .literal value => String.join value.pieces
  | .array [] => "[]"
  | .object [] => "\x7b\x7d"
  | .array (item :: rest) =>
    let inner := margin ++ "  "
    "[\n" ++ inner ++ item.indented inner ++ indentedItems inner rest ++ "\n" ++ margin ++ "]"
  | .object ((key, value) :: rest) =>
    let inner := margin ++ "  "
    "\x7b\n" ++ inner ++ String.join (Literal.text key).pieces ++ ": " ++ value.indented inner ++
      indentedMembers inner rest ++ "\n" ++ margin ++ "\x7d"

def indentedItems (margin : String) : List Json → String
  | [] => ""
  | item :: rest => ",\n" ++ margin ++ item.indented margin ++ indentedItems margin rest

def indentedMembers (margin : String) : List (Option String × Json) → String
  | [] => ""
  | (key, value) :: rest =>
    ",\n" ++ margin ++ String.join (Literal.text key).pieces ++ ": " ++ value.indented margin ++
      indentedMembers margin rest

end

def pretty (json : Json) : String := json.indented ""

end Json

end Journal
