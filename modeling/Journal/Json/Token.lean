import Journal.Json.Numeral
import Journal.Text.Utf8

/-!
The tokens of a JSON text. The lexer takes one byte at a time, so that reading two texts one after the
other is reading their concatenation.
-/

set_option autoImplicit false

namespace Journal

inductive Token
  | openObject | closeObject | openArray | closeArray | colon | comma
  | literal (value : Literal)
deriving DecidableEq, Repr

/-- A string literal as far as it has been read. An escaped high surrogate waits for its low one. -/
structure TextDraft where
  bytes : ByteArray
  high : Option Nat
  sound : Bool

namespace TextDraft

def empty : TextDraft := ⟨.emptyWithCapacity 16, none, true⟩

def pushByte (draft : TextDraft) (byte : UInt8) : TextDraft :=
  ⟨draft.bytes.push byte, none, draft.sound && draft.high.isNone⟩

def pushChar (draft : TextDraft) (c : Char) : TextDraft :=
  { draft with bytes := (String.utf8EncodeChar c).foldl ByteArray.push draft.bytes }

def pushUnit (draft : TextDraft) (unit : Nat) : TextDraft :=
  let isHigh := 0xD800 ≤ unit && unit < 0xDC00
  let isLow := 0xDC00 ≤ unit && unit < 0xE000
  match draft.high with
  | some high =>
    let paired := { draft with high := none, sound := draft.sound && isLow }
    paired.pushChar (Char.ofNat (0x10000 + (high - 0xD800) * 0x400 + (unit - 0xDC00)))
  | none =>
    if isHigh then { draft with high := some unit }
    else { draft with sound := draft.sound && !isLow }.pushChar (Char.ofNat unit)

def value? (draft : TextDraft) : Option String :=
  if draft.sound && draft.high.isNone then String.fromUTF8? draft.bytes else none

end TextDraft

inductive LexerPlace
  | between
  | text (draft : TextDraft)
  | escape (draft : TextDraft)
  -- `missing` more hexadecimal digits of a unit.
  | unit (draft : TextDraft) (missing value : Nat)
  | number (numeral : Numeral)
  | word (rest : List UInt8) (value : Literal)

structure Lexer where
  reversed : List Token
  place : LexerPlace

namespace Lexer

def start : Lexer := ⟨[], .between⟩

def emit (lexer : Lexer) (token : Token) : Lexer := ⟨token :: lexer.reversed, .between⟩

def enter (lexer : Lexer) (place : LexerPlace) : Lexer := { lexer with place := place }

def isBlank (byte : UInt8) : Bool := byte == 0x20 || byte == 0x0A || byte == 0x0D || byte == 0x09

def hexValue? (byte : UInt8) : Option Nat :=
  if 0x30 ≤ byte ∧ byte ≤ 0x39 then some (byte.toNat - 0x30)
  else if 0x41 ≤ byte ∧ byte ≤ 0x46 then some (byte.toNat - 0x41 + 10)
  else if 0x61 ≤ byte ∧ byte ≤ 0x66 then some (byte.toNat - 0x61 + 10)
  else none

def escaped? (byte : UInt8) : Option Nat :=
  match byte with
  | 0x22 | 0x5C | 0x2F => some byte.toNat
  | 0x62 => some 0x08
  | 0x66 => some 0x0C
  | 0x6E => some 0x0A
  | 0x72 => some 0x0D
  | 0x74 => some 0x09
  | _ => none

@[inline] def between (lexer : Lexer) (byte : UInt8) : Option Lexer :=
  match byte with
  | 0x7B => some (lexer.emit .openObject)
  | 0x7D => some (lexer.emit .closeObject)
  | 0x5B => some (lexer.emit .openArray)
  | 0x5D => some (lexer.emit .closeArray)
  | 0x3A => some (lexer.emit .colon)
  | 0x2C => some (lexer.emit .comma)
  | 0x22 => some (lexer.enter (.text .empty))
  | 0x2D => some (lexer.enter (.number (.empty true)))
  | 0x6E => some (lexer.enter (.word [0x75, 0x6C, 0x6C] .null))
  | 0x74 => some (lexer.enter (.word [0x72, 0x75, 0x65] (.bool true)))
  | 0x66 => some (lexer.enter (.word [0x61, 0x6C, 0x73, 0x65] (.bool false)))
  | _ =>
    if isBlank byte then some (lexer.enter .between)
    else ((Numeral.empty false).extend byte).map fun numeral => lexer.enter (.number numeral)

@[inline] def step : Lexer → UInt8 → Option Lexer
  | ⟨reversed, .between⟩, byte => between ⟨reversed, .between⟩ byte
  | ⟨reversed, .text draft⟩, byte =>
    if byte = 0x22 then some ⟨.literal (.text draft.value?) :: reversed, .between⟩
    else if byte = 0x5C then some ⟨reversed, .escape draft⟩
    else if byte < 0x20 then none
    else some ⟨reversed, .text (draft.pushByte byte)⟩
  | ⟨reversed, .escape draft⟩, byte =>
    if byte = 0x75 then some ⟨reversed, .unit draft 4 0⟩
    else (escaped? byte).map fun unit => ⟨reversed, .text (draft.pushUnit unit)⟩
  | ⟨reversed, .unit draft missing value⟩, byte => do
    let value := value * 16 + (← hexValue? byte)
    if missing ≤ 1 then some ⟨reversed, .text (draft.pushUnit value)⟩
    else some ⟨reversed, .unit draft (missing - 1) value⟩
  | ⟨reversed, .number numeral⟩, byte =>
    match numeral.extend byte with
    | some longer => some ⟨reversed, .number longer⟩
    | none =>
      if numeral.isComplete then between ⟨.literal numeral.literal :: reversed, .between⟩ byte
      else none
  | ⟨_, .word [] _⟩, _ => none
  | ⟨reversed, .word (expected :: rest) value⟩, byte =>
    if byte ≠ expected then none
    else if rest.isEmpty then some ⟨.literal value :: reversed, .between⟩
    else some ⟨reversed, .word rest value⟩

def finish? (lexer : Lexer) : Option (List Token) :=
  match lexer.place with
  | .between => some lexer.reversed.reverse
  | .number numeral =>
    if numeral.isComplete then some (lexer.emit (.literal numeral.literal)).reversed.reverse else none
  | _ => none

def run? (lexer : Lexer) : List UInt8 → Option Lexer
  | [] => some lexer
  | byte :: rest =>
    match lexer.step byte with
    | some lexer => run? lexer rest
    | none => none

end Lexer

def Token.scan? (bytes : List UInt8) : Option (List Token) := do
  (← Lexer.start.run? bytes).finish?

end Journal
