import Journal.Bytes.Packed
import Journal.Json.Reader

set_option autoImplicit false

namespace Journal

structure JsonProgress where
  place : LexerPlace
  reader : JsonReader

def Lexer.after (lexer : Lexer) (reversed : List Token) : Lexer :=
  ⟨lexer.reversed ++ reversed, lexer.place⟩

theorem Lexer.between_eq (reversed : List Token) (place : LexerPlace) (byte : UInt8) :
    Lexer.between ⟨reversed, place⟩ byte =
      (Lexer.between ⟨[], place⟩ byte).map (·.after reversed) := by
  unfold Lexer.between
  split <;> try rfl
  split
  · rfl
  · cases (Numeral.empty false).extend byte <;> rfl

theorem Lexer.step_eq (reversed : List Token) (place : LexerPlace) (byte : UInt8) :
    Lexer.step ⟨reversed, place⟩ byte =
      (Lexer.step ⟨[], place⟩ byte).map (·.after reversed) := by
  cases place with
  | between => exact Lexer.between_eq ..
  | text draft =>
    simp only [Lexer.step]
    repeat' split
    all_goals rfl
  | escape draft =>
    simp only [Lexer.step]
    split
    · rfl
    · cases Lexer.escaped? byte <;> rfl
  | unit draft missing value =>
    simp only [Lexer.step]
    cases Lexer.hexValue? byte with
    | none => rfl
    | some digit =>
      simp only [bind, Option.bind]
      split <;> rfl
  | number numeral =>
    simp only [Lexer.step]
    split
    · rfl
    · split
      · rw [Lexer.between_eq, Lexer.between_eq [_]]
        cases Lexer.between ⟨[], .between⟩ byte with
        | none => rfl
        | some lexer => simp [Lexer.after]
      · rfl
  | word rest value =>
    cases rest with
    | nil => rfl
    | cons expected rest =>
      simp only [Lexer.step]
      repeat' split
      all_goals rfl

theorem Lexer.run?_eq (reversed : List Token) (place : LexerPlace) (bytes : List UInt8) :
    Lexer.run? ⟨reversed, place⟩ bytes =
      (Lexer.run? ⟨[], place⟩ bytes).map (·.after reversed) := by
  induction bytes generalizing reversed place with
  | nil => rfl
  | cons byte rest ih =>
    rw [Lexer.run?, Lexer.run?, Lexer.step_eq]
    cases Lexer.step ⟨[], place⟩ byte with
    | none => rfl
    | some lexer =>
      obtain ⟨tokens, place⟩ := lexer
      simp only [Option.map_some, Lexer.after]
      rw [ih, ih tokens]
      cases Lexer.run? ⟨[], place⟩ rest <;> simp [Lexer.after]

theorem Lexer.run?_append (lexer : Lexer) (first second : List UInt8) :
    lexer.run? (first ++ second) = (lexer.run? first).bind (·.run? second) := by
  induction first generalizing lexer with
  | nil => rfl
  | cons byte rest ih =>
    rw [List.cons_append, Lexer.run?, Lexer.run?]
    cases lexer.step byte with
    | none => rfl
    | some lexer => exact ih lexer

theorem Lexer.finish?_eq (lexer : Lexer) :
    lexer.finish? = (Lexer.finish? ⟨[], lexer.place⟩).map (lexer.reversed.reverse ++ ·) := by
  obtain ⟨reversed, place⟩ := lexer
  cases place <;> try rfl
  · simp [Lexer.finish?]
  · simp only [Lexer.finish?, Lexer.emit]
    split <;> simp

theorem JsonReader.run?_append (reader : JsonReader) (first second : List Token) :
    reader.run? (first ++ second) = (reader.run? first).bind (·.run? second) := by
  induction first generalizing reader with
  | nil => rfl
  | cons token rest ih =>
    rw [List.cons_append, JsonReader.run?, JsonReader.run?]
    cases reader.step token with
    | none => rfl
    | some reader => exact ih reader

namespace JsonProgress

def start : JsonProgress := ⟨.between, .start⟩

def feed? (progress : JsonProgress) (piece : List UInt8) : Option JsonProgress :=
  match Lexer.run? ⟨[], progress.place⟩ piece with
  | some lexer => (progress.reader.run? lexer.reversed.reverse).map (⟨lexer.place, ·⟩)
  | none => none

def finish? (progress : JsonProgress) : Option Json := do
  (← progress.reader.run? (← Lexer.finish? ⟨[], progress.place⟩)).finish?

def pieceSize : Nat := 4096

def feedFrom? (bytes : ByteArray) (first : Nat) (progress : JsonProgress) : Option JsonProgress :=
  if first < bytes.size then
    match progress.feed? (Packed.toList (bytes.extract first (first + pieceSize))) with
    | some progress => feedFrom? bytes (first + pieceSize) progress
    | none => none
  else some progress
termination_by bytes.size - first
decreasing_by simp only [pieceSize]; omega

theorem feed?_append (progress : JsonProgress) (first second : List UInt8) :
    progress.feed? (first ++ second) = (progress.feed? first).bind (·.feed? second) := by
  simp only [feed?, Lexer.run?_append]
  cases Lexer.run? ⟨[], progress.place⟩ first with
  | none => rfl
  | some lexer =>
    obtain ⟨tokens, place⟩ := lexer
    simp only [Option.bind_some]
    rw [Lexer.run?_eq]
    cases read : Lexer.run? ⟨[], place⟩ second with
    | none => cases progress.reader.run? tokens.reverse <;> simp [read]
    | some lexer =>
      simp only [Option.map_some, Lexer.after, List.reverse_append, JsonReader.run?_append]
      cases progress.reader.run? tokens.reverse <;> simp [read]

theorem feedFrom?_eq (bytes : ByteArray) (first : Nat) (progress : JsonProgress) :
    feedFrom? bytes first progress = progress.feed? ((Packed.toList bytes).drop first) := by
  fun_induction feedFrom? bytes first progress with
  | case1 first progress inside next fed ih =>
    rw [ih, ← List.take_append_drop pieceSize ((Packed.toList bytes).drop first), feed?_append,
      List.drop_drop, ← Packed.toList_extract, fed, Option.bind_some]
  | case2 first progress inside failed =>
    rw [← List.take_append_drop pieceSize ((Packed.toList bytes).drop first), feed?_append,
      ← Packed.toList_extract, failed, Option.bind_none]
  | case3 first progress outside =>
    rw [List.drop_eq_nil_of_le (by simpa using outside)]
    rfl

theorem finish?_feed? (bytes : List UInt8) : (start.feed? bytes).bind finish? = Json.parse? bytes := by
  simp only [feed?, Json.parse?, Token.scan?, Json.ofTokens?, start, Lexer.start]
  cases Lexer.run? ⟨[], .between⟩ bytes with
  | none => rfl
  | some lexer =>
    simp only [Option.bind_eq_bind, Option.bind_some, Lexer.finish?_eq lexer]
    cases last : Lexer.finish? ⟨[], lexer.place⟩ with
    | none => cases JsonReader.start.run? lexer.reversed.reverse <;> simp [finish?, last]
    | some tokens =>
      simp only [Option.map_some, Option.bind_some, JsonReader.run?_append]
      cases JsonReader.start.run? lexer.reversed.reverse <;> simp [finish?, last]

end JsonProgress

def Json.ofPacked? (bytes : ByteArray) : Option Json :=
  (JsonProgress.start.feedFrom? bytes 0).bind JsonProgress.finish?

theorem Json.ofPacked?_eq (bytes : ByteArray) :
    Json.ofPacked? bytes = Json.parse? (Packed.toList bytes) := by
  rw [Json.ofPacked?, JsonProgress.feedFrom?_eq, List.drop_zero, JsonProgress.finish?_feed?]

end Journal
