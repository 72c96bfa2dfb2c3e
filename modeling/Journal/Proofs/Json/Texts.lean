import Journal.Proofs.Json.Lexemes

set_option autoImplicit false

namespace Journal

def charBytes (c : Char) : List UInt8 :=
  match escape? c with
  | some escape => Utf8.encode escape
  | none => String.utf8EncodeChar c

namespace TextPieces

theorem encode_flush (pieces : TextPieces) :
    pieces.flush.reverse.flatMap Utf8.encode =
      pieces.reversed.reverse.flatMap Utf8.encode ++
        pieces.run.reverse.flatMap String.utf8EncodeChar := by
  rw [flush]
  split
  · next empty =>
    rw [List.isEmpty_iff.mp empty]
    simp
  · simp [Utf8.encode_ofList]

theorem encode_flush_push (pieces : TextPieces) (c : Char) :
    (pieces.push c).flush.reverse.flatMap Utf8.encode =
      pieces.flush.reverse.flatMap Utf8.encode ++ charBytes c := by
  rw [push, charBytes]
  cases escape? c with
  | some escape => simp [flush]
  | none => simp [encode_flush]

theorem encode_inside (text : String) :
    (inside text).flatMap Utf8.encode = text.toList.flatMap charBytes := by
  have all (chars : List Char) (pieces : TextPieces) :
      (chars.foldl push pieces).flush.reverse.flatMap Utf8.encode =
        pieces.flush.reverse.flatMap Utf8.encode ++ chars.flatMap charBytes := by
    induction chars generalizing pieces with
    | nil => simp
    | cons c chars ih =>
      rw [List.foldl_cons, ih, encode_flush_push, List.flatMap_cons, List.append_assoc]
  rw [inside_eq, all]
  rfl

end TextPieces

structure TextDraft.Spells (draft : TextDraft) (chars : List Char) : Prop where
  bytes : Packed.toList draft.bytes = chars.flatMap String.utf8EncodeChar
  high : draft.high = none
  sound : draft.sound = true

namespace TextDraft

theorem spells_empty : Spells empty [] := ⟨rfl, rfl, rfl⟩

theorem Spells.pushChar {draft : TextDraft} {chars : List Char} (spells : draft.Spells chars)
    (c : Char) : (draft.pushChar c).Spells (chars ++ [c]) := by
  refine ⟨?_, spells.high, spells.sound⟩
  rw [TextDraft.pushChar, Packed.toList_foldl_push, spells.bytes, List.flatMap_append,
    List.flatMap_singleton]

theorem Spells.pushUnit {draft : TextDraft} {chars : List Char} (spells : draft.Spells chars)
    {c : Char} (low : c.toNat < 0xD800) : (draft.pushUnit c.toNat).Spells (chars ++ [c]) := by
  have noHigh : (decide (0xD800 ≤ c.toNat) && decide (c.toNat < 0xDC00)) = false := by
    rw [decide_eq_false (by omega), Bool.false_and]
  have noLow : (decide (0xDC00 ≤ c.toNat) && decide (c.toNat < 0xE000)) = false := by
    rw [decide_eq_false (by omega), Bool.false_and]
  have pushed : draft.pushUnit c.toNat = draft.pushChar c := by
    obtain ⟨bytes, high, sound⟩ := draft
    obtain rfl : high = none := spells.high
    simp only [TextDraft.pushUnit, noHigh, noLow, Char.ofNat_toNat, Bool.not_false, Bool.and_true]
    rfl
  rw [pushed]
  exact spells.pushChar c

theorem Spells.value? {draft : TextDraft} {text : String} (spells : draft.Spells text.toList) :
    draft.value? = some text := by
  rw [TextDraft.value?, spells.sound, spells.high]
  exact Utf8.fromUTF8?_of_encode (by rw [spells.bytes, Utf8.encode_toList])

end TextDraft

namespace Lexer

theorem run?_plainBytes {bytes : List UInt8}
    (plain : ∀ byte ∈ bytes, byte ≠ 0x22 ∧ byte ≠ 0x5C ∧ ¬ byte < 0x20) {draft : TextDraft}
    (high : draft.high = none) (sound : draft.sound = true) (reversed : List Token) :
    ∃ longer, run? ⟨reversed, .text draft⟩ bytes = some ⟨reversed, .text longer⟩ ∧
      Packed.toList longer.bytes = Packed.toList draft.bytes ++ bytes ∧
      longer.high = none ∧ longer.sound = true := by
  induction bytes generalizing draft with
  | nil => exact ⟨draft, rfl, by simp, high, sound⟩
  | cons byte rest ih =>
    obtain ⟨noQuote, noEscape, noControl⟩ := plain byte List.mem_cons_self
    obtain ⟨longer, read, spelled, kept⟩ :=
      ih (fun other inside => plain other (List.mem_cons_of_mem _ inside))
        (show (draft.pushByte byte).high = none from rfl)
        (show (draft.pushByte byte).sound = true by simp [TextDraft.pushByte, high, sound])
    refine ⟨longer, ?_, ?_, kept⟩
    · rw [run?]
      simp only [step, if_neg noQuote, if_neg noEscape, if_neg noControl]
      exact read
    · rw [spelled, TextDraft.pushByte, Packed.toList_push, List.append_assoc]
      rfl

theorem plain_of_mem_encodeChar {c : Char} (plain : isPlain c = true) {byte : UInt8}
    (inside : byte ∈ String.utf8EncodeChar c) :
    byte ≠ 0x22 ∧ byte ≠ 0x5C ∧ ¬ byte < 0x20 := by
  have value : byte.toNat ≠ 0x22 ∧ byte.toNat ≠ 0x5C ∧ ¬ byte.toNat < 0x20 := by
    by_cases small : c.toNat < 0x80
    · rw [Utf8.encodeChar_of_ascii small, List.mem_singleton] at inside
      simp only [isPlain, Bool.and_eq_true, decide_eq_true_eq] at plain
      rw [inside, UInt8.toNat_ofNat']
      omega
    · have := Utf8.high_of_mem_encodeChar (by omega) inside
      omega
  refine ⟨?_, ?_, fun less => value.2.2 (UInt8.lt_iff_toNat_lt.mp less)⟩
  · intro same
    subst same
    exact value.1 rfl
  · intro same
    subst same
    exact value.2.1 rfl

theorem run?_escape {c : Char} {escape : String} (escaped : escape? c = some escape)
    (draft : TextDraft) (reversed : List Token) :
    c.toNat < 0xD800 ∧ run? ⟨reversed, .text draft⟩ (Utf8.encode escape) =
      some ⟨reversed, .text (draft.pushUnit c.toNat)⟩ := by
  rw [escape?] at escaped
  split at escaped
  · contradiction
  · next special =>
    simp only [isPlain, Bool.and_eq_true, decide_eq_true_eq] at special
    generalize c.toNat = n at *
    refine ⟨by omega, ?_⟩
    split at escaped
    · next same => cases escaped; rw [same]; rfl
    · split at escaped
      · next same => cases escaped; rw [same]; rfl
      · have control : n < 0x20 := by omega
        interval_cases n <;> cases escaped <;> rfl

theorem run?_char {draft : TextDraft} {chars : List Char} (spells : draft.Spells chars) (c : Char)
    (reversed : List Token) :
    ∃ longer, run? ⟨reversed, .text draft⟩ (charBytes c) = some ⟨reversed, .text longer⟩ ∧
      longer.Spells (chars ++ [c]) := by
  rw [charBytes]
  cases escaped : escape? c with
  | some escape =>
    obtain ⟨low, read⟩ := run?_escape escaped draft reversed
    exact ⟨_, read, spells.pushUnit low⟩
  | none =>
    have plain : isPlain c = true := by
      apply Classical.byContradiction
      intro special
      simp only [escape?, special] at escaped
      grind
    obtain ⟨longer, read, spelled, high, sound⟩ :=
      run?_plainBytes (fun _ => plain_of_mem_encodeChar plain) spells.high spells.sound reversed
    refine ⟨longer, read, ?_, high, sound⟩
    rw [spelled, spells.bytes, List.flatMap_append, List.flatMap_singleton]

theorem run?_chars {draft : TextDraft} {before : List Char} (spells : draft.Spells before)
    (chars : List Char) (reversed : List Token) :
    ∃ longer, run? ⟨reversed, .text draft⟩ (chars.flatMap charBytes) =
        some ⟨reversed, .text longer⟩ ∧ longer.Spells (before ++ chars) := by
  induction chars generalizing draft before with
  | nil => exact ⟨draft, rfl, by rwa [List.append_nil]⟩
  | cons c chars ih =>
    obtain ⟨next, read, further⟩ := run?_char spells c reversed
    obtain ⟨longer, rest, spelled⟩ := ih further
    refine ⟨longer, ?_, by rwa [List.append_assoc] at spelled⟩
    rw [List.flatMap_cons, run?_append, read, Option.bind_some, rest]

end Lexer

theorem Token.bytes_text (text : String) :
    (Token.literal (.text (some text))).bytes =
      0x22 :: (text.toList.flatMap charBytes ++ [0x22]) := by
  rw [Token.bytes, Token.pieces, Literal.pieces, TextPieces.ofText, List.flatMap_append,
    List.flatMap_append, TextPieces.encode_inside]
  rfl

theorem lexes_text (text : String) :
    Lexes true true (Token.literal (.text (some text))).bytes [.literal (.text (some text))] := by
  rintro lexer reversed rfl
  obtain ⟨draft, read, spells⟩ := Lexer.run?_chars TextDraft.spells_empty text.toList reversed
  refine ⟨_, ?_, rfl⟩
  rw [Token.bytes_text, Lexer.run?]
  change Lexer.run? ⟨reversed, .text .empty⟩ _ = _
  rw [Lexer.run?_append, read, Option.bind_some, Lexer.run?_singleton]
  simp only [Lexer.step, if_true, spells.value?]
  rfl

end Journal
