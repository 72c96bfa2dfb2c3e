import Mathlib.Tactic.IntervalCases
import Journal.Json.Printer
import Journal.Json.Progress
import Journal.Proofs.Json.Numeral

set_option autoImplicit false

namespace Journal

def Token.bytes (token : Token) : List UInt8 := token.pieces.flatMap Utf8.encode

namespace Lexer

/-- A lexer that has read the tokens in `reversed`. If it need not be fresh, the last of them may be a
number that its next byte ends. -/
def At : (fresh : Bool) → Lexer → (reversed : List Token) → Prop
  | true, lexer, reversed => lexer = ⟨reversed, .between⟩
  | false, lexer, reversed => lexer = ⟨reversed, .between⟩ ∨
    ∃ before numeral, lexer = ⟨before, .number numeral⟩ ∧ numeral.isPlain = true ∧
      reversed = .literal numeral.literal :: before

theorem At.weaken {fresh : Bool} {lexer : Lexer} {reversed : List Token}
    (reached : At fresh lexer reversed) : At false lexer reversed := by
  cases fresh with
  | false => exact reached
  | true => exact .inl reached

theorem At.finish? {fresh : Bool} {lexer : Lexer} {reversed : List Token}
    (reached : At fresh lexer reversed) : lexer.finish? = some reversed.reverse := by
  rcases reached.weaken with rfl | ⟨before, numeral, rfl, plain, rfl⟩
  · rfl
  · have complete : numeral.isComplete = true := by
      simp only [Numeral.isPlain, Bool.or_eq_true, decide_eq_true_eq] at plain
      rcases plain with place | place <;> rw [Numeral.isComplete, place]
    exact if_pos complete

theorem run?_singleton (lexer : Lexer) (byte : UInt8) : lexer.run? [byte] = lexer.step byte := by
  rw [run?]
  cases lexer.step byte <;> rfl

end Lexer

def Lexes (fresh fresh' : Bool) (bytes : List UInt8) (tokens : List Token) : Prop :=
  ∀ lexer reversed, Lexer.At fresh lexer reversed →
    ∃ next, lexer.run? bytes = some next ∧ Lexer.At fresh' next (tokens.reverse ++ reversed)

namespace Lexes

variable {a b c : Bool}

theorem nil : Lexes a a [] [] := fun lexer _ reached => ⟨lexer, rfl, reached⟩

theorem append {first second : List UInt8} {tokens others : List Token}
    (read : Lexes a b first tokens) (further : Lexes b c second others) :
    Lexes a c (first ++ second) (tokens ++ others) := by
  intro lexer reversed reached
  obtain ⟨next, run, there⟩ := read lexer reversed reached
  obtain ⟨last, run', beyond⟩ := further next _ there
  refine ⟨last, ?_, ?_⟩
  · rw [Lexer.run?_append, run, Option.bind_some, run']
  · rwa [List.reverse_append, List.append_assoc]

theorem of_not_fresh {bytes : List UInt8} {tokens : List Token} (read : Lexes false b bytes tokens) :
    Lexes a b bytes tokens :=
  fun lexer reversed reached => read lexer reversed reached.weaken

theorem weaken {bytes : List UInt8} {tokens : List Token} (read : Lexes a b bytes tokens) :
    Lexes a false bytes tokens := by
  intro lexer reversed reached
  obtain ⟨next, run, there⟩ := read lexer reversed reached
  exact ⟨next, run, there.weaken⟩

end Lexes

def endsNumber (byte : UInt8) : Bool :=
  (Numeral.digit? byte).isNone && byte != 0x2E && !Numeral.isMark byte

namespace Lexer

theorem extend_of_endsNumber {numeral : Numeral} (complete : numeral.isComplete = true) {byte : UInt8}
    (ends : endsNumber byte = true) : numeral.extend byte = none := by
  simp only [endsNumber, Bool.and_eq_true, Option.isNone_iff_eq_none, bne_iff_ne,
    Bool.not_eq_true'] at ends
  obtain ⟨⟨noDigit, noPoint⟩, noMark⟩ := ends
  rw [Numeral.isComplete] at complete
  split at complete <;> first
    | contradiction
    | next place =>
      simp [Numeral.extend, Numeral.pushWhole, Numeral.pushFraction, Numeral.pushExponent, place,
        noPoint, noMark, noDigit]

theorem step_of_finished {lexer : Lexer} {tokens : List Token}
    (finished : lexer.finish? = some tokens) {byte : UInt8} (ends : endsNumber byte = true) :
    lexer.step byte = step ⟨tokens.reverse, .between⟩ byte := by
  obtain ⟨reversed, place⟩ := lexer
  simp only [finish?] at finished
  split at finished
  · obtain rfl := Option.some.inj finished
    rw [List.reverse_reverse]
  · next numeral =>
    split at finished
    · next complete =>
      obtain rfl := Option.some.inj finished
      rw [List.reverse_reverse]
      simp only [step, extend_of_endsNumber complete ends, complete, if_true]
      rfl
    · contradiction
  · contradiction

theorem step_of_endsNumber {lexer : Lexer} {reversed : List Token} {byte : UInt8}
    (reached : At false lexer reversed) (ends : endsNumber byte = true) :
    lexer.step byte = between ⟨reversed, .between⟩ byte := by
  rw [step_of_finished reached.finish? ends, List.reverse_reverse]
  rfl

end Lexer

theorem lexes_byte {byte : UInt8} {tokens : List Token} (ends : endsNumber byte = true)
    (read : ∀ reversed,
      Lexer.between ⟨reversed, .between⟩ byte = some ⟨tokens.reverse ++ reversed, .between⟩) :
    Lexes false true [byte] tokens := by
  intro lexer reversed reached
  refine ⟨⟨tokens.reverse ++ reversed, .between⟩, ?_, rfl⟩
  rw [Lexer.run?_singleton, Lexer.step_of_endsNumber reached ends, read]

theorem lexes_blank {byte : UInt8} (blank : Lexer.isBlank byte = true) :
    Lexes false true [byte] [] := by
  simp only [Lexer.isBlank, Bool.or_eq_true, beq_iff_eq] at blank
  rcases blank with ((rfl | rfl) | rfl) | rfl <;> exact lexes_byte (by decide) fun _ => rfl

theorem lexes_blanks {fresh : Bool} {bytes : List UInt8} (some : bytes ≠ [])
    (blank : bytes.all Lexer.isBlank = true) : Lexes fresh true bytes [] := by
  induction bytes generalizing fresh with
  | nil => contradiction
  | cons byte rest ih =>
    rw [List.all_cons, Bool.and_eq_true] at blank
    have first : Lexes fresh true [byte] [] := (lexes_blank blank.1).of_not_fresh
    cases rest with
    | nil => exact first
    | cons next rest => exact first.append (ih nofun blank.2)

theorem lexes_mark {token : Token} (mark : ∀ value, token ≠ .literal value) :
    Lexes false true token.bytes [token] := by
  cases token with
  | literal value => exact absurd rfl (mark value)
  | _ => exact lexes_byte (by decide) fun _ => rfl

theorem lexes_word {value : Literal} {first : UInt8} {rest : List UInt8}
    (spelled : (Token.literal value).bytes = first :: rest)
    (opens : ∀ reversed, Lexer.between ⟨reversed, .between⟩ first =
      some ⟨reversed, .word rest value⟩) (long : rest ≠ []) :
    Lexes true true (Token.literal value).bytes [.literal value] := by
  have word (rest : List UInt8) (long : rest ≠ []) (reversed : List Token) :
      Lexer.run? ⟨reversed, .word rest value⟩ rest =
        some ⟨.literal value :: reversed, .between⟩ := by
    induction rest with
    | nil => contradiction
    | cons byte rest ih =>
      rw [Lexer.run?]
      cases rest with
      | nil => simp [Lexer.step, Lexer.run?]
      | cons next rest => simpa [Lexer.step] using ih (by simp)
  rintro lexer reversed rfl
  refine ⟨_, ?_, rfl⟩
  rw [spelled, Lexer.run?]
  simp only [Lexer.step, opens, word rest long]
  rfl

theorem Lexer.run?_number {numeral longer : Numeral} {bytes : List UInt8}
    (extended : numeral.extendAll? bytes = some longer) (reversed : List Token) :
    run? ⟨reversed, .number numeral⟩ bytes = some ⟨reversed, .number longer⟩ := by
  induction bytes generalizing numeral with
  | nil => cases extended; rfl
  | cons byte rest ih =>
    rw [Numeral.extendAll?, List.foldlM_cons] at extended
    cases next : numeral.extend byte with
    | none => simp [next] at extended
    | some further =>
      rw [next] at extended
      rw [run?]
      simp only [step, next]
      exact ih extended

theorem Lexer.between_digitByte (reversed : List Token) {d : Nat} (small : d < 10) :
    between ⟨reversed, .between⟩ (digitByte d) =
      ((Numeral.empty false).extend (digitByte d)).map fun numeral => ⟨reversed, .number numeral⟩ := by
  interval_cases d <;> rfl

theorem Token.bytes_ofNat (n : Nat) : (Token.literal (.int (.ofNat n))).bytes = digitBytes n :=
  List.append_nil _

theorem Token.bytes_negSucc (n : Nat) :
    (Token.literal (.int (.negSucc n))).bytes = 0x2D :: digitBytes (n + 1) := by
  change Utf8.encode ("-" ++ toString (n + 1)) ++ [] = _
  rw [List.append_nil, Utf8.encode_append]
  rfl

theorem lexes_int {value : Int} (small : value.natAbs < 2 ^ 64) :
    Lexes true false (Token.literal (.int value)).bytes [.literal (.int value)] := by
  rintro lexer reversed rfl
  cases value with
  | ofNat n =>
    rw [Int.natAbs_ofNat'] at small
    obtain ⟨numeral, read, plain, same⟩ := Numeral.extendAll?_digitBytes small
    refine ⟨⟨reversed, .number numeral⟩, ?_, .inr ⟨reversed, numeral, rfl, plain, by rw [same]; rfl⟩⟩
    obtain ⟨d, digit, rest, first⟩ := digitBytes_eq_cons n
    rw [Token.bytes_ofNat, first, Lexer.run?]
    rw [first, Numeral.extendAll?, List.foldlM_cons] at read
    simp only [Lexer.step, Lexer.between_digitByte reversed digit]
    cases next : (Numeral.empty false).extend (digitByte d) with
    | none => simp [next] at read
    | some further =>
      rw [next] at read
      exact Lexer.run?_number read reversed
  | negSucc n =>
    obtain ⟨numeral, read, plain, same⟩ := Numeral.extendAll?_negative (Nat.succ_pos n) small
    refine ⟨⟨reversed, .number numeral⟩, ?_, .inr ⟨reversed, numeral, rfl, plain, by rw [same]; rfl⟩⟩
    rw [Token.bytes_negSucc, Lexer.run?]
    exact Lexer.run?_number read reversed

end Journal
