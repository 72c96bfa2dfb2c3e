import Journal.Proofs.Json.Lexemes
import Journal.Proofs.Json.Structure
import Mathlib.Data.List.Chain

set_option autoImplicit false

namespace Journal

/-- Bytes that are the tokens one after the other. Blanks may stand anywhere but inside a token. -/
inductive Spelled : List Token → List UInt8 → Prop
  | done : Spelled [] []
  | blank {byte : UInt8} {tokens : List Token} {rest : List UInt8}
    (blank : Lexer.isBlank byte = true) (further : Spelled tokens rest) : Spelled tokens (byte :: rest)
  | mark {token : Token} {tokens : List Token} {rest : List UInt8}
    (mark : ∀ value, token ≠ .literal value) (further : Spelled tokens rest) :
    Spelled (token :: tokens) (token.bytes ++ rest)
  | literal {value : Literal} {tokens : List Token} {spelling rest : List UInt8}
    (alone : Token.scan? spelling = some [.literal value]) (further : Spelled tokens rest) :
    Spelled (.literal value :: tokens) (spelling ++ rest)

theorem Spelled.append {first second : List Token} {bytes more : List UInt8}
    (spelled : Spelled first bytes) (further : Spelled second more) :
    Spelled (first ++ second) (bytes ++ more) := by
  induction spelled with
  | done => exact further
  | blank blank _ ih => exact .blank blank ih
  | mark mark _ ih =>
    rw [List.cons_append, List.append_assoc]
    exact .mark mark ih
  | literal alone _ ih =>
    rw [List.cons_append, List.append_assoc]
    exact .literal alone ih

theorem spelled_literal {value : Literal} {spelling : List UInt8}
    (alone : Token.scan? spelling = some [.literal value]) : Spelled [.literal value] spelling := by
  rw [← List.append_nil spelling]
  exact .literal alone .done

def Token.Apart (first second : Token) : Prop :=
  ∀ value other, first = .literal value → second ≠ .literal other

theorem Spelled.endsNumber {tokens : List Token} {bytes : List UInt8} (spelled : Spelled tokens bytes)
    (apart : ∀ value, tokens.head? ≠ some (.literal value)) :
    ∀ byte ∈ bytes.head?, endsNumber byte = true := by
  cases spelled with
  | done => nofun
  | blank blank =>
    rintro byte ⟨⟩
    simp only [Lexer.isBlank, Bool.or_eq_true, beq_iff_eq] at blank
    rcases blank with ((rfl | rfl) | rfl) | rfl <;> rfl
  | @mark token _ _ mark =>
    cases token with
    | literal value => exact absurd rfl (mark value)
    | _ =>
      rintro byte ⟨⟩
      rfl
  | literal => exact absurd rfl (apart _)

namespace Lexer

theorem finish?_run? (reversed : List Token) (bytes : List UInt8) :
    (run? ⟨reversed, .between⟩ bytes).bind finish? =
      (Token.scan? bytes).map (reversed.reverse ++ ·) := by
  rw [run?_eq, Token.scan?]
  change _ = ((run? ⟨[], .between⟩ bytes).bind finish?).map _
  cases run? ⟨[], .between⟩ bytes with
  | none => rfl
  | some lexer =>
    rw [Option.map_some, Option.bind_some, Option.bind_some, finish?_eq, finish?_eq lexer]
    simp [after, Function.comp_def]

end Lexer

namespace Token

theorem scan?_append_of_run? {first : List UInt8} {reversed : List Token}
    (run : Lexer.start.run? first = some ⟨reversed, .between⟩) (second : List UInt8) :
    scan? (first ++ second) = (scan? second).map (reversed.reverse ++ ·) := by
  rw [← Lexer.finish?_run?, scan?, Lexer.run?_append, run]
  rfl

theorem scan?_append {first second : List UInt8} {tokens : List Token}
    (read : scan? first = some tokens) (ends : ∀ byte ∈ second.head?, endsNumber byte = true) :
    scan? (first ++ second) = (scan? second).map (tokens ++ ·) := by
  cases second with
  | nil => rw [List.append_nil, read, scan?]; exact congrArg some (List.append_nil _).symm
  | cons byte rest =>
    obtain ⟨lexer, run, finished⟩ := Option.bind_eq_some_iff.mp read
    have same : lexer.run? (byte :: rest) =
        Lexer.run? ⟨tokens.reverse, .between⟩ (byte :: rest) := by
      rw [Lexer.run?, Lexer.run?, Lexer.step_of_finished finished (ends byte rfl)]
    have onward := Lexer.finish?_run? tokens.reverse (byte :: rest)
    rw [List.reverse_reverse] at onward
    rw [← onward, ← same, scan?, Lexer.run?_append, run]
    rfl

theorem scan?_of_spelled {tokens : List Token} {bytes : List UInt8} (spelled : Spelled tokens bytes)
    (apart : tokens.IsChain Apart) : scan? bytes = some tokens := by
  induction spelled with
  | done => rfl
  | @blank byte tokens rest blank further ih =>
    obtain ⟨lexer, run, rfl⟩ := lexes_blank blank .start [] (.inl rfl)
    rw [← List.singleton_append, scan?_append_of_run? run, ih apart]
    rfl
  | @mark token tokens rest mark further ih =>
    obtain ⟨lexer, run, rfl⟩ := lexes_mark mark .start [] (.inl rfl)
    rw [scan?_append_of_run? run, ih apart.tail]
    rfl
  | @literal value tokens spelling rest alone further ih =>
    have ends := further.endsNumber fun other first => by
      cases tokens with
      | nil => contradiction
      | cons token tokens =>
        exact (List.isChain_cons_cons.mp apart).1 value other rfl (Option.some.inj first)
    rw [scan?_append alone ends, ih apart.tail]
    rfl

end Token

namespace Lexer

/-- A lexer behind `bytes`: what it has emitted is spelled by the first of them, and the others are a
token that has begun. -/
def Behind (lexer : Lexer) (bytes : List UInt8) : Prop :=
  ∃ front back, bytes = front ++ back ∧ Spelled lexer.reversed.reverse front ∧
    start.run? back = some ⟨[], lexer.place⟩ ∧ (lexer.place = .between → back = [])

theorem behind_start : start.Behind [] := ⟨[], [], rfl, .done, rfl, fun _ => rfl⟩

theorem between_start {byte : UInt8} {lexer : Lexer}
    (stepped : between start byte = some lexer) :
    lexer.reversed = [] ∧ lexer.place ≠ .between ∨
      lexer.place = .between ∧ Spelled lexer.reversed.reverse [byte] := by
  have mark {token : Token} (mark : ∀ value, token ≠ .literal value) (spelled : token.bytes = [byte]) :
      Spelled [token] [byte] := by
    rw [← spelled, ← List.append_nil token.bytes]
    exact .mark mark .done
  unfold between at stepped
  split at stepped
  case h_12 =>
    split at stepped
    · next blank =>
      obtain rfl := Option.some.inj stepped
      exact .inr ⟨rfl, .blank blank .done⟩
    · obtain ⟨numeral, -, rfl⟩ := Option.map_eq_some_iff.mp stepped
      exact .inl ⟨rfl, nofun⟩
  all_goals obtain rfl := Option.some.inj stepped
  all_goals first
    | exact .inl ⟨rfl, nofun⟩
    | exact .inr ⟨rfl, mark nofun rfl⟩

theorem behind_between {reversed : List Token} {bytes : List UInt8} {byte : UInt8} {next : Lexer}
    (spelled : Spelled reversed.reverse bytes)
    (stepped : between ⟨reversed, .between⟩ byte = some next) : next.Behind (bytes ++ [byte]) := by
  rw [between_eq] at stepped
  obtain ⟨⟨found, place⟩, first, rfl⟩ := Option.map_eq_some_iff.mp stepped
  rcases between_start first with ⟨rfl, begun⟩ | ⟨rfl, complete⟩
  · refine ⟨bytes, [byte], rfl, spelled, ?_, fun done => absurd done begun⟩
    rw [run?_singleton]
    exact first
  · refine ⟨bytes ++ [byte], [], (List.append_nil _).symm, ?_, rfl, fun _ => rfl⟩
    rw [after, List.reverse_append]
    exact spelled.append complete

theorem run?_snoc {bytes : List UInt8} {place : LexerPlace}
    (run : start.run? bytes = some ⟨[], place⟩) (byte : UInt8) :
    start.run? (bytes ++ [byte]) = step ⟨[], place⟩ byte := by
  rw [run?_append, run, Option.bind_some, run?_singleton]

theorem step_inside {place : LexerPlace} (inside : place ≠ .between) {byte : UInt8} {lexer : Lexer}
    (stepped : step ⟨[], place⟩ byte = some lexer) :
    (lexer.reversed = [] ∧ lexer.place ≠ .between) ∨
      (∃ value, lexer = ⟨[.literal value], .between⟩) ∨
      ∃ value, finish? ⟨[], place⟩ = some [.literal value] ∧
        between ⟨[.literal value], .between⟩ byte = some lexer := by
  cases place with
  | between => contradiction
  | text draft =>
    simp only [step] at stepped
    split at stepped
    · exact .inr (.inl ⟨_, (Option.some.inj stepped).symm⟩)
    · split at stepped
      · obtain rfl := Option.some.inj stepped
        exact .inl ⟨rfl, by rintro ⟨⟩⟩
      · split at stepped
        · contradiction
        · obtain rfl := Option.some.inj stepped
          exact .inl ⟨rfl, by rintro ⟨⟩⟩
  | escape draft =>
    simp only [step] at stepped
    split at stepped
    · obtain rfl := Option.some.inj stepped
      exact .inl ⟨rfl, by rintro ⟨⟩⟩
    · obtain ⟨unit, -, rfl⟩ := Option.map_eq_some_iff.mp stepped
      exact .inl ⟨rfl, by rintro ⟨⟩⟩
  | unit draft missing value =>
    obtain ⟨digit, -, stepped⟩ := Option.bind_eq_some_iff.mp stepped
    dsimp only at stepped
    split at stepped <;> obtain rfl := Option.some.inj stepped <;> exact .inl ⟨rfl, by rintro ⟨⟩⟩
  | number numeral =>
    simp only [step] at stepped
    split at stepped
    · obtain rfl := Option.some.inj stepped
      exact .inl ⟨rfl, by rintro ⟨⟩⟩
    · split at stepped
      · next complete =>
        exact .inr (.inr ⟨numeral.literal, if_pos complete, stepped⟩)
      · contradiction
  | word rest value =>
    cases rest with
    | nil => contradiction
    | cons expected rest =>
      simp only [step] at stepped
      split at stepped
      · contradiction
      · split at stepped
        · exact .inr (.inl ⟨_, (Option.some.inj stepped).symm⟩)
        · obtain rfl := Option.some.inj stepped
          exact .inl ⟨rfl, by rintro ⟨⟩⟩

theorem Behind.step {lexer next : Lexer} {bytes : List UInt8} (behind : lexer.Behind bytes)
    {byte : UInt8} (stepped : lexer.step byte = some next) : next.Behind (bytes ++ [byte]) := by
  obtain ⟨reversed, place⟩ := lexer
  obtain ⟨front, back, rfl, spelled, run, idle⟩ := behind
  by_cases resting : place = .between
  · obtain rfl := resting
    rw [idle rfl, List.append_nil]
    exact behind_between spelled stepped
  rw [step_eq] at stepped
  obtain ⟨⟨found, place'⟩, first, rfl⟩ := Option.map_eq_some_iff.mp stepped
  have ran := (run?_snoc run byte).trans first
  rcases step_inside resting first with ⟨rfl, begun⟩ | ⟨value, ended⟩ | ⟨value, finished, onward⟩
  · exact ⟨front, back ++ [byte], List.append_assoc .., spelled, ran,
      fun done => absurd done begun⟩
  · obtain ⟨rfl, rfl⟩ := Lexer.mk.inj ended
    have alone : Token.scan? (back ++ [byte]) = some [.literal value] := by
      rw [Token.scan?, ran]
      rfl
    refine ⟨front ++ (back ++ [byte]), [], by simp, ?_, rfl, fun _ => rfl⟩
    rw [after, List.reverse_append]
    exact spelled.append (spelled_literal alone)
  · have alone : Token.scan? back = some [.literal value] := by
      rw [Token.scan?, run]
      exact finished
    have resumed : between ⟨.literal value :: reversed, .between⟩ byte =
        some (after ⟨found, place'⟩ reversed) := by
      rw [between_eq] at onward ⊢
      obtain ⟨fresh, began, same⟩ := Option.map_eq_some_iff.mp onward
      rw [began, ← same]
      simp [after]
    refine behind_between ?_ resumed
    rw [List.reverse_cons]
    exact spelled.append (spelled_literal alone)

theorem Behind.run {lexer next : Lexer} {bytes : List UInt8} (behind : lexer.Behind bytes)
    {more : List UInt8} (ran : lexer.run? more = some next) : next.Behind (bytes ++ more) := by
  induction more generalizing lexer bytes with
  | nil =>
    obtain rfl := Option.some.inj ran
    rwa [List.append_nil]
  | cons byte more ih =>
    rw [run?] at ran
    split at ran
    · next stepped =>
      rw [List.append_cons]
      exact ih (behind.step stepped) ran
    · contradiction

theorem Behind.finish {lexer : Lexer} {bytes : List UInt8} (behind : lexer.Behind bytes)
    {tokens : List Token} (finished : lexer.finish? = some tokens) : Spelled tokens bytes := by
  obtain ⟨reversed, place⟩ := lexer
  obtain ⟨front, back, rfl, spelled, run, idle⟩ := behind
  rw [finish?_eq] at finished
  obtain ⟨last, ended, rfl⟩ := Option.map_eq_some_iff.mp finished
  have scanned : Token.scan? back = some last := by
    rw [Token.scan?, run]
    exact ended
  refine spelled.append ?_
  cases place with
  | between =>
    obtain rfl := Option.some.inj ended
    rw [idle rfl]
    exact .done
  | number numeral =>
    simp only [finish?] at ended
    split at ended
    · obtain rfl := Option.some.inj ended
      exact spelled_literal scanned
    · contradiction
  | _ => contradiction

end Lexer

theorem spelled_of_scan? {tokens : List Token} {bytes : List UInt8}
    (read : Token.scan? bytes = some tokens) : Spelled tokens bytes := by
  obtain ⟨lexer, run, finished⟩ := Option.bind_eq_some_iff.mp read
  exact (Lexer.behind_start.run run).finish finished

namespace JsonReader

theorem step_literal {reader next : JsonReader} {value : Literal}
    (stepped : reader.step (.literal value) = some next) (other : Literal) :
    next.step (.literal other) = none := by
  obtain ⟨stack, expected⟩ := reader
  cases expected with
  | value | valueOrEnd =>
    obtain rfl := Option.some.inj stepped
    rfl
  | keyOrEnd | key =>
    simp only [step, readKey] at stepped
    split at stepped
    · obtain rfl := Option.some.inj stepped
      rfl
    · contradiction
  | colon | afterValue => contradiction

theorem apart_of_run {reader next : JsonReader} {tokens : List Token}
    (ran : reader.run? tokens = some next) : tokens.IsChain Token.Apart := by
  induction tokens generalizing reader with
  | nil => exact .nil
  | cons first tokens ih =>
    rw [run?] at ran
    split at ran
    · next middle stepped =>
      have further := ih ran
      cases tokens with
      | nil => exact .singleton first
      | cons second tokens =>
        refine .cons_cons ?_ further
        rintro value other rfl rfl
        rw [run?, step_literal stepped other] at ran
        contradiction
    · contradiction

end JsonReader

theorem Json.apart_tokens (json : Json) : json.tokens.IsChain Token.Apart := by
  obtain ⟨reader, ran, -⟩ := Option.bind_eq_some_iff.mp json.ofTokens?_tokens
  exact JsonReader.apart_of_run ran

/-- A text is read as the one value whose tokens it spells. -/
theorem Json.parse?_eq_some {bytes : List UInt8} {json : Json} :
    parse? bytes = some json ↔ Spelled json.tokens bytes := by
  constructor
  · intro parsed
    obtain ⟨tokens, scanned, read⟩ := Option.bind_eq_some_iff.mp parsed
    rw [← ofTokens?_eq_some.mp read]
    exact spelled_of_scan? scanned
  · intro spelled
    rw [parse?, Token.scan?_of_spelled spelled json.apart_tokens]
    exact json.ofTokens?_tokens

end Journal
