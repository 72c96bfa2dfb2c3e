import Journal.Proofs.Json.Legible
import Journal.Proofs.Json.Structure
import Journal.Proofs.Json.Texts

set_option autoImplicit false

namespace Journal

def Token.bytesOf (tokens : List Token) : List UInt8 := tokens.flatMap Token.bytes

theorem Lexes.cons {a b c : Bool} {token : Token} {tokens : List Token}
    (first : Lexes a b token.bytes [token]) (further : Lexes b c (Token.bytesOf tokens) tokens) :
    Lexes a c (Token.bytesOf (token :: tokens)) (token :: tokens) := first.append further

theorem Lexes.mark {a c : Bool} {token : Token} {tokens : List Token}
    (further : Lexes true c (Token.bytesOf tokens) tokens)
    (mark : ∀ value, token ≠ .literal value := by exact nofun) :
    Lexes a c (Token.bytesOf (token :: tokens)) (token :: tokens) :=
  .cons (.of_not_fresh (lexes_mark mark)) further

theorem lexes_literal {value : Literal} (writable : value.isWritable = true) :
    Lexes true false (Token.literal value).bytes [.literal value] := by
  cases value with
  | null =>
    have spelled : (Token.literal .null).bytes = [0x6E, 0x75, 0x6C, 0x6C] := rfl
    exact (lexes_word spelled (fun _ => rfl) nofun).weaken
  | bool value =>
    cases value with
    | true =>
      have spelled : (Token.literal (.bool true)).bytes = [0x74, 0x72, 0x75, 0x65] := rfl
      exact (lexes_word spelled (fun _ => rfl) nofun).weaken
    | false =>
      have spelled : (Token.literal (.bool false)).bytes = [0x66, 0x61, 0x6C, 0x73, 0x65] := rfl
      exact (lexes_word spelled (fun _ => rfl) nofun).weaken
  | int value => exact lexes_int (of_decide_eq_true writable)
  | real finite => contradiction
  | text value =>
    cases value with
    | none => contradiction
    | some text => exact (lexes_text text).weaken

theorem lexes_key {key : Option String} (known : key.isSome = true) :
    Lexes true true (Token.literal (.text key)).bytes [.literal (.text key)] := by
  cases key with
  | none => contradiction
  | some name => exact lexes_text name

namespace Json

mutual

theorem lexes_value {levels : Nat} {json : Json} (writable : Writable levels json)
    {rest : List Token}
    (further : Lexes false false (Token.bytesOf rest) rest) :
    Lexes true false (Token.bytesOf (json.tokensBefore rest)) (json.tokensBefore rest) := by
  -- What comes after a value has to end a number.
  cases json with
  | literal value =>
    rw [tokensBefore]
    cases writable with
    | literal writable => exact .cons (lexes_literal writable) further
  | array items =>
    rw [tokensBefore]
    cases writable with
    | array each => exact .mark (lexes_items each (.mark further.of_not_fresh))
  | object members =>
    rw [tokensBefore]
    cases writable with
    | object keys each => exact .mark (lexes_members keys each (.mark further.of_not_fresh))

theorem lexes_items {levels : Nat} {items : List Json} (each : ∀ item ∈ items, Writable levels item)
    {rest : List Token}
    (further : Lexes false false (Token.bytesOf rest) rest) :
    Lexes true false (Token.bytesOf (itemTokens items rest)) (itemTokens items rest) := by
  match items with
  | [] => rw [itemTokens]; exact further.of_not_fresh
  | item :: items =>
    rw [itemTokens]
    exact lexes_value (each item List.mem_cons_self)
      (lexes_laterItems (fun other inside => each other (List.mem_cons_of_mem _ inside)) further)

theorem lexes_laterItems {levels : Nat} {items : List Json}
    (each : ∀ item ∈ items, Writable levels item)
    {rest : List Token}
    (further : Lexes false false (Token.bytesOf rest) rest) :
    Lexes false false (Token.bytesOf (laterItemTokens items rest)) (laterItemTokens items rest) := by
  match items with
  | [] => rw [laterItemTokens]; exact further
  | item :: items =>
    rw [laterItemTokens]
    exact .mark (lexes_value (each item List.mem_cons_self)
      (lexes_laterItems (fun other inside => each other (List.mem_cons_of_mem _ inside)) further))

theorem lexes_members {levels : Nat} {members : Members}
    (keys : ∀ member ∈ members, member.1.isSome = true)
    (each : ∀ member ∈ members, Writable levels member.2)
    {rest : List Token}
    (further : Lexes false false (Token.bytesOf rest) rest) :
    Lexes true false (Token.bytesOf (memberTokens members rest)) (memberTokens members rest) := by
  match members with
  | [] => rw [memberTokens]; exact further.of_not_fresh
  | (key, value) :: members =>
    rw [memberTokens]
    exact .cons (lexes_key (keys (key, value) List.mem_cons_self))
      (.mark (lexes_value (each (key, value) List.mem_cons_self)
        (lexes_laterMembers (fun other inside => keys other (List.mem_cons_of_mem _ inside))
          (fun other inside => each other (List.mem_cons_of_mem _ inside)) further)))

theorem lexes_laterMembers {levels : Nat} {members : Members}
    (keys : ∀ member ∈ members, member.1.isSome = true)
    (each : ∀ member ∈ members, Writable levels member.2)
    {rest : List Token}
    (further : Lexes false false (Token.bytesOf rest) rest) :
    Lexes false false (Token.bytesOf (laterMemberTokens members rest))
      (laterMemberTokens members rest) := by
  match members with
  | [] => rw [laterMemberTokens]; exact further
  | (key, value) :: members =>
    rw [laterMemberTokens]
    exact .mark (.cons (lexes_key (keys (key, value) List.mem_cons_self))
      (.mark (lexes_value (each (key, value) List.mem_cons_self)
        (lexes_laterMembers (fun other inside => keys other (List.mem_cons_of_mem _ inside))
          (fun other inside => each other (List.mem_cons_of_mem _ inside)) further))))

end

theorem parse?_of_lexes {bytes : List UInt8} {json : Json} (read : Lexes true false bytes json.tokens) :
    parse? bytes = some json := by
  obtain ⟨next, run, reached⟩ := read .start [] rfl
  have scanned : Token.scan? bytes = some json.tokens := by
    rw [Token.scan?, run]
    change next.finish? = _
    rw [reached.finish?, List.append_nil, List.reverse_reverse]
  rw [parse?, scanned]
  exact ofTokens?_tokens json

end Json

end Journal
