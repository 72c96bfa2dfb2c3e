import Journal.Json.Printer
import Journal.Json.Reader

set_option autoImplicit false

namespace Journal

namespace Json

mutual

theorem tokensBefore_append (json : Json) (rest more : List Token) :
    json.tokensBefore (rest ++ more) = json.tokensBefore rest ++ more := by
  cases json with
  | literal value => rfl
  | array items =>
    rw [tokensBefore, tokensBefore, List.cons_append, ← itemTokens_append, List.cons_append]
  | object members =>
    rw [tokensBefore, tokensBefore, List.cons_append, ← memberTokens_append, List.cons_append]

theorem itemTokens_append (items : List Json) (rest more : List Token) :
    itemTokens items (rest ++ more) = itemTokens items rest ++ more := by
  cases items with
  | nil => rfl
  | cons item items =>
    rw [itemTokens, itemTokens, ← tokensBefore_append, laterItemTokens_append]

theorem laterItemTokens_append (items : List Json) (rest more : List Token) :
    laterItemTokens items (rest ++ more) = laterItemTokens items rest ++ more := by
  cases items with
  | nil => rfl
  | cons item items =>
    rw [laterItemTokens, laterItemTokens, List.cons_append, ← tokensBefore_append,
      laterItemTokens_append]

theorem memberTokens_append (members : Members) (rest more : List Token) :
    memberTokens members (rest ++ more) = memberTokens members rest ++ more := by
  match members with
  | [] => rfl
  | (key, value) :: members =>
    rw [memberTokens, memberTokens, List.cons_append, List.cons_append, ← tokensBefore_append,
      laterMemberTokens_append]

theorem laterMemberTokens_append (members : Members) (rest more : List Token) :
    laterMemberTokens members (rest ++ more) = laterMemberTokens members rest ++ more := by
  match members with
  | [] => rfl
  | (key, value) :: members =>
    rw [laterMemberTokens, laterMemberTokens, List.cons_append, List.cons_append, List.cons_append,
      ← tokensBefore_append, laterMemberTokens_append]

end

theorem tokensBefore_eq (json : Json) (rest : List Token) :
    json.tokensBefore rest = json.tokens ++ rest := json.tokensBefore_append [] rest

end Json

namespace JsonReader

theorem run?_cons {reader next : JsonReader} {token : Token} (step : reader.step token = some next)
    (rest : List Token) : reader.run? (token :: rest) = next.run? rest := by
  rw [run?, step]

theorem run?_valueOrEnd (stack : List Frame) (json : Json) (rest : List Token) :
    run? ⟨stack, .valueOrEnd⟩ (json.tokensBefore rest) =
      run? ⟨stack, .value⟩ (json.tokensBefore rest) := by
  -- A value never starts with the bracket that would end its array.
  cases json <;> simp only [Json.tokensBefore] <;> rfl

mutual

theorem run?_value (stack : List Frame) (json : Json) (rest : List Token) :
    run? ⟨stack, .value⟩ (json.tokensBefore rest) = run? ⟨stack, .afterValue json⟩ rest := by
  cases json with
  | literal value => rw [Json.tokensBefore]; exact run?_cons rfl rest
  | array items =>
    rw [Json.tokensBefore]
    exact (run?_cons rfl _).trans (run?_items stack items rest)
  | object members =>
    rw [Json.tokensBefore]
    exact (run?_cons rfl _).trans (run?_members stack members rest)

theorem run?_items (stack : List Frame) (items : List Json) (rest : List Token) :
    run? ⟨.array [] :: stack, .valueOrEnd⟩ (Json.itemTokens items (.closeArray :: rest)) =
      run? ⟨stack, .afterValue (.array items)⟩ rest := by
  cases items with
  | nil => rw [Json.itemTokens]; exact run?_cons rfl rest
  | cons item items =>
    rw [Json.itemTokens, run?_valueOrEnd, run?_value]
    exact run?_laterItems stack [] item items rest

theorem run?_laterItems (stack : List Frame) (before : List Json) (item : Json) (items : List Json)
    (rest : List Token) :
    run? ⟨.array before :: stack, .afterValue item⟩
        (Json.laterItemTokens items (.closeArray :: rest)) =
      run? ⟨stack, .afterValue (.array (before.reverse ++ item :: items))⟩ rest := by
  cases items with
  | nil =>
    rw [Json.laterItemTokens, ← List.reverse_cons]
    exact run?_cons rfl rest
  | cons next items =>
    rw [Json.laterItemTokens, List.append_cons, ← List.reverse_cons]
    exact ((run?_cons rfl _).trans (run?_value _ next _)).trans
      (run?_laterItems stack (item :: before) next items rest)

theorem run?_members (stack : List Frame) (members : Members) (rest : List Token) :
    run? ⟨stack, .keyOrEnd⟩ (Json.memberTokens members (.closeObject :: rest)) =
      run? ⟨stack, .afterValue (.object members)⟩ rest := by
  match members with
  | [] => rw [Json.memberTokens]; exact run?_cons rfl rest
  | (key, value) :: members =>
    rw [Json.memberTokens]
    exact (((run?_cons rfl _).trans (run?_cons rfl _)).trans (run?_value _ value _)).trans
      (run?_laterMembers stack [] key value members rest)

theorem run?_laterMembers (stack : List Frame) (before : Members) (key : Option String)
    (value : Json) (members : Members) (rest : List Token) :
    run? ⟨.object before key :: stack, .afterValue value⟩
        (Json.laterMemberTokens members (.closeObject :: rest)) =
      run? ⟨stack, .afterValue (.object (before.reverse ++ (key, value) :: members))⟩ rest := by
  match members with
  | [] =>
    rw [Json.laterMemberTokens, ← List.reverse_cons]
    exact run?_cons rfl rest
  | (name, next) :: members =>
    rw [Json.laterMemberTokens, List.append_cons, ← List.reverse_cons]
    exact ((((run?_cons rfl _).trans (run?_cons rfl _)).trans (run?_cons rfl _)).trans
      (run?_value _ next _)).trans
      (run?_laterMembers stack ((key, value) :: before) name next members rest)

end

end JsonReader

theorem Json.ofTokens?_tokens (json : Json) : ofTokens? json.tokens = some json := by
  rw [ofTokens?, tokens, JsonReader.start, JsonReader.run?_value]
  rfl

namespace Json

def memberWithComma (member : Option String × Json) : List Token :=
  .literal (.text member.1) :: .colon :: (member.2.tokens ++ [.comma])

theorem itemTokens_concat (items : List Json) (last : Json) (rest : List Token) :
    itemTokens (items ++ [last]) rest =
      items.flatMap (fun item => item.tokens ++ [.comma]) ++ (last.tokens ++ rest) := by
  induction items with
  | nil =>
    rw [List.nil_append, itemTokens, laterItemTokens, tokensBefore_eq]
    rfl
  | cons item items ih =>
    have later : laterItemTokens (items ++ [last]) rest =
        .comma :: itemTokens (items ++ [last]) rest := by
      cases items <;> rfl
    rw [List.cons_append, itemTokens, later, tokensBefore_eq, ih, List.flatMap_cons]
    simp only [List.append_assoc, List.cons_append, List.nil_append]

theorem memberTokens_concat (members : Members) (key : Option String) (value : Json)
    (rest : List Token) :
    memberTokens (members ++ [(key, value)]) rest =
      members.flatMap memberWithComma ++
        (.literal (.text key) :: .colon :: (value.tokens ++ rest)) := by
  induction members with
  | nil =>
    rw [List.nil_append, memberTokens, laterMemberTokens, tokensBefore_eq]
    rfl
  | cons member members ih =>
    obtain ⟨name, first⟩ := member
    have later : laterMemberTokens (members ++ [(key, value)]) rest =
        .comma :: memberTokens (members ++ [(key, value)]) rest := by
      cases members <;> rfl
    rw [List.cons_append, memberTokens, later, tokensBefore_eq, ih, List.flatMap_cons]
    simp only [memberWithComma, List.append_assoc, List.cons_append, List.nil_append]

end Json

def Frame.read : Frame → List Token
  | .array items => .openArray :: items.reverse.flatMap fun item => item.tokens ++ [.comma]
  | .object members name =>
    .openObject :: (members.reverse.flatMap Json.memberWithComma ++ [.literal (.text name), .colon])

def Expectation.read : Expectation → List Token
  | .value | .valueOrEnd => []
  | .keyOrEnd => [.openObject]
  | .key members => .openObject :: members.reverse.flatMap Json.memberWithComma
  | .colon members name =>
    .openObject :: (members.reverse.flatMap Json.memberWithComma ++ [.literal (.text name)])
  | .afterValue found => found.tokens

namespace JsonReader

def read (reader : JsonReader) : List Token :=
  reader.stack.reverse.flatMap Frame.read ++ reader.expected.read

/-- An array that may still end before its first value is empty. -/
def Sound (reader : JsonReader) : Prop :=
  reader.expected = .valueOrEnd → reader.stack.head? = some (.array [])

theorem sound_start : start.Sound := by
  rintro ⟨⟩

theorem beginValue_read {stack : List Frame} {expected : Expectation} {token : Token}
    {next : JsonReader} (fresh : expected.read = [])
    (stepped : beginValue ⟨stack, expected⟩ token = some next) :
    next.Sound ∧ next.read = read ⟨stack, expected⟩ ++ [token] := by
  have led : read ⟨stack, expected⟩ = stack.reverse.flatMap Frame.read := by
    rw [read, fresh, List.append_nil]
  rw [led]
  unfold beginValue at stepped
  split at stepped
  · obtain rfl := Option.some.inj stepped
    exact ⟨nofun, rfl⟩
  · obtain rfl := Option.some.inj stepped
    exact ⟨fun _ => rfl, by simp [read, Expectation.read, Frame.read]⟩
  · obtain rfl := Option.some.inj stepped
    exact ⟨nofun, rfl⟩
  · contradiction

theorem readKey_read {stack : List Frame} {expected : Expectation} {members : Members}
    {token : Token} {next : JsonReader}
    (before : expected.read = .openObject :: members.reverse.flatMap Json.memberWithComma)
    (stepped : readKey ⟨stack, expected⟩ members token = some next) :
    next.Sound ∧ next.read = read ⟨stack, expected⟩ ++ [token] := by
  rw [read, read, before, List.append_assoc]
  unfold readKey at stepped
  split at stepped
  · obtain rfl := Option.some.inj stepped
    exact ⟨nofun, rfl⟩
  · contradiction

theorem endValue_read {stack : List Frame} {value : Json} {token : Token} {next : JsonReader}
    (stepped : endValue ⟨stack, .afterValue value⟩ value token = some next) :
    next.Sound ∧ next.read = read ⟨stack, .afterValue value⟩ ++ [token] := by
  unfold endValue at stepped
  dsimp only at stepped
  split at stepped
  · obtain rfl := Option.some.inj stepped
    refine ⟨nofun, ?_⟩
    simp [read, Expectation.read, Frame.read]
  · obtain rfl := Option.some.inj stepped
    refine ⟨nofun, ?_⟩
    simp [read, Expectation.read, Frame.read, Json.memberWithComma]
  · obtain rfl := Option.some.inj stepped
    refine ⟨nofun, ?_⟩
    simp [read, Expectation.read, Frame.read, Json.tokens, Json.tokensBefore, Json.itemTokens_concat]
  · obtain rfl := Option.some.inj stepped
    refine ⟨nofun, ?_⟩
    simp [read, Expectation.read, Frame.read, Json.tokens, Json.tokensBefore,
      Json.memberTokens_concat]
  · contradiction

theorem step_read {reader next : JsonReader} {token : Token} (sound : reader.Sound)
    (stepped : reader.step token = some next) :
    next.Sound ∧ next.read = reader.read ++ [token] := by
  obtain ⟨stack, expected⟩ := reader
  cases expected with
  | value => exact beginValue_read rfl stepped
  | valueOrEnd =>
    simp only [step] at stepped
    split at stepped
    · next frame rest =>
      obtain rfl := Option.some.inj stepped
      obtain rfl : frame = .array [] := Option.some.inj (sound rfl)
      exact ⟨by rintro ⟨⟩, by simp [read, Expectation.read, Frame.read, Json.tokens, Json.tokensBefore,
        Json.itemTokens]⟩
    · exact beginValue_read rfl stepped
  | keyOrEnd =>
    simp only [step] at stepped
    split at stepped
    · obtain rfl := Option.some.inj stepped
      exact ⟨by rintro ⟨⟩, by simp [read, expect, Expectation.read, Json.tokens, Json.tokensBefore,
        Json.memberTokens]⟩
    · exact readKey_read rfl stepped
  | key members => exact readKey_read rfl stepped
  | colon members key =>
    simp only [step] at stepped
    split at stepped
    · obtain rfl := Option.some.inj stepped
      exact ⟨by rintro ⟨⟩, by simp [read, Expectation.read, Frame.read]⟩
    · contradiction
  | afterValue value => exact endValue_read stepped

theorem run_read {reader next : JsonReader} {tokens : List Token} (sound : reader.Sound)
    (ran : reader.run? tokens = some next) : next.read = reader.read ++ tokens := by
  induction tokens generalizing reader with
  | nil =>
    obtain rfl := Option.some.inj ran
    rw [List.append_nil]
  | cons token tokens ih =>
    rw [run?] at ran
    split at ran
    · next stepped =>
      obtain ⟨sound', further⟩ := step_read sound stepped
      rw [ih sound' ran, further, List.append_assoc]
      rfl
    · contradiction

end JsonReader

theorem Json.ofTokens?_eq_some {tokens : List Token} {json : Json} :
    ofTokens? tokens = some json ↔ tokens = json.tokens := by
  constructor
  · intro read
    obtain ⟨reader, ran, finished⟩ := Option.bind_eq_some_iff.mp read
    have led := JsonReader.run_read JsonReader.sound_start ran
    unfold JsonReader.finish? at finished
    split at finished
    · next empty complete =>
      rw [JsonReader.read, empty, complete, Option.some.inj finished] at led
      exact led.symm
    · contradiction
  · rintro rfl
    exact ofTokens?_tokens json

end Journal
