import Journal.Proofs.Json.Legible
import Mathlib.Logic.Relation

set_option autoImplicit false

namespace Journal

namespace Json

def entries : Json → List Json
  | .literal _ => []
  | .array items => items
  | .object members => members.map Prod.snd

/-- One change to a value that says what `written` says. The names an object defines are those of the
written one, and the items of an array are in the order in which its entries are written. -/
inductive Rewrite : (written json json' : Json) → Prop
  | shuffle {known members members' : Members} (shuffled : members.Perm members') :
    Rewrite (.object known) (.object members) (.object members')
  | insert {known members : Members} {name value : String} (undefined : valuesOf name known = []) :
    Rewrite (.object known) (.object members) (.object ((some name, .text value) :: members))
  | member {known : Members} {name : String} {written json json' : Json} (before after : Members)
    (defined : valuesOf name known = [written]) (inner : Rewrite written json json') :
    Rewrite (.object known) (.object (before ++ (some name, json) :: after))
      (.object (before ++ (some name, json') :: after))
  | item {known written json json' : Json} (before after : List Json)
    (placed : known.entries[before.length]? = some written) (inner : Rewrite written json json') :
    Rewrite known (.array (before ++ json :: after)) (.array (before ++ json' :: after))

theorem not_rewrite_literal {value : Literal} {json json' : Json} :
    ¬ Rewrite (.literal value) json json' := by
  rintro ⟨⟩
  contradiction

theorem Rewrite.nested {written json json' : Json} (rewrite : Rewrite written json json') :
    (∀ value, json ≠ .literal value) ∧ ∀ value, json' ≠ .literal value := by
  cases rewrite <;> exact ⟨nofun, nofun⟩

theorem Rewrite.object {written json' : Json} {members : Members}
    (rewrite : Rewrite written (.object members) json') : ∃ members', json' = .object members' := by
  cases rewrite <;> exact ⟨_, rfl⟩

theorem Rewrite.isSound {written json json' : Json} (rewrite : Rewrite written json json')
    {levels : Nat} (sound : json.isSound levels = true) : json'.isSound levels = true := by
  induction rewrite generalizing levels with
  | shuffle shuffled =>
    cases levels with
    | zero => contradiction
    | succ levels =>
      rw [Json.isSound] at sound ⊢
      rwa [← shuffled.all_eq]
  | insert =>
    cases levels with
    | zero => contradiction
    | succ levels =>
      rw [Json.isSound] at sound ⊢
      rw [List.all_cons, sound, (writable_text _).isSound]
      rfl
  | member _ _ _ _ ih =>
    cases levels with
    | zero => contradiction
    | succ levels =>
      simp only [Json.isSound, List.all_append, List.all_cons, Bool.and_eq_true] at sound ⊢
      obtain ⟨front, ⟨named, inside⟩, back⟩ := sound
      exact ⟨front, ⟨named, ih inside⟩, back⟩
  | item _ _ _ _ ih =>
    cases levels with
    | zero => contradiction
    | succ levels =>
      simp only [Json.isSound, List.all_append, List.all_cons, Bool.and_eq_true] at sound ⊢
      obtain ⟨front, inside, back⟩ := sound
      exact ⟨front, ih inside, back⟩

theorem Rewrite.keys {written : Json} {members members' : Members}
    (rewrite : Rewrite written (.object members) (.object members'))
    (keys : members.all (·.1.isSome) = true) : members'.all (·.1.isSome) = true := by
  cases rewrite with
  | shuffle shuffled => rwa [← shuffled.all_eq]
  | insert => exact keys
  | member => simpa only [List.all_append, List.all_cons] using keys

structure Kept (written : Json) (values values' : List Json) : Prop where
  none : values = [] → values' = []
  one : ∀ json, values = [json] →
    ∃ json', values' = [json'] ∧ (json' = json ∨ Rewrite written json json')

theorem Kept.refl (written : Json) (values : List Json) : Kept written values values :=
  ⟨id, fun json alone => ⟨json, alone, .inl rfl⟩⟩

theorem Kept.literal {value : Literal} {values values' : List Json}
    (kept : Kept (.literal value) values values') {json : Json} (alone : values = [json]) :
    values' = [json] := by
  obtain ⟨json', alone', rfl | rewrite⟩ := kept.one json alone
  · exact alone'
  · exact absurd rewrite not_rewrite_literal

theorem Rewrite.kept {known members members' : Members}
    (rewrite : Rewrite (.object known) (.object members) (.object members')) {name : String}
    {written : Json} (defined : valuesOf name known = [written]) :
    Kept written (valuesOf name members) (valuesOf name members') := by
  cases rewrite with
  | shuffle shuffled =>
    have same : (valuesOf name members).Perm (valuesOf name members') := by
      rw [valuesOf_eq, valuesOf_eq]
      exact shuffled.filterMap _
    constructor
    · intro none
      exact List.nil_perm.mp (none ▸ same)
    · intro json alone
      exact ⟨json, (List.singleton_perm.mp (alone ▸ same)).symm, .inl rfl⟩
  | @insert _ _ added value undefined =>
    have other : added ≠ name := by
      rintro rfl
      rw [undefined] at defined
      contradiction
    have same : valuesOf name ((some added, .text value) :: members) = valuesOf name members := by
      simp [valuesOf_eq, other]
    rw [same]
    exact .refl written _
  | @member _ place found json json' before after defined' inner =>
    by_cases here : place = name
    · obtain rfl := here
      obtain rfl : found = written := by
        rw [defined] at defined'
        exact (List.singleton_inj.mp defined').symm
      rw [valuesOf_append, valuesOf_append, valuesOf_cons_self, valuesOf_cons_self]
      constructor
      · intro none
        simp at none
      · intro single alone
        obtain ⟨none, rfl, none'⟩ : valuesOf place before = [] ∧ json = single ∧
            valuesOf place after = [] := by
          cases front : valuesOf place before with
          | nil => simpa [front] using alone
          | cons => simp [front] at alone
        exact ⟨json', by rw [none, none', List.nil_append], .inr inner⟩
    · have same : valuesOf name (before ++ (some place, json') :: after) =
          valuesOf name (before ++ (some place, json) :: after) := by
        simp [valuesOf_eq, here]
      rw [same]
      exact .refl written _

end Json

open Json (Rewrite Kept valuesOf)

structure Tolerant {α : Type} (toJson : α → Json) (ofJson? : Json → Option α) : Prop where
  read : ∀ {value : α} {json json' : Json}, ofJson? json = some value →
    Rewrite (toJson value) json json' → ofJson? json' = some value

theorem Tolerant.run {α : Type} {toJson : α → Json} {ofJson? : Json → Option α}
    (tolerant : Tolerant toJson ofJson?) {value : α} {json json' : Json}
    (read : ofJson? json = some value)
    (rewritten : Relation.ReflTransGen (Rewrite (toJson value)) json json') :
    ofJson? json' = some value := by
  induction rewritten with
  | refl => exact read
  | tail _ rewrite ih => exact tolerant.read ih rewrite

theorem Tolerant.mapM {α : Type} {toJson : α → Json} {ofJson? : Json → Option α}
    (tolerant : Tolerant toJson ofJson?) {values : List α} {before after : List Json}
    {written json json' : Json} (read : (before ++ json :: after).mapM ofJson? = some values)
    (placed : (values.map toJson)[before.length]? = some written)
    (rewrite : Rewrite written json json') :
    (before ++ json' :: after).mapM ofJson? = some values := by
  induction before generalizing values with
  | nil =>
    simp only [List.nil_append, List.mapM_cons] at read ⊢
    obtain ⟨first, head, read⟩ := Option.bind_eq_some_iff.mp read
    obtain ⟨others, tail, read⟩ := Option.bind_eq_some_iff.mp read
    obtain rfl := Option.some.inj read
    obtain rfl := Option.some.inj placed
    rw [tolerant.read head rewrite, tail]
    rfl
  | cons item before ih =>
    simp only [List.cons_append, List.mapM_cons] at read ⊢
    obtain ⟨first, head, read⟩ := Option.bind_eq_some_iff.mp read
    obtain ⟨others, tail, read⟩ := Option.bind_eq_some_iff.mp read
    obtain rfl := Option.some.inj read
    rw [head, ih tail placed]
    rfl

def Schema.Tolerant {α : Type} (schema : Schema α) : Prop :=
  Journal.Tolerant schema.toJson schema.ofJson?

structure Fields.Tolerant {α : Type} (fields : Fields α) : Prop where
  members : ∀ {value : α} {members members' : Members}, fields.ofMembers? members = some value →
    (∀ name written, valuesOf name (fields.toMembers value) = [written] →
      Kept written (valuesOf name members) (valuesOf name members')) →
    fields.ofMembers? members' = some value
  items : ∀ {value : α} {before after : List Json} {written json json' : Json},
    fields.ofItems? (before ++ json :: after) = some value →
    ((fields.toMembers value).map Prod.snd)[before.length]? = some written →
    Rewrite written json json' → fields.ofItems? (before ++ json' :: after) = some value

namespace Schema

variable {α : Type}

theorem tolerant_literal {schema : Schema α} (spell : α → Literal)
    (toJson : ∀ value, schema.toJson value = .literal (spell value)) : schema.Tolerant := by
  constructor
  intro value json json' _ rewrite
  rw [toJson] at rewrite
  exact absurd rewrite Json.not_rewrite_literal

theorem tolerant_integer {what : String} {width : Nat} {toWord : α → UInt64} {ofWord : UInt64 → α}
    {toInt : α → Int} {ofInt? : Int → Option α} :
    (integer what width toWord ofWord toInt ofInt?).Tolerant :=
  tolerant_literal (.int <| toInt ·) fun _ => rfl

theorem tolerant_flag : flag.Tolerant := tolerant_literal .bool fun _ => rfl

theorem tolerant_text : text.Tolerant := tolerant_literal (.text <| some ·) fun _ => rfl

theorem tolerant_blob : blob.Tolerant :=
  tolerant_literal (.text <| some <| String.ofList <| Base64.encode ·) fun _ => rfl

theorem tolerant_nothing : nothing.Tolerant := ⟨fun {value} => value.elim⟩

theorem tolerant_boundary : boundary.Tolerant := by
  constructor
  intro value json json' read rewrite
  change Rewrite (.object []) json json' at rewrite
  cases json with
  | literal => contradiction
  | array => contradiction
  | object members =>
    change (if members.all (·.1.isSome) then some () else none) = _ at read
    have keys : members.all (·.1.isSome) = true := by
      by_contra missing
      rw [if_neg missing] at read
      contradiction
    obtain ⟨members', rfl⟩ := rewrite.object
    exact if_pos (rewrite.keys keys)

theorem tolerant_optional {schema : Schema α} (tolerant : schema.Tolerant) :
    schema.optional.Tolerant := by
  constructor
  intro value json json' read rewrite
  cases value with
  | none => exact absurd rewrite Json.not_rewrite_literal
  | some value =>
    -- What is rewritten is an array or an object, and stays one.
    have present {json : Json} (nested : ∀ literal, json ≠ .literal literal) :
        schema.optional.ofJson? json = (schema.ofJson? json).map some := by
      cases json with
      | literal => exact absurd rfl (nested _)
      | _ => rfl
    obtain ⟨source, target⟩ := rewrite.nested
    rw [present source, Option.map_eq_some_iff] at read
    obtain ⟨found, read, same⟩ := read
    obtain rfl := Option.some.inj same
    rw [present target, tolerant.read read rewrite, Option.map_some]

theorem tolerant_list {schema : Schema α} (tolerant : schema.Tolerant) : schema.list.Tolerant := by
  constructor
  intro items json json' read rewrite
  change Rewrite (.array (items.map schema.toJson)) json json' at rewrite
  cases rewrite with
  | item before after placed inner => exact tolerant.mapM read placed inner

end Schema

namespace Fields

variable {α β : Type}

theorem tolerant_done : done.Tolerant where
  members _ _ := rfl
  items _ placed _ := by contradiction

theorem member?_of_kept {schema : Schema α} (tolerant : schema.Tolerant) {name : String}
    {members members' : Members} {value : α} (read : member? schema name members = some value)
    (kept : Kept (schema.toJson value) (valuesOf name members) (valuesOf name members')) :
    member? schema name members' = some value := by
  unfold member? at read
  split at read
  · next none =>
    rw [member?, kept.none none]
    exact read
  · next json alone =>
    obtain ⟨json', alone', rfl | rewrite⟩ := kept.one json alone
    · rw [member?, alone']
      exact read
    · rw [member?, alone']
      exact tolerant.read read rewrite
  · contradiction

theorem tolerant_field {name : String} {schema : Schema α} {rest : Fields β}
    (fresh : ∀ value, ∀ member ∈ rest.toMembers value, member.1 ≠ some name)
    (first : schema.Tolerant) (others : rest.Tolerant) : (field name schema rest).Tolerant := by
  constructor
  · intro value members members' read kept
    obtain ⟨found, here, read⟩ := Option.bind_eq_some_iff.mp read
    obtain ⟨more, further, read⟩ := Option.bind_eq_some_iff.mp read
    obtain rfl := Option.some.inj read
    have alone : valuesOf name (rest.toMembers more) = [] := Json.valuesOf_eq_nil (fresh more)
    have first' := member?_of_kept first here <| kept name _ <| by
      change valuesOf name ((some name, schema.toJson found) :: rest.toMembers more) = _
      rw [Json.valuesOf_cons_self, alone]
    have others' : rest.ofMembers? members' = some more := by
      refine others.members further fun other written defined => kept other written ?_
      have apart : name ≠ other := by
        rintro rfl
        rw [alone] at defined
        contradiction
      rw [← defined]
      simp [field, Json.valuesOf_eq, apart]
    change (do return (← member? schema name members', ← rest.ofMembers? members')) = _
    rw [first', others']
    rfl
  · intro value before after written json json' read placed rewrite
    cases before with
    | nil =>
      obtain ⟨found, here, read⟩ := Option.bind_eq_some_iff.mp read
      obtain ⟨more, further, read⟩ := Option.bind_eq_some_iff.mp read
      obtain rfl := Option.some.inj read
      obtain rfl := Option.some.inj placed
      change (do return (← schema.ofJson? json', ← rest.ofItems? after)) = _
      rw [first.read here rewrite, further]
      rfl
    | cons item before =>
      obtain ⟨found, here, read⟩ := Option.bind_eq_some_iff.mp read
      obtain ⟨more, further, read⟩ := Option.bind_eq_some_iff.mp read
      obtain rfl := Option.some.inj read
      have others' := others.items further placed rewrite
      change (do return (← schema.ofJson? item, ← rest.ofItems? (before ++ json' :: after))) = _
      rw [here, others']
      rfl

theorem tolerant_as {fields : Fields α} {pack : α → β} {unpack : β → α} (tolerant : fields.Tolerant)
    (unpack_pack : ∀ value, unpack (pack value) = value) : (fields.as pack unpack).Tolerant := by
  constructor
  · intro value members members' read kept
    obtain ⟨found, inner, rfl⟩ := Option.map_eq_some_iff.mp read
    simp only [as, unpack_pack] at kept ⊢
    rw [tolerant.members inner kept, Option.map_some]
  · intro value before after written json json' read placed rewrite
    obtain ⟨found, inner, rfl⟩ := Option.map_eq_some_iff.mp read
    simp only [as, unpack_pack] at placed ⊢
    rw [tolerant.items inner placed rewrite, Option.map_some]

theorem tolerant_schema {fields : Fields α} (tolerant : fields.Tolerant) :
    fields.schema.Tolerant := by
  constructor
  intro value json json' read rewrite
  change Rewrite (.object (fields.toMembers value)) json json' at rewrite
  cases json with
  | literal => contradiction
  | array items =>
    cases rewrite with
    | item before after placed inner => exact tolerant.items read placed inner
  | object members =>
    obtain ⟨members', rfl⟩ := rewrite.object
    change (if members.all (·.1.isSome) then fields.ofMembers? members else none) = _ at read
    split at read
    · next keys =>
      have read' := tolerant.members read fun _ _ => rewrite.kept
      exact (if_pos (rewrite.keys keys)).trans read'
    · contradiction

end Fields

mutual

theorem Schema.Composed.tolerant {α : Type} {levels : Nat} {schema : Schema α} :
    schema.Composed levels → schema.Tolerant
  | .u16 => Schema.tolerant_integer
  | .i32 => Schema.tolerant_integer
  | .i64 => Schema.tolerant_integer
  | .flag => Schema.tolerant_flag
  | .text => Schema.tolerant_text
  | .blob => Schema.tolerant_blob
  | .boundary => Schema.tolerant_boundary
  | .nothing => Schema.tolerant_nothing
  | .optional _ composed => Schema.tolerant_optional composed.tolerant
  | .list _ composed => Schema.tolerant_list composed.tolerant
  | .fields composed => Fields.tolerant_schema composed.tolerant

theorem Fields.Composed.tolerant {α : Type} {levels : Nat} {fields : Fields α} :
    fields.Composed levels → fields.Tolerant
  | .done => Fields.tolerant_done
  | .field fresh schema rest => Fields.tolerant_field fresh schema.tolerant rest.tolerant
  | .as _ unpack_pack composed => Fields.tolerant_as composed.tolerant unpack_pack

end

end Journal
