import Journal.Json.Reader
import Journal.Proofs.Codec.Payload
import Journal.Proofs.Text.Base64

set_option autoImplicit false

namespace Journal

def Literal.isWritable : Literal → Bool
  | .null | .bool _ | .text (some _) => true
  | .int value => value.natAbs < 2 ^ 64
  | .text none | .real _ => false

namespace Json

inductive Writable : (levels : Nat) → Json → Prop
  | literal {levels : Nat} {value : Literal} (writable : value.isWritable = true) :
    Writable levels (.literal value)
  | array {levels : Nat} {items : List Json} (each : ∀ item ∈ items, Writable levels item) :
    Writable (levels + 1) (.array items)
  | object {levels : Nat} {members : Members} (keys : ∀ member ∈ members, member.1.isSome = true)
    (each : ∀ member ∈ members, Writable levels member.2) : Writable (levels + 1) (.object members)

theorem Writable.mono {levels more : Nat} {json : Json} (writable : Writable levels json)
    (deeper : levels ≤ more) : Writable more json := by
  induction writable generalizing more with
  | literal writable => exact .literal writable
  | array _ ih =>
    obtain ⟨more, rfl⟩ := Nat.exists_eq_add_of_lt deeper
    exact .array fun item member => ih item member (by omega)
  | object keys _ ih =>
    obtain ⟨more, rfl⟩ := Nat.exists_eq_add_of_lt deeper
    exact .object keys fun item member => ih item member (by omega)

theorem Writable.isSound {levels : Nat} {json : Json} (writable : Writable levels json) :
    json.isSound levels = true := by
  induction writable with
  | @literal levels value writable =>
    cases value with
    | real finite => contradiction
    | text value => cases value <;> [contradiction; (cases levels <;> rfl)]
    | _ => cases levels <;> rfl
  | array _ ih =>
    rw [Json.isSound, List.all_eq_true]
    exact ih
  | object keys _ ih =>
    rw [Json.isSound, List.all_eq_true]
    intro member inside
    rw [keys member inside, ih member inside]
    rfl

theorem writable_text {levels : Nat} (value : String) : Writable levels (.text value) := .literal rfl

theorem valuesOf_append (name : String) (first second : Members) :
    valuesOf name (first ++ second) = valuesOf name first ++ valuesOf name second := by
  simp only [valuesOf_eq, List.filterMap_append]

theorem valuesOf_eq_nil {name : String} {members : Members}
    (fresh : ∀ member ∈ members, member.1 ≠ some name) : valuesOf name members = [] := by
  rw [valuesOf_eq, List.filterMap_eq_nil_iff]
  intro member inside
  exact if_neg (fresh member inside)

theorem valuesOf_cons_self (name : String) (value : Json) (members : Members) :
    valuesOf name ((some name, value) :: members) = value :: valuesOf name members := by
  simp only [valuesOf_eq, List.filterMap_cons, if_true]

end Json

structure Schema.Legible {α : Type} (levels : Nat) (schema : Schema α) : Prop where
  read : ∀ value, schema.ofJson? (schema.toJson value) = some value
  writable : ∀ value, Json.Writable levels (schema.toJson value)

/-- Members that are read back, also after members with other names. -/
structure Fields.Legible {α : Type} (levels : Nat) (fields : Fields α) : Prop where
  read : ∀ value (before : Members),
    (∀ member ∈ fields.toMembers value, ∀ other ∈ before, other.1 ≠ member.1) →
      fields.ofMembers? (before ++ fields.toMembers value) = some value
  keys : ∀ value, ∀ member ∈ fields.toMembers value, member.1.isSome = true
  writable : ∀ value, ∀ member ∈ fields.toMembers value, Json.Writable levels member.2

namespace Schema

variable {α : Type} {levels : Nat}

theorem legible_integer {what : String} {width : Nat} {toWord : α → UInt64} {ofWord : UInt64 → α}
    {toInt : α → Int} {ofInt? : Int → Option α}
    (read : ∀ value, ofInt? (toInt value) = some value)
    (small : ∀ value, (toInt value).natAbs < 2 ^ 64) :
    (integer what width toWord ofWord toInt ofInt?).Legible levels :=
  ⟨read, fun value => .literal (decide_eq_true (small value))⟩

theorem legible_u16 : u16.Legible levels := by
  refine legible_integer (fun value => ?_) fun value => ?_
  · have small : value.toNat < UInt16.size := value.toNat_lt
    rw [if_pos ⟨Int.natCast_nonneg _, Int.ofNat_lt.mpr small⟩, Int.toNat_natCast, UInt16.ofNat_toNat]
  · have small := value.toNat_lt
    simp only [Int.natAbs_natCast]
    omega

theorem legible_i32 : i32.Legible levels := by
  refine legible_integer (fun value => ?_) fun value => ?_
  · rw [if_pos ⟨value.minValue_le_toInt, value.toInt_le⟩, Int32.ofInt_toInt]
  · have low := value.le_toInt
    have high := value.toInt_lt
    omega

theorem legible_i64 : i64.Legible levels := by
  refine legible_integer (fun value => ?_) fun value => ?_
  · rw [if_pos ⟨value.minValue_le_toInt, value.toInt_le⟩, Int64.ofInt_toInt]
  · have low := value.le_toInt
    have high := value.toInt_lt
    omega

theorem legible_flag : flag.Legible levels := ⟨fun _ => rfl, fun _ => .literal rfl⟩

theorem legible_text : text.Legible levels := ⟨fun _ => rfl, Json.writable_text⟩

theorem legible_blob : blob.Legible levels := by
  constructor
  · intro bytes
    change Base64.decode? (String.ofList (Base64.encode bytes)).toList = some bytes
    rw [String.toList_ofList, Base64.decode?_encode]
  · intro bytes
    exact Json.writable_text _

theorem legible_boundary : boundary.Legible (levels + 1) :=
  ⟨fun _ => rfl, fun _ => .object nofun nofun⟩

theorem legible_nothing : nothing.Legible levels :=
  ⟨fun value => value.elim, fun value => value.elim⟩

theorem legible_optional {schema : Schema α} (legible : schema.Legible levels)
    (present : ∀ value, schema.toJson value ≠ .null) : schema.optional.Legible levels := by
  constructor
  · intro value
    cases value with
    | none => rfl
    | some value =>
      have read : (schema.ofJson? (schema.toJson value)).map some = some (some value) := by
        rw [legible.read, Option.map_some]
      simp only [Schema.optional]
      -- No other value is taken for a missing one.
      split
      · next null => exact absurd null (present value)
      · exact read
  · intro value
    cases value with
    | none => exact .literal rfl
    | some value => exact legible.writable value

theorem legible_list {schema : Schema α} (legible : schema.Legible levels) :
    schema.list.Legible (levels + 1) := by
  constructor
  · intro items
    change (items.map schema.toJson).mapM schema.ofJson? = some items
    induction items with
    | nil => rfl
    | cons item items ih => simp [legible.read, ih]
  · intro items
    apply Json.Writable.array
    intro json inside
    obtain ⟨item, -, rfl⟩ := List.mem_map.mp inside
    exact legible.writable item

end Schema

namespace Fields

variable {α β : Type} {levels : Nat}

theorem legible_done : done.Legible levels := ⟨fun _ _ _ => rfl, nofun, nofun⟩

theorem legible_field {name : String} {schema : Schema α} {rest : Fields β}
    (fresh : ∀ value, ∀ member ∈ rest.toMembers value, member.1 ≠ some name)
    (first : schema.Legible levels) (others : rest.Legible levels) :
    (field name schema rest).Legible levels := by
  constructor
  · rintro ⟨value, values⟩ before apart
    let here : Option String × Json := (some name, schema.toJson value)
    have unseen : Json.valuesOf name before = [] :=
      Json.valuesOf_eq_nil (apart here List.mem_cons_self)
    have alone : Json.valuesOf name (rest.toMembers values) = [] :=
      Json.valuesOf_eq_nil (fresh values)
    have found : member? schema name (before ++ here :: rest.toMembers values) = some value := by
      rw [member?, Json.valuesOf_append, unseen, Json.valuesOf_cons_self, alone, List.nil_append]
      exact first.read value
    have further : rest.ofMembers? (before ++ here :: rest.toMembers values) = some values := by
      rw [List.append_cons]
      apply others.read values _
      intro member inside other seen
      rcases List.mem_append.mp seen with seen | seen
      · exact apart member (List.mem_cons_of_mem _ inside) other seen
      · rw [List.mem_singleton.mp seen]
        exact (fresh values member inside).symm
    change (do return (← member? schema name (before ++ here :: rest.toMembers values),
      ← rest.ofMembers? (before ++ here :: rest.toMembers values))) = _
    rw [found, further]
    rfl
  · rintro ⟨value, values⟩ member inside
    rcases List.mem_cons.mp inside with rfl | inside
    · rfl
    · exact others.keys values member inside
  · rintro ⟨value, values⟩ member inside
    rcases List.mem_cons.mp inside with rfl | inside
    · exact first.writable value
    · exact others.writable values member inside

theorem legible_as {fields : Fields α} {pack : α → β} {unpack : β → α}
    (legible : fields.Legible levels) (pack_unpack : ∀ value, pack (unpack value) = value) :
    (fields.as pack unpack).Legible levels := by
  refine ⟨fun value before apart => ?_, fun value => legible.keys _, fun value => legible.writable _⟩
  have read := legible.read (unpack value) before apart
  change (fields.ofMembers? (before ++ fields.toMembers (unpack value))).map pack = _
  rw [read, Option.map_some, pack_unpack]

theorem legible_schema {fields : Fields α} (legible : fields.Legible levels) :
    fields.schema.Legible (levels + 1) := by
  constructor
  · intro value
    have keys : (fields.toMembers value).all (·.1.isSome) = true :=
      List.all_eq_true.mpr (legible.keys value)
    change (if (fields.toMembers value).all (·.1.isSome) then
      fields.ofMembers? (fields.toMembers value) else none) = _
    rw [if_pos keys]
    exact legible.read value [] nofun
  · intro value
    exact .object (legible.keys value) (legible.writable value)

end Fields

mutual

theorem Schema.Composed.legible {α : Type} {levels : Nat} {schema : Schema α} :
    schema.Composed levels → schema.Legible levels
  | .u16 => Schema.legible_u16
  | .i32 => Schema.legible_i32
  | .i64 => Schema.legible_i64
  | .flag => Schema.legible_flag
  | .text => Schema.legible_text
  | .blob => Schema.legible_blob
  | .boundary => Schema.legible_boundary
  | .nothing => Schema.legible_nothing
  | .optional present composed => Schema.legible_optional composed.legible present
  | .list _ composed => Schema.legible_list composed.legible
  | .fields composed => Fields.legible_schema composed.legible

theorem Fields.Composed.legible {α : Type} {levels : Nat} {fields : Fields α} :
    fields.Composed levels → fields.Legible levels
  | .done => Fields.legible_done
  | .field fresh schema rest => Fields.legible_field fresh schema.legible rest.legible
  | .as pack_unpack _ composed => Fields.legible_as composed.legible pack_unpack

end

end Journal
