import Journal.Proofs.Codec.Payload

set_option autoImplicit false

namespace Journal

variable {α : Type}

/-- What is read takes up a certain front, which is read as the same value before any other bytes, and
of which no part can be missed. -/
def SelfDelimiting (get : Window → Except FieldFault (α × Window)) : Prop :=
  ∀ window value rest, get window = .ok (value, rest) →
    ∃ size ≤ window.size, rest = window.drop size ∧
      (∀ longer more, longer.contents = window.contents.take size ++ more →
        get longer = .ok (value, longer.drop size)) ∧
      ∀ shorter, ∀ count < size, shorter.contents = window.contents.take count →
        ∃ fault, get shorter = .error fault

theorem SelfDelimiting.of_reads {get : Window → Except FieldFault (α × Window)}
    (found : ∀ window value rest, get window = .ok (value, rest) →
      ∃ front, front <+: window.contents ∧ Reads get front value) : SelfDelimiting get := by
  intro window value rest got
  obtain ⟨front, ⟨tail, starts⟩, reads⟩ := found window value rest got
  have again := reads window tail starts.symm
  rw [got] at again
  obtain ⟨-, rfl⟩ := Prod.mk.inj (Except.ok.inj again)
  have within := Window.size_of_append starts.symm
  refine ⟨front.length, by omega, rfl, ?_, ?_⟩
  · intro longer more same
    rw [← starts, List.take_left] at same
    exact reads longer more same
  · intro shorter count less same
    cases outcome : get shorter with
    | error fault => exact ⟨fault, rfl⟩
    | ok pair =>
      -- What can be read from too few bytes is read from all of them too, and ends earlier.
      obtain ⟨other, left⟩ := pair
      obtain ⟨part, ⟨tail', starts'⟩, reads'⟩ := found shorter other left outcome
      have whole : window.contents = part ++ (tail' ++ window.contents.drop count) := by
        rw [← List.append_assoc, starts', same, List.take_append_drop]
      have early := reads' window _ whole
      rw [got] at early
      have ends := congrArg Window.size (Prod.mk.inj (Except.ok.inj early)).2
      have short := congrArg List.length (starts'.trans same)
      rw [List.length_append, List.length_take] at short
      simp only [Window.size_drop] at ends
      omega

theorem Lawful.selfDelimiting {put : α → List UInt8}
    {get : Window → Except FieldFault (α × Window)} (lawful : Lawful put get) :
    SelfDelimiting get :=
  .of_reads fun window value rest got => ⟨put value, lawful.of_get window value rest got⟩

theorem selfDelimiting_number (what : String) {width : Nat} (narrow : width ≤ 8) :
    SelfDelimiting (·.number what width) := by
  refine .of_reads fun window word rest got => ?_
  obtain ⟨front, small⟩ := of_number narrow got
  exact ⟨_, ⟨rest.contents, front.symm⟩, reads_number small⟩

mutual

inductive Schema.Storable : {α : Type} → Schema α → Prop
  | u16 : Schema.Storable .u16
  | i32 : Schema.Storable .i32
  | i64 : Schema.Storable .i64
  | flag : Schema.Storable .flag
  | text : Schema.Storable .text
  | blob : Schema.Storable .blob
  | optional {α : Type} {schema : Schema α} :
    Schema.Storable schema → Schema.Storable schema.optional
  | list {α : Type} {schema : Schema α} : Schema.Storable schema → Schema.Storable schema.list
  | structure {α β : Type} {fields : Fields α} {pack : α → β} {unpack : β → α}
    (pack_unpack : ∀ value, pack (unpack value) = value)
    (unpack_pack : ∀ value, unpack (pack value) = value) :
    Fields.Storable fields → Schema.Storable (fields.as pack unpack).schema

inductive Fields.Storable : {α : Type} → Fields α → Prop
  | last {α : Type} {schema : Schema α} (name : String) :
    Schema.Storable schema → Fields.Storable (.field name schema .done)
  | field {α β : Type} {schema : Schema α} {rest : Fields β} (name : String) :
    Schema.Storable schema → Fields.Storable rest → Fields.Storable (.field name schema rest)

end

mutual

theorem Schema.Storable.filled {α : Type} {schema : Schema α} :
    schema.Storable → ∀ value, 0 < (schema.put value).length
  | .u16, _ | .i32, _ | .i64, _ | .flag, _ => Nat.succ_pos _
  | .text, _ | .blob, _ | .list _, _ => Nat.succ_pos _
  | .optional _, none | .optional _, some _ => Nat.succ_pos _
  | .structure _ _ fields, _ => fields.filled _

theorem Fields.Storable.filled {α : Type} {fields : Fields α} :
    fields.Storable → ∀ value, 0 < (fields.put value).length
  | .last _ schema, (first, _) | .field _ schema _, (first, _) =>
    Nat.lt_of_lt_of_le (schema.filled first) (List.sublist_append_left ..).length_le

end

mutual

theorem Schema.Storable.lawful {α : Type} {schema : Schema α} : schema.Storable → schema.Lawful
  | .u16 => Schema.lawful_u16
  | .i32 => Schema.lawful_i32
  | .i64 => Schema.lawful_i64
  | .flag => Schema.lawful_flag
  | .text => Schema.lawful_text
  | .blob => Schema.lawful_blob
  | .optional item => Schema.lawful_optional item.lawful
  | .list item => Schema.lawful_list item.lawful item.filled
  | .structure pack_unpack unpack_pack fields =>
    Fields.lawful_schema (Fields.lawful_as fields.lawful pack_unpack unpack_pack)

theorem Fields.Storable.lawful {α : Type} {fields : Fields α} : fields.Storable → fields.Lawful
  | .last _ schema => Fields.lawful_field schema.lawful Fields.lawful_done
  | .field _ schema rest => Fields.lawful_field schema.lawful rest.lawful

end

section Nested

open Schema.Storable Fields.Storable

theorem storable_permissions : PermissionStatus.schema.Storable :=
  .structure (fun _ => rfl) (fun _ => rfl) <| field _ text <| field _ text <| last _ u16

theorem storable_tokenIdentifier : TokenIdentifier.schema.Storable :=
  .structure (fun _ => rfl) (fun _ => rfl) <| field _ text <| field _ text <| field _ text <|
    field _ i64 <| field _ i64 <| field _ i32 <| last _ i32

theorem storable_block : Block.schema.Storable :=
  .structure (fun _ => rfl) (fun _ => rfl) <| field _ i64 <| field _ i64 <| last _ i64

end Nested

theorem values_self_delimiting :
    (∀ opcode : Opcode, SelfDelimiting opcode.schema.get) ∧
    (∀ {α : Type} {schema : Schema α}, schema.Storable → SelfDelimiting schema.get) ∧
    (SelfDelimiting PermissionStatus.schema.get ∧ SelfDelimiting TokenIdentifier.schema.get ∧
      SelfDelimiting Block.schema.get) ∧
    ∀ (what : String) (width : Nat), width ≤ 8 → SelfDelimiting (·.number what width) := by
  have nested {α : Type} {schema : Schema α} (storable : schema.Storable) :
      SelfDelimiting schema.get := storable.lawful.selfDelimiting
  exact ⟨fun opcode => opcode.composed.lawful.selfDelimiting, nested,
    ⟨nested storable_permissions, nested storable_tokenIdentifier, nested storable_block⟩,
    fun what _ narrow => selfDelimiting_number what narrow⟩

theorem values_self_delimiting_full :
    Schema.flag.optional.list.get (.ofList [0, 0, 0, 2, 0, 0, 9]) = .ok ([none, none], .ofList [9]) ∧
      Schema.flag.optional.list.get (.ofList [0, 0, 0, 2, 0, 0]) = .ok ([none, none], .ofList []) ∧
      (∃ fault, Schema.flag.optional.list.get (.ofList [0, 0, 0, 2, 0]) = .error fault) ∧
      (∃ fault, Opcode.setGenstamp.schema.get (.ofList [0, 0, 0, 0, 0, 0, 0]) = .error fault) ∧
      ∃ fault, (Window.ofList []).number "u8" 1 = .error fault := by
  have got : Schema.flag.optional.list.get (.ofList [0, 0, 0, 2, 0, 0, 9]) =
      .ok ([none, none], .ofList [9]) := rfl
  have stamp : Opcode.setGenstamp.schema.get (.ofList [0, 0, 0, 0, 0, 0, 0, 5]) =
      .ok (⟨5⟩, .ofList []) := rfl
  have byte : (Window.ofList [7]).number "u8" 1 = .ok (7, .ofList []) := rfl
  refine ⟨got, ?_⟩
  obtain ⟨ofOpcode, ofStorable, -, ofNumber⟩ := values_self_delimiting
  obtain ⟨size, -, ends, longer, shorter⟩ := ofStorable (.list (.optional .flag)) _ _ _ got
  obtain ⟨size', -, ends', -, shorter'⟩ := ofOpcode .setGenstamp _ _ _ stamp
  obtain ⟨size'', -, ends'', -, shorter''⟩ := ofNumber "u8" 1 (by decide) _ _ _ byte
  have six : 1 = 7 - size := congrArg Window.size ends
  have eight : 0 = 8 - size' := congrArg Window.size ends'
  have one : 0 = 1 - size'' := congrArg Window.size ends''
  obtain rfl : size = 6 := by omega
  exact ⟨longer _ [] rfl, shorter _ 5 (by decide) rfl, shorter' _ 7 (by omega) rfl,
    shorter'' _ 0 (by omega) rfl⟩

end Journal
