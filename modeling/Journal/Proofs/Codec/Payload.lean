import Journal.Proofs.Codec.Schema
import Journal.Record.Operation

set_option autoImplicit false

namespace Journal

mutual

inductive Schema.Composed : {α : Type} → (levels : Nat) → Schema α → Prop
  | u16 {levels : Nat} : Schema.Composed levels .u16
  | i32 {levels : Nat} : Schema.Composed levels .i32
  | i64 {levels : Nat} : Schema.Composed levels .i64
  | flag {levels : Nat} : Schema.Composed levels .flag
  | text {levels : Nat} : Schema.Composed levels .text
  | blob {levels : Nat} : Schema.Composed levels .blob
  | boundary {levels : Nat} : Schema.Composed (levels + 1) .boundary
  | nothing {levels : Nat} : Schema.Composed levels .nothing
  | optional {α : Type} {levels : Nat} {schema : Schema α}
    (present : ∀ value, schema.toJson value ≠ .null) :
    Schema.Composed levels schema → Schema.Composed levels schema.optional
  -- A list is refused if it announces more items than bytes.
  | list {α : Type} {levels : Nat} {schema : Schema α}
    (filled : ∀ item, 0 < (schema.put item).length) :
    Schema.Composed levels schema → Schema.Composed (levels + 1) schema.list
  | fields {α : Type} {levels : Nat} {fields : Fields α} :
    Fields.Composed levels fields → Schema.Composed (levels + 1) fields.schema

inductive Fields.Composed : {α : Type} → (levels : Nat) → Fields α → Prop
  | done {levels : Nat} : Fields.Composed levels .done
  -- No two fields share a name.
  | field {α β : Type} {levels : Nat} {name : String} {schema : Schema α} {rest : Fields β}
    (fresh : ∀ value, ∀ member ∈ rest.toMembers value, member.1 ≠ some name) :
    Schema.Composed levels schema → Fields.Composed levels rest →
      Fields.Composed levels (.field name schema rest)
  | as {α β : Type} {levels : Nat} {fields : Fields α} {pack : α → β} {unpack : β → α}
    (pack_unpack : ∀ value, pack (unpack value) = value)
    (unpack_pack : ∀ value, unpack (pack value) = value) :
    Fields.Composed levels fields → Fields.Composed levels (fields.as pack unpack)

end

mutual

theorem Schema.Composed.lawful {α : Type} {levels : Nat} {schema : Schema α} :
    schema.Composed levels → schema.Lawful
  | .u16 => Schema.lawful_u16
  | .i32 => Schema.lawful_i32
  | .i64 => Schema.lawful_i64
  | .flag => Schema.lawful_flag
  | .text => Schema.lawful_text
  | .blob => Schema.lawful_blob
  | .boundary => Schema.lawful_boundary
  | .nothing => Schema.lawful_nothing
  | .optional _ composed => Schema.lawful_optional composed.lawful
  | .list filled composed => Schema.lawful_list composed.lawful filled
  | .fields composed => Fields.lawful_schema composed.lawful

theorem Fields.Composed.lawful {α : Type} {levels : Nat} {fields : Fields α} :
    fields.Composed levels → fields.Lawful
  | .done => Fields.lawful_done
  | .field _ schema rest => Fields.lawful_field schema.lawful rest.lawful
  | .as pack_unpack unpack_pack composed => Fields.lawful_as composed.lawful pack_unpack unpack_pack

end

theorem Fields.Composed.structure {α β : Type} {levels : Nat} {fields : Fields α} {pack : α → β}
    {unpack : β → α} (composed : fields.Composed levels)
    (pack_unpack : ∀ value, pack (unpack value) = value := by
      exact fun _ => rfl)
    (unpack_pack : ∀ value, unpack (pack value) = value := by exact fun _ => rfl) :
    (fields.as pack unpack).schema.Composed (levels + 1) :=
  .fields (.as pack_unpack unpack_pack composed)

theorem Fields.Composed.named {α β : Type} {levels : Nat} {name : String} {schema : Schema α}
    {rest : Fields β} (composed : schema.Composed levels) (others : rest.Composed levels)
    (fresh : ∀ value, ∀ member ∈ rest.toMembers value, member.1 ≠ some name := by
      simp [Fields.field, Fields.done]) :
    (Fields.field name schema rest).Composed levels :=
  .field fresh composed others

open Schema.Composed Fields.Composed

theorem composed_permissions {levels : Nat} : PermissionStatus.schema.Composed (levels + 1) :=
  (named text <| named text <| named u16 done).structure

theorem composed_tokenIdentifier {levels : Nat} : TokenIdentifier.schema.Composed (levels + 1) :=
  (named text <| named text <| named text <| named i64 <| named i64 <| named i32 <|
    named i32 done).structure

theorem composed_blocks {levels : Nat} : Block.schema.list.Composed (levels + 2) := by
  refine list (fun block => ?_) (named i64 <| named i64 <| named i64 done).structure
  simp only [Block.schema, Fields.schema, Fields.as, Fields.field, Schema.i64, Schema.integer,
    List.length_append, BigEndian.length_encode]
  omega

theorem composed_fileStatus : FileStatus.schema.Composed 3 :=
  (named text <| named u16 <| named i64 <| named i64 <| named i64 <| named composed_blocks <|
    named composed_permissions <| named text <| named text done).structure

theorem composed_datanode : Datanode.schema.Composed 3 := (named text done).structure

theorem composed_tokenLease : TokenLease.schema.Composed 3 :=
  (named composed_tokenIdentifier <| named i64 done).structure

theorem composed_texts {levels : Nat} : Schema.text.list.Composed (levels + 1) := by
  refine list (fun value => ?_) text
  simp only [Schema.text, Schema.putCounted, List.length_append, BigEndian.length_encode]
  omega

theorem composed_optionalText {levels : Nat} : Schema.text.optional.Composed levels :=
  optional nofun text

theorem Opcode.composed (opcode : Opcode) : opcode.schema.Composed 3 := by
  cases opcode with
  | add | close => exact composed_fileStatus
  | renameOld => exact (named text <| named text <| named i64 done).structure
  | delete => exact (named text <| named i64 done).structure
  | mkdir => exact (named text <| named i64 <| named composed_permissions done).structure
  | setReplication | setPermissions => exact (named text <| named u16 done).structure
  | datanodeAdd | datanodeRemove => exact composed_datanode
  | setOwner =>
    exact (named text <| named composed_optionalText <| named composed_optionalText done).structure
  | setGenstamp => exact (named i64 done).structure
  | setNsQuota => exact (named text <| named i64 done).structure
  | clearNsQuota => exact (named text done).structure
  | times | setQuota => exact (named text <| named i64 <| named i64 done).structure
  | rename => exact (named text <| named text <| named i64 <| named flag done).structure
  | concatDelete => exact (named text <| named composed_texts <| named i64 done).structure
  | symlink =>
    exact (named text <| named text <| named i64 <| named i64 <|
      named composed_permissions done).structure
  | getDelegationToken | renewDelegationToken => exact composed_tokenLease
  | cancelDelegationToken => exact (named composed_tokenIdentifier done).structure
  | updateMasterKey => exact (named i32 <| named i64 <| named blob done).structure
  | reassignLease => exact (named text <| named text <| named text done).structure
  | endLogSegment | startLogSegment => exact boundary
  | updateBlocks => exact (named text <| named composed_blocks done).structure
  | invalid => exact nothing

end Journal
