import Journal.Proofs.Document
import Journal.Proofs.Json.Grammar
import Journal.Proofs.Json.Rewriting

set_option autoImplicit false

namespace Journal

open Json (Rewrite Kept valuesOf)

namespace Operation

theorem ofMembers?_of_kept {ofTag? : Json → Option Opcode} {operation : Operation}
    {members members' : Members} (read : ofMembers? ofTag? members = some operation)
    (tags : Kept (.text operation.opcode.name) (valuesOf "opcode" members)
      (valuesOf "opcode" members'))
    (payloads : Kept (operation.opcode.schema.toJson operation.payload) (valuesOf "data" members)
      (valuesOf "data" members')) :
    ofMembers? ofTag? members' = some operation := by
  unfold ofMembers? at read
  split at read
  · next tag data oneTag onePayload =>
    obtain ⟨opcode, tagged, read⟩ := Option.bind_eq_some_iff.mp read
    obtain ⟨payload, filled, read⟩ := Option.bind_eq_some_iff.mp read
    obtain rfl := Option.some.inj read
    obtain ⟨data', alone, same⟩ := payloads.one data onePayload
    have filled' : opcode.schema.ofJson? data' = some payload := by
      rcases same with rfl | rewrite
      · exact filled
      · exact opcode.composed.tolerant.read filled rewrite
    rw [ofMembers?, tags.literal oneTag, alone]
    simp only [ofTagged?, tagged, filled', Option.bind_eq_bind, Option.bind_some]
    rfl
  · contradiction

end Operation

namespace Record

theorem tolerant (levels : Nat) : Tolerant toJson (ofJson? levels) := by
  constructor
  intro record json json' read rewrite
  unfold ofJson? at read
  split at read
  · next sound =>
    cases json with
    | literal | array => contradiction
    | object members =>
      obtain ⟨members', rfl⟩ := rewrite.object
      dsimp only at read
      split at read
      · next txid alone =>
        obtain ⟨number, numbered, read⟩ := Option.bind_eq_some_iff.mp read
        obtain ⟨operation, operated, read⟩ := Option.bind_eq_some_iff.mp read
        obtain rfl := Option.some.inj read
        have sound' := rewrite.isSound sound
        change Rewrite (.object ((some "txid", .int number.toNat) :: operation.members)) _ _ at rewrite
        have ids : Kept (.int number.toNat) (valuesOf "txid" members) (valuesOf "txid" members') :=
          rewrite.kept (by simp [Operation.members, Json.valuesOf_eq])
        have operated' := Operation.ofMembers?_of_kept operated
          (rewrite.kept (by simp [Operation.members, Json.valuesOf_eq]))
          (rewrite.kept (by simp [Operation.members, Json.valuesOf_eq]))
        simp only [ofJson?, if_pos sound', ids.literal alone, numbered, operated']
        rfl
      · contradiction
  · contradiction

end Record

namespace Document

theorem ofParts?_of_rewrite {version records records' : Json} {document : Document}
    (read : ofParts? version records = some document)
    (rewrite : Rewrite (.array (document.records.map Record.toJson)) records records') :
    ofParts? version records' = some document := by
  obtain ⟨number, numbered, read⟩ := Option.bind_eq_some_iff.mp read
  cases rewrite with
  | item before after placed inner =>
    obtain ⟨found, each, read⟩ := Option.bind_eq_some_iff.mp read
    obtain rfl := Option.some.inj read
    have each' := (Record.tolerant recordLevels).mapM each placed inner
    simp only [ofParts?, numbered, each', Option.bind_eq_bind, Option.bind_some]
    rfl

theorem tolerant :
    Tolerant (fun document => toJson document.version document.records) ofJson? := by
  constructor
  intro document json json' read rewrite
  change Rewrite (.object [(some "version", .int document.version.number.toInt),
    (some "records", .array (document.records.map Record.toJson))]) json json' at rewrite
  cases json with
  | literal => contradiction
  | array items =>
    cases rewrite with
    | item before after placed inner =>
      -- The version is a literal, which nothing rewrites.
      match before, after with
      | [], _ =>
        obtain rfl := Option.some.inj placed
        exact absurd inner Json.not_rewrite_literal
      | [version], [] =>
        obtain rfl := Option.some.inj placed
        exact ofParts?_of_rewrite read inner
      | [_], _ :: _ => contradiction
      | _ :: _ :: _, _ => contradiction
  | object members =>
    obtain ⟨members', rfl⟩ := rewrite.object
    change (if members.all (·.1.isSome) then _ else none) = _ at read
    split at read
    · next keys =>
      have versions : Kept (.int document.version.number.toInt) (valuesOf "version" members)
          (valuesOf "version" members') := rewrite.kept (by simp [Json.valuesOf_eq])
      have lists : Kept (.array (document.records.map Record.toJson)) (valuesOf "records" members)
          (valuesOf "records" members') := rewrite.kept (by simp [Json.valuesOf_eq])
      split at read
      · next version records oneVersion oneList =>
        obtain ⟨records', alone, same⟩ := lists.one records oneList
        rw [ofJson?, ofMembers?, if_pos (rewrite.keys keys), versions.literal oneVersion, alone]
        rcases same with rfl | inner
        · exact read
        · exact ofParts?_of_rewrite read inner
      · contradiction
    · contradiction

theorem parse?_eq_some {bytes : ByteArray} {document : Document} :
    parse? bytes = some document ↔
      ∃ json, Spelled json.tokens (Packed.toList bytes) ∧ ofJson? json = some document := by
  simp only [parse?, Json.ofPacked?_eq, ← Json.parse?_eq_some]
  exact Option.bind_eq_some_iff

/-- A text that is accepted is the text of one value. Another text is read as the same document if it
spells that value in another way, or a value that is made of it by putting members in another order and
adding strings under names that their objects do not define. -/
theorem read_of_rewritten {bytes : ByteArray} {document : Document}
    (accepted : read bytes = .ok document) :
    ∃ json, (∀ other, Spelled other.tokens (Packed.toList bytes) ↔ other = json) ∧
      ∀ json' bytes', Relation.ReflTransGen
          (Rewrite (toJson document.version document.records)) json json' →
        Spelled json'.tokens (Packed.toList bytes') → read bytes' = .ok document := by
  obtain ⟨parsed, valid⟩ := read_eq_ok.mp accepted
  obtain ⟨json, spelled, said⟩ := parse?_eq_some.mp parsed
  refine ⟨json, fun other => ?_, fun json' bytes' rewritten respelled => ?_⟩
  · rw [← Json.parse?_eq_some, Json.parse?_eq_some.mpr spelled, Option.some.injEq, eq_comm]
  · exact read_eq_ok.mpr ⟨parse?_eq_some.mpr ⟨json', respelled, tolerant.run said rewritten⟩, valid⟩

set_option maxRecDepth 1000 in
theorem read_of_rewritten_backwards :
    read (written .checksummed [⟨1, .delete, ⟨"/a", 2⟩⟩]).toByteArray =
        .ok ⟨.checksummed, [⟨1, .delete, ⟨"/a", 2⟩⟩]⟩ ∧
      read ("\x7b\"records\": [\x7b\"data\":\x7b\"timestamp\":2,\"path\":\"/a\",\"txid\":\"\"\x7d," ++
          "\"opcode\":\"OP_DELETE\" , \"txid\":1,\"path\":\"x\"\x7d],\n\"version\":-40," ++
          "\"data\":\"\"\x7d").toByteArray =
        .ok ⟨.checksummed, [⟨1, .delete, ⟨"/a", 2⟩⟩]⟩ := by
  have accepted := read_written (show LayoutVersion.checksummed.isSupported = true by decide)
    (List.pairwise_singleton _ (⟨1, .delete, ⟨"/a", 2⟩⟩ : Record)) (Packed.toList_toByteArray _)
  refine ⟨accepted, ?_⟩
  obtain ⟨json, alone, further⟩ := read_of_rewritten accepted
  obtain rfl := (alone _).mp <| by
    rw [Packed.toList_toByteArray]
    exact Json.parse?_eq_some.mp (parse?_written _ _)
  have backwards {known members : Members} (name value : String)
      (undefined : valuesOf name known = []) :
      Relation.ReflTransGen (Rewrite (.object known)) (.object members)
        (.object ((some name, .text value) :: members).reverse) :=
    .tail (.single (.insert undefined)) (.shuffle (List.reverse_perm _).symm)
  let data : Json := .object [(some "path", .text "/a"), (some "timestamp", .int 2)]
  let record (data : Json) : Json :=
    .object [(some "txid", .int 1), (some "opcode", .text "OP_DELETE"), (some "data", data)]
  let document (record : Json) : Json :=
    .object [(some "version", .int (-40)), (some "records", .array [record])]
  have inRecord {json json' : Json} (inner : Rewrite data json json') :
      Rewrite (record data) (record json) (record json') := .member [_, _] [] rfl inner
  have inDocument {json json' : Json} (inner : Rewrite (record data) json json') :
      Rewrite (document (record data)) (document json) (document json') :=
    .member [_] [] rfl (.item [] [] rfl inner)
  have payload : Relation.ReflTransGen (Rewrite data) data _ := backwards "txid" "" rfl
  have both := (payload.lift record fun _ _ => inRecord).trans (backwards "path" "x" rfl)
  have whole := (both.lift document fun _ _ => inDocument).trans (backwards "data" "" rfl)
  exact further _ _ whole (Json.parse?_eq_some.mp rfl)

end Document

end Journal
