import Journal.Document.Emitter
import Journal.Document.Reader
import Journal.Proofs.Codec.Textual
import Journal.Proofs.Json.Compact
import Journal.Proofs.Sink
import Mathlib.Data.List.Pairwise

set_option autoImplicit false

namespace Journal.Document

def toJson (version : LayoutVersion) (records : List Record) : Json :=
  .object [(some "version", .int version.number.toInt),
    (some "records", .array (records.map Record.toJson))]

def lines : (written : Nat) → List Record → List UInt8
  | _, [] => []
  | written, record :: records =>
    Utf8.encode (DocumentEmitter.separator written) ++ Token.bytesOf record.toJson.tokens ++
      lines (written + 1) records

def written (version : LayoutVersion) (records : List Record) : List UInt8 :=
  (DocumentEmitter.opening version).flatMap Utf8.encode ++ (lines 0 records ++
    (DocumentEmitter.closing records.length).flatMap Utf8.encode)

theorem lexes_record (record : Record) :
    Lexes true false (Token.bytesOf record.toJson.tokens) record.toJson.tokens :=
  Json.lexes_value record.writable_toJson Lexes.nil

theorem lexes_laterLines {tail : List UInt8} {rest : List Token}
    (further : Lexes false true tail rest) (count : Nat) (records : List Record) :
    Lexes false true (lines (count + 1) records ++ tail)
      (Json.laterItemTokens (records.map Record.toJson) rest) := by
  induction records generalizing count with
  | nil => exact further
  | cons record records ih =>
    have separator : Lexes false true ([0x2C] ++ [0x0A, 0x20, 0x20, 0x20, 0x20]) ([.comma] ++ []) :=
      (lexes_byte (by decide) fun _ => rfl).append (lexes_blanks nofun rfl)
    rw [List.map_cons, Json.laterItemTokens, Json.tokensBefore_eq, lines, List.append_assoc,
      List.append_assoc]
    exact separator.append ((lexes_record record).append (ih (count + 1)))

theorem lexes_lines {tail : List UInt8} {rest : List Token}
    (further : Lexes false true tail rest) (records : List Record) :
    Lexes true true (lines 0 records ++ tail)
      (Json.itemTokens (records.map Record.toJson) rest) := by
  cases records with
  | nil => exact further.of_not_fresh
  | cons record records =>
    have separator : Lexes true true [0x0A, 0x20, 0x20, 0x20, 0x20] [] := lexes_blanks nofun rfl
    rw [List.map_cons, Json.itemTokens, Json.tokensBefore_eq, lines, List.append_assoc,
      List.append_assoc]
    exact separator.append ((lexes_record record).append (lexes_laterLines further 0 records))

theorem encode_signed (value : Int) :
    (if value < 0 then ["-"] else []).flatMap Utf8.encode ++ Utf8.encode (toString value.natAbs) =
      (Token.literal (.int value)).bytes := by
  -- The sign is a piece of its own, but no token of its own.
  cases value with
  | ofNat n =>
    have positive : ¬ Int.ofNat n < 0 := Int.not_lt.mpr (Int.natCast_nonneg n)
    rw [if_neg positive, Token.bytes_ofNat]
    rfl
  | negSucc n =>
    rw [if_pos (Int.negSucc_lt_zero n), Token.bytes_negSucc]
    rfl

theorem lexes_keyLine {fresh : Bool} {first : UInt8} {token : Token} (name : String)
    (opens : Lexes fresh true [first] [token]) :
    Lexes fresh true ([first] ++ ([0x0A, 0x20, 0x20] ++
        ((Token.literal (.text (some name))).bytes ++ ([0x3A] ++ [0x20]))))
      [token, .literal (.text (some name)), .colon] := by
  have colon : Lexes true true [0x3A] [.colon] :=
    .of_not_fresh (lexes_byte (by decide) fun _ => rfl)
  have margin : Lexes true true [0x0A, 0x20, 0x20] [] := lexes_blanks nofun rfl
  have space : Lexes true true [0x20] [] := lexes_blanks nofun rfl
  exact opens.append (margin.append ((lexes_text name).append (colon.append space)))

theorem lexes_opening (version : LayoutVersion) :
    Lexes true true ((DocumentEmitter.opening version).flatMap Utf8.encode)
      [.openObject, .literal (.text (some "version")), .colon, .literal (.int version.number.toInt),
        .comma, .literal (.text (some "records")), .colon, .openArray] := by
  have small : version.number.toInt.natAbs < 2 ^ 64 := by
    have low := version.number.le_toInt
    have high := version.number.toInt_lt
    omega
  have brace : Lexes true true [0x7B] [.openObject] :=
    .of_not_fresh (lexes_byte (by decide) fun _ => rfl)
  have comma : Lexes false true [0x2C] [.comma] := lexes_byte (by decide) fun _ => rfl
  have bracket : Lexes true true [0x5B] [.openArray] :=
    .of_not_fresh (lexes_byte (by decide) fun _ => rfl)
  have first := lexes_keyLine "version" brace
  have second := lexes_keyLine "records" comma
  have pieces : (DocumentEmitter.opening version).flatMap Utf8.encode =
      ([0x7B] ++ ([0x0A, 0x20, 0x20] ++
        ((Token.literal (.text (some "version"))).bytes ++ ([0x3A] ++ [0x20])))) ++
      ((Token.literal (.int version.number.toInt)).bytes ++ (([0x2C] ++ ([0x0A, 0x20, 0x20] ++
        ((Token.literal (.text (some "records"))).bytes ++ ([0x3A] ++ [0x20])))) ++ [0x5B])) := by
    have head : Utf8.encode "\x7b\n  \"version\": " = [0x7B] ++ ([0x0A, 0x20, 0x20] ++
        ((Token.literal (.text (some "version"))).bytes ++ ([0x3A] ++ [0x20]))) := by
      rw [Token.bytes_text]
      rfl
    have middle : Utf8.encode ",\n  \"records\": [" = ([0x2C] ++ ([0x0A, 0x20, 0x20] ++
        ((Token.literal (.text (some "records"))).bytes ++ ([0x3A] ++ [0x20])))) ++ [0x5B] := by
      rw [Token.bytes_text]
      rfl
    rw [← encode_signed, DocumentEmitter.opening]
    simp only [List.flatMap_append, List.flatMap_cons, List.flatMap_nil, List.append_nil, head,
      middle, List.append_assoc]
  rw [pieces]
  exact first.append ((lexes_int small).append (second.append bracket))

theorem lexes_closing (count : Nat) :
    Lexes false true ((DocumentEmitter.closing count).flatMap Utf8.encode)
      [.closeArray, .closeObject] := by
  have bracket : Lexes false true [0x5D] [.closeArray] := lexes_byte (by decide) fun _ => rfl
  have brace : Lexes true true [0x7D] [.closeObject] :=
    .of_not_fresh (lexes_byte (by decide) fun _ => rfl)
  have line : Lexes true true [0x0A] [] := lexes_blanks nofun rfl
  have last : Lexes false true ([0x5D] ++ ([0x0A] ++ ([0x7D] ++ [0x0A])))
      [.closeArray, .closeObject] := bracket.append (line.append (brace.append line))
  have margin : Lexes false true [0x0A, 0x20, 0x20] [] := lexes_blanks nofun rfl
  rw [DocumentEmitter.closing]
  split
  · exact last
  · exact margin.append last.of_not_fresh

theorem parse?_written (version : LayoutVersion) (records : List Record) :
    Json.parse? (written version records) = some (toJson version records) := by
  have tokens : (toJson version records).tokens =
      [.openObject, .literal (.text (some "version")), .colon, .literal (.int version.number.toInt),
        .comma, .literal (.text (some "records")), .colon, .openArray] ++
      Json.itemTokens (records.map Record.toJson) [.closeArray, .closeObject] := by
    rw [Json.tokens, toJson, Json.tokensBefore]
    simp only [Json.memberTokens, Json.laterMemberTokens, Json.tokensBefore, Json.int]
    rfl
  apply Json.parse?_of_lexes
  rw [tokens]
  exact ((lexes_opening version).append
    (lexes_lines (lexes_closing records.length) records)).weaken

theorem ofJson?_toJson (version : LayoutVersion) (records : List Record) :
    ofJson? (toJson version records) = some ⟨version, records⟩ := by
  have number : Schema.i32.ofJson? (.int version.number.toInt) = some version.number :=
    (show Schema.i32.Legible 0 from Schema.legible_i32).read version.number
  have items : (records.map Record.toJson).mapM (Record.ofJson? recordLevels) = some records := by
    induction records with
    | nil => rfl
    | cons record records ih =>
      have read := record.ofJson?_toJson (show 4 ≤ recordLevels by decide)
      simp [read, ih]
  have versions : Json.valuesOf "version" [(some "version", .int version.number.toInt),
      (some "records", .array (records.map Record.toJson))] = [.int version.number.toInt] := by
    simp [Json.valuesOf_eq]
  have lists : Json.valuesOf "records" [(some "version", .int version.number.toInt),
      (some "records", .array (records.map Record.toJson))] =
        [.array (records.map Record.toJson)] := by
    simp [Json.valuesOf_eq]
  rw [toJson, ofJson?, ofMembers?, versions, lists]
  simp only [ofParts?, number, items, Option.bind_eq_bind, Option.bind_some]
  rfl

theorem ordered_cons_cons {first second : Record} {records : List Record} :
    (first :: second :: records).Pairwise (·.txid ≤ ·.txid) ↔
      first.txid ≤ second.txid ∧ (second :: records).Pairwise (·.txid ≤ ·.txid) := by
  have transitive : IsTrans Record (·.txid ≤ ·.txid) := ⟨fun _ _ _ => UInt64.le_trans⟩
  exact List.pairwise_cons_cons_iff_of_trans

theorem disorder?_eq_none {index : Nat} {records : List Record} :
    disorder? index records = none ↔ records.Pairwise (·.txid ≤ ·.txid) := by
  induction records generalizing index with
  | nil => simp [disorder?]
  | cons first records ih =>
    cases records with
    | nil => simp [disorder?]
    | cons second records =>
      rw [ordered_cons_cons, disorder?]
      by_cases early : second.txid < first.txid
      · simp [early]
      · rw [if_neg early, ih]
        exact (and_iff_right (UInt64.not_lt.mp early)).symm

theorem read_eq_ok {bytes : ByteArray} {document : Document} :
    read bytes = .ok document ↔ parse? bytes = some document ∧
      document.version.isSupported = true ∧ document.records.Pairwise (·.txid ≤ ·.txid) := by
  rw [read]
  cases parse? bytes with
  | none => simp
  | some found =>
    rw [Option.some.injEq]
    by_cases supported : found.version.isSupported = true
    · simp only [supported, Bool.not_true, Bool.false_eq_true, if_false]
      cases disordered : disorder? 1 found.records with
      | none =>
        rw [Except.ok.injEq]
        constructor
        · rintro rfl
          exact ⟨rfl, supported, disorder?_eq_none.mp disordered⟩
        · exact And.left
      | some fault =>
        refine ⟨nofun, ?_⟩
        rintro ⟨rfl, -, ordered⟩
        rw [disorder?_eq_none.mpr ordered] at disordered
        contradiction
    · simp only [supported, Bool.not_false, if_true]
      refine ⟨nofun, ?_⟩
      rintro ⟨rfl, known, -⟩
      exact absurd known supported

theorem ordered_of_read {bytes : ByteArray} {document : Document}
    (parsed : read bytes = .ok document) : document.records.Pairwise (·.txid ≤ ·.txid) :=
  (read_eq_ok.mp parsed).2.2

theorem parse?_of_written {version : LayoutVersion} {records : List Record} {bytes : ByteArray}
    (spelled : Packed.toList bytes = written version records) :
    parse? bytes = some ⟨version, records⟩ := by
  rw [parse?, Json.ofPacked?_eq, spelled, parse?_written]
  exact ofJson?_toJson version records

theorem read_written {version : LayoutVersion} {records : List Record}
    (supported : version.isSupported = true) (ordered : records.Pairwise (·.txid ≤ ·.txid))
    {bytes : ByteArray} (spelled : Packed.toList bytes = written version records) :
    read bytes = .ok ⟨version, records⟩ :=
  read_eq_ok.mpr ⟨parse?_of_written spelled, supported, ordered⟩

theorem read_disordered {version : LayoutVersion} {records : List Record}
    (supported : version.isSupported = true) {fault : TextFault}
    (disordered : disorder? 1 records = some fault) {bytes : ByteArray}
    (spelled : Packed.toList bytes = written version records) :
    read bytes = .error (.text fault) := by
  simp only [read, parse?_of_written spelled, supported, disordered]
  rfl

end Journal.Document

namespace Journal.DocumentEmitter

variable {σ : Type} [Sink σ] {holds : σ → List UInt8 → Prop}

theorem consume_of_keeps (keeps : Sink.Keeps holds) {sink : σ} {bytes : List UInt8}
    (held : holds sink bytes) (record : Record) (count : Nat) (isOpen : Bool) :
    ∃ after, consume record ⟨sink, count, isOpen⟩ = (⟨after, count + 1, isOpen⟩, .ok ()) ∧
      holds after (bytes ++ (Utf8.encode (separator count) ++
        Token.bytesOf record.toJson.tokens)) := by
  obtain ⟨between, separated, held⟩ := keeps.write (separator count).toByteArray held
  obtain ⟨after, written, held⟩ := keeps.writeAll (record.toJson.tokens.flatMap Token.pieces) held
  refine ⟨after, ?_, ?_⟩
  · rw [← Sink.writeTokens_eq] at written
    simp only [consume, separated, written]
  · rw [List.flatMap_assoc, List.append_assoc] at held
    exact held

theorem deliver_of_keeps (keeps : Sink.Keeps holds) (records : List Record) {sink : σ}
    {bytes : List UInt8} (held : holds sink bytes) (count : Nat) (isOpen : Bool) :
    ∃ after, RecordStream.deliver (records.map (none, ·))
        (⟨sink, count, isOpen⟩ : DocumentEmitter σ) =
          (⟨after, count + records.length, isOpen⟩, none) ∧
      holds after (bytes ++ Document.lines count records) := by
  induction records generalizing sink bytes count with
  | nil => exact ⟨sink, rfl, by rwa [Document.lines, List.append_nil]⟩
  | cons record records ih =>
    obtain ⟨next, consumed, held⟩ := consume_of_keeps keeps held record count isOpen
    obtain ⟨after, delivered, held⟩ := ih held (count + 1)
    refine ⟨after, ?_, by rwa [Document.lines, ← List.append_assoc]⟩
    rw [List.map_cons, RecordStream.deliver]
    simp only [Visitor.consume, consumed, delivered, List.length_cons]
    rw [Nat.add_right_comm, Nat.add_assoc]

theorem visit_of_keeps (keeps : Sink.Keeps holds) (version : LayoutVersion) (records : List Record)
    {sink : σ} (empty : holds sink []) :
    ∃ after, RecordStream.visit ⟨version, records.map (none, ·), none⟩ (onto sink) =
        (⟨after, records.length, false⟩, .ok ()) ∧
      holds after (Document.written version records) := by
  obtain ⟨first, opened, held⟩ := keeps.writeAll (opening version) empty
  obtain ⟨last, delivered, held⟩ := deliver_of_keeps keeps records held 0 true
  obtain ⟨ended, closed, held⟩ := keeps.writeAll (closing records.length) held
  obtain ⟨after, flushed, held⟩ := keeps.flush held
  refine ⟨after, ?_, ?_⟩
  · rw [Nat.zero_add] at delivered
    simp only [RecordStream.visit, Visitor.onOpen, onOpen, onto, opened, delivered, Visitor.onClose,
      onClose, if_true, closed, flushed]
  · rwa [List.nil_append, List.append_assoc] at held

theorem feed_of_keeps (keeps : Sink.Keeps holds) (document : Document) {sink : σ}
    (empty : holds sink []) :
    ∃ emitter, document.feed (onto sink) = (emitter, .ok document.records.length) ∧
      holds emitter.sink (Document.written document.version document.records) := by
  obtain ⟨after, visited, held⟩ := visit_of_keeps keeps document.version document.records empty
  refine ⟨⟨after, document.records.length, false⟩, ?_, held⟩
  simp only [Document.feed, Document.stream, visited]

end Journal.DocumentEmitter

namespace Journal

/-- Whatever the strings, keys, numbers and missing options of its records are, the text that is written
for a document stands for that document. It is refused only if the version is not supported or the ids
descend. -/
theorem document_read_back {σ : Type} [Sink σ] {holds : σ → List UInt8 → Prop}
    (keeps : Sink.Keeps holds) (document : Document) {sink : σ} (empty : holds sink []) :
    ∃ emitter text, document.feed (DocumentEmitter.onto sink) =
        (emitter, .ok document.records.length) ∧
      holds emitter.sink text ∧ Document.parse? text.toByteArray = some document ∧
      (Document.read text.toByteArray = .ok document ↔
        document.version.isSupported = true ∧ document.records.Pairwise (·.txid ≤ ·.txid)) := by
  obtain ⟨emitter, fed, held⟩ := DocumentEmitter.feed_of_keeps keeps document empty
  have parsed := Document.parse?_of_written
    (Packed.toList_toByteArray (Document.written document.version document.records))
  exact ⟨emitter, _, fed, held, parsed, Document.read_eq_ok.trans (and_iff_right parsed)⟩

theorem document_read_back_extremes :
    ∃ emitter text, Document.feed ⟨.checksummed,
        [⟨0, .rename, ⟨"\u0000\n\t\"\\\u001f", "/é/日本/😀", Int64.minValue, true⟩⟩,
          ⟨7, .setOwner, ⟨"", none, some "null"⟩⟩,
          ⟨UInt64.ofNat (2 ^ 64 - 1), .updateMasterKey, ⟨Int32.minValue, Int64.maxValue, [0xFF, 0]⟩⟩]⟩
        (DocumentEmitter.onto Buffer.empty) = (emitter, .ok 3) ∧
      emitter.sink.bytes = text ∧
      Document.read text.toByteArray = .ok ⟨.checksummed,
        [⟨0, .rename, ⟨"\u0000\n\t\"\\\u001f", "/é/日本/😀", Int64.minValue, true⟩⟩,
          ⟨7, .setOwner, ⟨"", none, some "null"⟩⟩,
          ⟨UInt64.ofNat (2 ^ 64 - 1), .updateMasterKey,
            ⟨Int32.minValue, Int64.maxValue, [0xFF, 0]⟩⟩]⟩ := by
  obtain ⟨emitter, text, fed, held, -, accepted⟩ :=
    document_read_back Buffer.keeps _ (show Buffer.empty.bytes = [] from rfl)
  exact ⟨emitter, text, fed, held, accepted.mpr ⟨by decide, by decide⟩⟩

end Journal
