import Journal.Proofs.Document

set_option autoImplicit false

namespace Journal

theorem printed_of_mem_charBytes {c : Char} {byte : UInt8} (inside : byte ∈ charBytes c) :
    ¬ byte < 0x20 := by
  by_cases small : c.toNat < 0x60
  · have all : ∀ n < 0x60, ∀ byte ∈ charBytes (Char.ofNat n), ¬ byte < 0x20 := by decide +kernel
    exact all c.toNat small byte (by rwa [Char.ofNat_toNat])
  · have plain : isPlain c = true := by
      simp only [isPlain, Bool.and_eq_true, decide_eq_true_eq]
      omega
    rw [charBytes, escape?, if_pos plain] at inside
    exact (Lexer.plain_of_mem_encodeChar plain inside).2.2

theorem printed_of_mem_digitBytes {n : Nat} {byte : UInt8} (inside : byte ∈ digitBytes n) :
    ¬ byte < 0x20 := by
  have digit : ∀ d < 10, ¬ digitByte d < 0x20 := by decide
  induction n using Nat.strongRecOn with
  | ind n ih =>
    by_cases small : n < 10
    · rw [digitBytes_of_lt small, List.mem_singleton] at inside
      exact inside ▸ digit n small
    · rw [digitBytes_of_le (by omega), List.mem_append, List.mem_singleton] at inside
      rcases inside with inside | rfl
      · exact ih (n / 10) (by omega) inside
      · exact digit (n % 10) (Nat.mod_lt _ (by decide))

theorem Token.printed_of_mem_bytes {token : Token} {byte : UInt8} (inside : byte ∈ token.bytes) :
    ¬ byte < 0x20 := by
  have fixed : ∀ token ∈ [openObject, closeObject, openArray, closeArray, colon, comma,
      literal .null, literal (.bool true), literal (.bool false)],
      ∀ byte ∈ token.bytes, ¬ byte < 0x20 := by decide +kernel
  cases token with
  | literal value =>
    cases value with
    | null => exact fixed _ (by simp) byte inside
    | bool value => cases value <;> exact fixed _ (by simp) byte inside
    | int value =>
      cases value with
      | ofNat n =>
        rw [bytes_ofNat] at inside
        exact printed_of_mem_digitBytes inside
      | negSucc n =>
        rw [bytes_negSucc, List.mem_cons] at inside
        rcases inside with rfl | inside
        · decide
        · exact printed_of_mem_digitBytes inside
    | real finite => exact absurd inside List.not_mem_nil
    | text value =>
      cases value with
      | none => exact absurd inside List.not_mem_nil
      | some text =>
        rw [bytes_text, List.mem_cons, List.mem_append, List.mem_singleton] at inside
        rcases inside with rfl | inside | rfl
        · decide
        · obtain ⟨c, -, inside⟩ := List.mem_flatMap.mp inside
          exact printed_of_mem_charBytes inside
        · decide
  | _ => exact fixed _ (by simp) byte inside

theorem Json.encode_compact (json : Json) :
    Utf8.encode json.compact = Token.bytesOf json.tokens := by
  rw [compact, Utf8.encode_join, pieces, List.flatMap_assoc]
  rfl

def Printed (text : String) : Prop := ∀ byte ∈ Utf8.encode text, ¬ byte < 0x20

instance (text : String) : Decidable (Printed text) :=
  inferInstanceAs (Decidable (∀ byte ∈ Utf8.encode text, ¬ byte < 0x20))

theorem Printed.append {first second : String} (front : Printed first) (back : Printed second) :
    Printed (first ++ second) := by
  intro byte inside
  rw [Utf8.encode_append, List.mem_append] at inside
  exact inside.elim (front byte) (back byte)

theorem Json.printed_compact (json : Json) : Printed json.compact := by
  intro byte inside
  rw [encode_compact] at inside
  obtain ⟨token, -, inside⟩ := List.mem_flatMap.mp inside
  exact token.printed_of_mem_bytes inside

theorem LayoutVersion.encode_text (version : LayoutVersion) :
    Utf8.encode version.text = (Token.literal (.int version.number.toInt)).bytes :=
  (List.append_nil _).symm

theorem LayoutVersion.printed_text (version : LayoutVersion) : Printed version.text := by
  intro byte inside
  rw [encode_text] at inside
  exact Token.printed_of_mem_bytes inside

def newline : UInt8 := 0x0A

def ofLines (lines : List String) : List UInt8 :=
  lines.flatMap fun line => Utf8.encode line ++ [newline]

theorem ofLines_append (first second : List String) :
    ofLines (first ++ second) = ofLines first ++ ofLines second := List.flatMap_append

theorem Printed.newline_notMem {text : String} (printed : Printed text) :
    newline ∉ Utf8.encode text := fun inside => printed newline inside (by decide)

theorem splitOn_ofLines {lines : List String} (printed : ∀ line ∈ lines, Printed line) :
    (ofLines lines).splitOn newline = lines.map Utf8.encode ++ [[]] := by
  induction lines with
  | nil => rfl
  | cons line lines ih =>
    obtain ⟨first, others⟩ := List.forall_mem_cons.mp printed
    rw [ofLines, List.flatMap_cons, List.append_assoc, List.singleton_append,
      List.splitOn_append_cons_self_of_not_mem first.newline_notMem, ← ofLines, ih others]
    rfl

namespace Document

def recordLine (isLast : Bool) (record : Record) : String :=
  "    " ++ record.text ++ if isLast then "" else ","

def recordLines (records : List Record) : List String :=
  records.mapIdx fun i record => recordLine (i + 1 = records.length) record

def textLines (document : Document) : List String :=
  ["\x7b", "  \"version\": " ++ document.version.text ++ ",", "  \"records\": ["] ++
    recordLines document.records ++ ["  ]", "\x7d"]

theorem recordLines_cons_cons (record next : Record) (rest : List Record) :
    recordLines (record :: next :: rest) =
      recordLine false record :: recordLines (next :: rest) := by
  simp [recordLines, List.mapIdx_cons]

theorem ofLines_recordLines (record : Record) (rest : List Record) (count : Nat) :
    ofLines (recordLines (record :: rest)) =
      Utf8.encode "    " ++ Utf8.encode record.text ++ (lines (count + 1) rest ++ [newline]) := by
  -- A separator ends the line of one record and begins that of the next.
  induction rest generalizing record count with
  | nil => simp [recordLines, recordLine, ofLines, lines, Utf8.encode_append]
  | cons next rest ih =>
    have separator : Utf8.encode (DocumentEmitter.separator (count + 1)) =
        Utf8.encode "," ++ ([newline] ++ Utf8.encode "    ") := rfl
    rw [recordLines_cons_cons, ofLines, List.flatMap_cons, ← ofLines, ih next (count + 1), lines,
      separator, ← Json.encode_compact, ← Record.text, recordLine]
    simp [Utf8.encode_append]

theorem ofLines_opening (version : LayoutVersion) :
    ofLines ["\x7b", "  \"version\": " ++ version.text ++ ",", "  \"records\": ["] =
      (DocumentEmitter.opening version).flatMap Utf8.encode ++ [newline] := by
  have head : Utf8.encode "\x7b\n  \"version\": " =
      Utf8.encode "\x7b" ++ ([newline] ++ Utf8.encode "  \"version\": ") := rfl
  have middle : Utf8.encode ",\n  \"records\": [" =
      Utf8.encode "," ++ ([newline] ++ Utf8.encode "  \"records\": [") := rfl
  simp only [DocumentEmitter.opening, List.flatMap_append, List.flatMap_cons, List.flatMap_nil, head,
    middle, ofLines, Utf8.encode_append, version.encode_text, ← encode_signed, List.append_assoc,
    List.append_nil]

theorem written_eq_ofLines (document : Document) (filled : document.records ≠ []) :
    written document.version document.records = ofLines document.textLines := by
  obtain ⟨version, records⟩ := document
  cases records with
  | nil => contradiction
  | cons record rest =>
    have closing : (DocumentEmitter.closing (rest.length + 1)).flatMap Utf8.encode =
        [newline] ++ ofLines ["  ]", "\x7d"] := rfl
    have separator : Utf8.encode (DocumentEmitter.separator 0) =
        [newline] ++ Utf8.encode "    " := rfl
    rw [written, textLines, ofLines_append, ofLines_append, ofLines_opening,
      ofLines_recordLines record rest 0, lines, separator, ← Json.encode_compact, ← Record.text,
      List.length_cons, closing]
    simp only [List.append_assoc]

theorem printed_recordLine (isLast : Bool) (record : Record) :
    Printed (recordLine isLast record) := by
  have comma : Printed (if isLast then "" else ",") := by
    cases isLast <;> decide +kernel
  exact ((by decide +kernel : Printed "    ").append record.toJson.printed_compact).append comma

theorem printed_textLines (document : Document) : ∀ line ∈ document.textLines, Printed line := by
  intro line inside
  simp only [textLines, List.mem_append, List.mem_cons, List.not_mem_nil, or_false] at inside
  rcases inside with ((rfl | rfl | rfl) | inside) | rfl | rfl
  · decide +kernel
  · have key : Printed "  \"version\": " := by decide +kernel
    have comma : Printed "," := by decide +kernel
    exact (key.append document.version.printed_text).append comma
  · decide +kernel
  · obtain ⟨i, _, rfl⟩ := List.mem_mapIdx.mp inside
    exact printed_recordLine _ _
  · decide +kernel
  · decide +kernel

theorem textLines_set (version : LayoutVersion) {records : List Record} {i : Nat}
    (inside : i < records.length) (other : Record) :
    textLines ⟨version, records.set i other⟩ = (textLines ⟨version, records⟩).set (3 + i)
      (recordLine (i + 1 = records.length) other) := by
  have changed : recordLines (records.set i other) =
      (recordLines records).set i (recordLine (i + 1 = records.length) other) := by
    rw [recordLines, List.mapIdx_set, List.length_set, recordLines]
  have within : i < (recordLines records).length := by rwa [recordLines, List.length_mapIdx]
  rw [textLines, textLines, changed, List.append_assoc, List.append_assoc,
    List.set_append_right _ _ (by simp), List.set_append_left]
  · simp
  · simpa using within

end Document

/-- Whatever is in them, the records of a document are written one a line: between three lines that
open it and two that close it each record has its own, which only it determines but for the
comma. -/
theorem one_record_per_line {σ : Type} [Sink σ] {holds : σ → List UInt8 → Prop}
    (keeps : Sink.Keeps holds) (document : Document) (filled : document.records ≠ []) {sink : σ}
    (empty : holds sink []) :
    ∃ emitter text, document.feed (DocumentEmitter.onto sink) =
        (emitter, .ok document.records.length) ∧
      holds emitter.sink text ∧
      text.splitOn newline = document.textLines.map Utf8.encode ++ [[]] ∧
      (∀ record : Record, newline ∉ Utf8.encode record.text) ∧
      ∀ i < document.records.length, ∀ other : Record, ∃ emitter' text',
        Document.feed ⟨document.version, document.records.set i other⟩
            (DocumentEmitter.onto sink) = (emitter', .ok document.records.length) ∧
          holds emitter'.sink text' ∧
          text'.splitOn newline = (text.splitOn newline).set (3 + i)
            (Utf8.encode (Document.recordLine (i + 1 = document.records.length) other)) := by
  have whole (document : Document) (filled : document.records ≠ []) :
      ∃ emitter text, document.feed (DocumentEmitter.onto sink) =
          (emitter, .ok document.records.length) ∧
        holds emitter.sink text ∧
        text.splitOn newline = document.textLines.map Utf8.encode ++ [[]] := by
    obtain ⟨emitter, fed, held⟩ := DocumentEmitter.feed_of_keeps keeps document empty
    refine ⟨emitter, _, fed, held, ?_⟩
    rw [Document.written_eq_ofLines document filled, splitOn_ofLines document.printed_textLines]
  obtain ⟨emitter, text, fed, held, split⟩ := whole document filled
  refine ⟨emitter, text, fed, held, split, fun record => record.toJson.printed_compact.newline_notMem,
    fun i inside other => ?_⟩
  obtain ⟨version, records⟩ := document
  obtain ⟨emitter', text', fed', held', split'⟩ := whole ⟨version, records.set i other⟩
    (by simpa using filled)
  rw [List.length_set] at fed'
  refine ⟨emitter', text', fed', held', ?_⟩
  have within : 3 + i < ((Document.textLines ⟨version, records⟩).map Utf8.encode).length := by
    simp only [Document.textLines, Document.recordLines, List.length_map, List.length_append,
      List.length_mapIdx, List.length_cons, List.length_nil]
    have : i < records.length := inside
    omega
  rw [split', split, Document.textLines_set version inside, List.map_set,
    List.set_append_left _ _ within]

theorem one_record_per_line_path :
    ∃ emitter text, Document.feed ⟨.checksummed, [⟨7, .delete, ⟨"a\nb", 9⟩⟩, ⟨8, .endSegment⟩]⟩
        (DocumentEmitter.onto Buffer.empty) = (emitter, .ok 2) ∧
      emitter.sink.bytes = text ∧ (text.splitOn newline).length = 3 + 2 + 2 + 1 := by
  obtain ⟨emitter, text, fed, held, split, -⟩ := one_record_per_line Buffer.keeps
    ⟨.checksummed, [⟨7, .delete, ⟨"a\nb", 9⟩⟩, ⟨8, .endSegment⟩]⟩ (by simp)
    (show Buffer.empty.bytes = [] from rfl)
  exact ⟨emitter, text, fed, held, congrArg List.length split⟩

end Journal
