import Journal.Conversion
import Journal.Proofs.Document
import Journal.Proofs.Json.Grammar
import Journal.Proofs.Segment.Trace

set_option autoImplicit false

namespace Journal

theorem Token.scan?_blank {byte : UInt8} (blank : Lexer.isBlank byte = true) (rest : List UInt8) :
    scan? (byte :: rest) = scan? rest := by
  obtain ⟨lexer, run, rfl⟩ := lexes_blank blank .start [] (.inl rfl)
  rw [← List.singleton_append, scan?_append_of_run? run]
  simp

theorem Token.scan?_openObject (rest : List UInt8) :
    scan? (InputKind.openBrace :: rest) = (scan? rest).map (.openObject :: ·) := by
  have run : Lexer.start.run? [InputKind.openBrace] = some ⟨[.openObject], .between⟩ := rfl
  exact scan?_append_of_run? run rest

theorem Spelled.head?_ne_openObject {tokens : List Token} {byte : UInt8} {rest : List UInt8}
    (spelled : Spelled tokens (byte :: rest)) (unblank : Lexer.isBlank byte = false)
    (other : byte ≠ InputKind.openBrace) : tokens.head? ≠ some .openObject := by
  generalize stands : byte :: rest = bytes at spelled
  cases spelled with
  | done => contradiction
  | blank blank =>
    obtain ⟨rfl, -⟩ := List.cons.inj stands
    rw [blank] at unblank
    contradiction
  | mark =>
    rintro ⟨⟩
    exact other (List.cons.inj stands).1
  | literal => nofun

namespace InputKind

theorem isBlank_of_lexer {byte : UInt8} (unblank : isBlank byte = false) :
    Lexer.isBlank byte = false := by
  simp only [isBlank, Lexer.isBlank, Bool.or_eq_false_iff] at unblank ⊢
  simp [unblank]

/-- A form feed counts as blank here, but no token can follow it. -/
theorem find?_eq_openBrace {bytes : List UInt8} {tokens : List Token}
    (scanned : Token.scan? bytes = some tokens) :
    bytes.find? (!isBlank ·) = some openBrace ↔ tokens.head? = some .openObject := by
  induction bytes generalizing tokens with
  | nil =>
    obtain rfl : tokens = [] := (Option.some.inj scanned).symm
    simp
  | cons byte rest ih =>
    cases blank : isBlank byte with
    | true =>
      rw [List.find?_cons_of_neg (by simp [blank])]
      cases lexed : Lexer.isBlank byte with
      | true =>
        rw [Token.scan?_blank lexed] at scanned
        exact ih scanned
      | false =>
        have formFeed : byte = 0x0C := by
          simp only [isBlank, Lexer.isBlank, Bool.or_eq_true, Bool.or_eq_false_iff, beq_iff_eq,
            beq_eq_false_iff_ne] at blank lexed
          tauto
        subst formFeed
        contradiction
    | false =>
      rw [List.find?_cons_of_pos (by simp [blank]), Option.some.injEq]
      by_cases brace : byte = openBrace
      · subst brace
        rw [Token.scan?_openObject] at scanned
        obtain ⟨later, -, rfl⟩ := Option.map_eq_some_iff.mp scanned
        simp
      · have apart := (spelled_of_scan? scanned).head?_ne_openObject (isBlank_of_lexer blank) brace
        simp [brace, apart]

theorem sniff_of_parsed {bytes : ByteArray} {json : Json} (parsed : Json.ofPacked? bytes = some json) :
    sniff bytes = .text ↔ ∃ members, json = .object members := by
  rw [Json.ofPacked?_eq] at parsed
  obtain ⟨tokens, scanned, read⟩ := Option.bind_eq_some_iff.mp parsed
  obtain rfl := Json.ofTokens?_eq_some.mp read
  have first : sniff bytes = .text ↔ json.tokens.head? = some .openObject := by
    rw [← find?_eq_openBrace scanned, sniff_eq]
    split <;> simp [*]
  rw [first, Json.tokens]
  cases json <;> simp [Json.tokensBefore]

end InputKind

theorem LayoutVersion.header_of_supported {version : LayoutVersion}
    (supported : version.isSupported = true) : version.header.head? = some 0xFF := by
  have known : version = .unchecksummed ∨ version = .checksummed := by
    simpa [isSupported, LayoutVersion.supported] using supported
  rcases known with rfl | rfl <;> rfl

theorem Segment.head?_of_scan {config : Config} {bytes : List UInt8} {found : Scan}
    (scanned : scan .strict config bytes = .ok found) : bytes.head? = some 0xFF := by
  rcases layout_cases (scan_eq_ok.mp scanned).1 with ⟨-, headed, supported⟩ | ⟨-, recovering, -⟩
  · rw [LayoutVersion.header_of_ofHeader? headed, List.head?_append,
      LayoutVersion.header_of_supported supported]
    rfl
  · contradiction

theorem Json.parse?_of_head? {bytes : List UInt8} (head : bytes.head? = some 0xFF) :
    parse? bytes = none := by
  obtain ⟨rest, rfl⟩ := List.head?_eq_some_iff.mp head
  rfl

namespace InputKind

theorem sniff_of_scan {config : Config} {bytes : ByteArray} {found : Scan}
    (scanned : Segment.scan .strict config (Packed.toList bytes) = .ok found) :
    sniff bytes = .binary := by
  obtain ⟨rest, stands⟩ := List.head?_eq_some_iff.mp (Segment.head?_of_scan scanned)
  rw [sniff_eq, stands]
  rfl

end InputKind

namespace Document

variable {bytes : ByteArray} {document : Document}

theorem ofJson?_cases {json : Json} (read : ofJson? json = some document) :
    (∃ members, json = .object members) ∨ ∃ version records, json = .array [version, records] := by
  unfold ofJson? at read
  split at read
  · exact .inl ⟨_, rfl⟩
  · exact .inr ⟨_, _, rfl⟩
  · contradiction

theorem parsed_of_read (read : read bytes = .ok document) :
    ∃ json, Json.ofPacked? bytes = some json ∧ ofJson? json = some document :=
  Option.bind_eq_some_iff.mp (read_eq_ok.mp read).1

theorem unscanned_of_read (read : read bytes = .ok document) (config : Config) :
    ∃ error, Segment.scan .strict config (Packed.toList bytes) = .error error := by
  cases scanned : Segment.scan .strict config (Packed.toList bytes) with
  | error error => exact ⟨error, rfl⟩
  | ok found =>
    obtain ⟨json, parsed, -⟩ := parsed_of_read read
    rw [Json.ofPacked?_eq, Json.parse?_of_head? (Segment.head?_of_scan scanned)] at parsed
    contradiction

end Document

section Visit

variable {υ : Type} [Visitor υ] {mode : ScanMode} {config : Config} {bytes : ByteArray} (visitor : υ)

theorem visitLog_of_text (kind : InputKind.sniff bytes = .text) {document : Document}
    (read : Document.read bytes = .ok document) :
    visitLog mode config bytes visitor =
      ((document.feed visitor).1, (document.feed visitor).2.map (·, none)) := by
  simp only [visitLog, kind, read]

theorem visitLog_of_binary (kind : InputKind.sniff bytes = .binary) :
    visitLog mode config bytes visitor =
      ((Segment.scanInto mode config (Packed.toList bytes) visitor).1,
        (Segment.scanInto mode config (Packed.toList bytes) visitor).2.bind fun scan =>
          scan.check.map fun scan => (scan.recordsConsumed, some scan)) := by
  simp only [visitLog, kind]
  split <;> simp [*, Except.bind]

end Visit

/-- A segment that is accepted is taken for one, and so is a document that is an array, which is refused
then. All other documents are taken for what they are. -/
theorem log_of_accepted {υ : Type} [Visitor υ] (mode : ScanMode) (config : Config)
    (bytes : ByteArray) (visitor : υ) :
    (∀ document, Document.read bytes = .ok document →
      ((∃ members, Json.ofPacked? bytes = some (.object members)) ∧
        InputKind.sniff bytes = .text ∧ visitLog mode config bytes visitor =
          ((document.feed visitor).1, (document.feed visitor).2.map (·, none))) ∨
      ((∃ version records, Json.ofPacked? bytes = some (.array [version, records])) ∧
        InputKind.sniff bytes = .binary ∧
        ∃ error, visitLog .strict config bytes visitor = (visitor, .error error))) ∧
    ∀ found, Segment.scan .strict config (Packed.toList bytes) = .ok found →
      InputKind.sniff bytes = .binary ∧ (visitLog mode config bytes visitor).1 =
        (Segment.scanInto mode config (Packed.toList bytes) visitor).1 := by
  constructor
  · intro document read
    obtain ⟨json, parsed, meant⟩ := Document.parsed_of_read read
    rcases Document.ofJson?_cases meant with ⟨members, rfl⟩ | ⟨version, records, rfl⟩
    · have kind := (InputKind.sniff_of_parsed parsed).mpr ⟨members, rfl⟩
      exact .inl ⟨⟨members, parsed⟩, kind, visitLog_of_text visitor kind read⟩
    · have kind : InputKind.sniff bytes = .binary := by
        cases known : InputKind.sniff bytes with
        | binary => rfl
        | text =>
          obtain ⟨members, object⟩ := (InputKind.sniff_of_parsed parsed).mp known
          contradiction
      obtain ⟨error, refused⟩ := Document.unscanned_of_read read config
      refine .inr ⟨⟨version, records, parsed⟩, kind, error, ?_⟩
      rw [visitLog_of_binary visitor kind, Segment.scanInto, refused]
      rfl
  · intro found scanned
    have kind := InputKind.sniff_of_scan scanned
    exact ⟨kind, by rw [visitLog_of_binary visitor kind]⟩

theorem Document.read_array : read "[-40,[]]".toUTF8 = .ok ⟨.checksummed, []⟩ := by
  have parsed : parse? "[-40,[]]".toUTF8 = some ⟨.checksummed, []⟩ := by
    rw [parse?, Json.ofPacked?_eq]
    rfl
  exact read_eq_ok.mpr ⟨parsed, by decide, .nil⟩

theorem Document.read_object :
    read "\x7b\"version\":-40,\"records\":[]\x7d".toUTF8 = .ok ⟨.checksummed, []⟩ := by
  have parsed :
      parse? "\x7b\"version\":-40,\"records\":[]\x7d".toUTF8 = some ⟨.checksummed, []⟩ := by
    rw [parse?, Json.ofPacked?_eq]
    rfl
  exact read_eq_ok.mpr ⟨parsed, by decide, .nil⟩

theorem log_of_accepted_array :
    (InputKind.sniff "\x7b\"version\":-40,\"records\":[]\x7d".toUTF8 = .text ∧
      visitLog .strict .standard "\x7b\"version\":-40,\"records\":[]\x7d".toUTF8 Tally.empty =
        ((Document.feed ⟨.checksummed, []⟩ Tally.empty).1, .ok (0, none))) ∧
    (Document.read "[-40,[]]".toUTF8 = .ok ⟨.checksummed, []⟩ ∧
      InputKind.sniff "[-40,[]]".toUTF8 = .binary ∧
      ∃ error, visitLog .strict .standard "[-40,[]]".toUTF8 Tally.empty =
        (Tally.empty, .error error)) ∧
    (∃ found, Segment.scan .strict .standard
      (Packed.toList ⟨#[0xFF, 0xFF, 0xFF, 0xD8, 0xFF]⟩) = .ok found) ∧
    InputKind.sniff ⟨#[0xFF, 0xFF, 0xFF, 0xD8, 0xFF]⟩ = .binary := by
  refine ⟨?_, ⟨Document.read_array, ?_⟩, ⟨_, rfl⟩, ?_⟩
  · rcases (log_of_accepted .strict .standard _ Tally.empty).1 _ Document.read_object with
      ⟨-, kind, fed⟩ | ⟨-, kind, -⟩
    · exact ⟨kind, fed⟩
    · exact absurd kind (by decide +kernel)
  · rcases (log_of_accepted .strict .standard _ Tally.empty).1 _ Document.read_array with
      ⟨-, kind, -⟩ | ⟨-, kind, refused⟩
    · exact absurd kind (by decide +kernel)
    · exact ⟨kind, refused⟩
  · exact ((log_of_accepted .strict .standard _ Tally.empty).2 _ rfl).1

theorem log_of_array :
    ¬ ∀ (bytes : ByteArray) (document : Document), Document.read bytes = .ok document →
      InputKind.sniff bytes = .text := by
  intro agreed
  exact absurd (agreed _ _ Document.read_array) (by decide +kernel)

end Journal
