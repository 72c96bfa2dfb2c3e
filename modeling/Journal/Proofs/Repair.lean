import Journal.Proofs.Segment.Records
import Journal.Proofs.Transcoding

set_option autoImplicit false

namespace Journal

variable {σ τ : Type} [Sink σ] [Sink τ] {holds : σ → List UInt8 → Prop}
  {holds' : τ → List UInt8 → Prop}

def Scan.document (scan : Scan) : Document := ⟨scan.version, scan.records⟩

theorem Segment.scanInto_of_feed {υ : Type} [Visitor υ] (heedless : Visitor.Heedless υ)
    {mode : ScanMode} {config : Config} {bytes : List UInt8} {found : Scan}
    (scanned : scan mode config bytes = .ok found) {visitor after : υ} {count : Nat}
    (fed : found.document.feed visitor = (after, .ok count)) :
    scanInto mode config bytes visitor = (after, .ok found) := by
  have plain : found.stream.visit visitor = found.document.stream.visit visitor :=
    found.visit_plain heedless visitor
  rw [Document.feed] at fed
  rw [scanInto, scanned]
  cases visited : found.document.stream.visit visitor with
  | mk last outcome =>
    rw [visited] at fed
    cases outcome with
    | error error => simp at fed
    | ok =>
      obtain ⟨rfl, -⟩ := Prod.mk.inj fed
      simp only [Scan.visit, plain, visited]

theorem DocumentEmitter.heedless : Visitor.Heedless (DocumentEmitter σ) := fun _ _ _ => rfl

theorem SegmentEmitter.heedless : Visitor.Heedless (SegmentEmitter σ) := fun _ _ _ => rfl

theorem SegmentEmitter.feed_of_keeps (keeps : Sink.Keeps holds) (document : Document)
    {bytes : List UInt8} (written : Segment.Written document.version document.records 0 bytes)
    {config : Config} (chunked : config.preallocation ≠ some 0) {sink : σ} (empty : holds sink []) :
    ∃ emitter after copy fill,
      document.feed (onto config sink) = (emitter, .ok document.records.length) ∧
      emitter.finished? = some after ∧ holds after copy ∧
      Segment.Written document.version document.records (fill + 1) copy := by
  obtain ⟨emitter, after, more, visited, finished, -, held, -⟩ :=
    visit_written keeps written chunked empty
  rw [Nat.sub_zero, List.take_length] at held
  exact ⟨emitter, after, _, more, by simp only [Document.feed, Document.stream, visited], finished,
    held, written.filled (more + 1)⟩

theorem Segment.scan_of_copy (document : Document) {fill : Nat} {copy : List UInt8}
    (closed : Written document.version document.records (fill + 1) copy) (mode : ScanMode)
    (config : Config) :
    ∃ clean, scan mode config copy = .ok clean ∧ clean.document = document ∧
      clean.firstError = none ∧ clean.cleanlyClosed = true :=
  ⟨_, scan_of_closed closed mode config,
    congrArg (Document.mk document.version) (records_cleanScan _ document.records (fill + 1)),
    firstError_cleanScan document.version document.records (fill + 1), rfl⟩

/-- Whatever a scan has got past, both emitters describe what it has found, in whole documents and
segments. A repaired segment is repaired to itself. -/
theorem emitters_describe_scan (keeps : Sink.Keeps holds) (keeps' : Sink.Keeps holds')
    {mode : ScanMode} {config : Config} {bytes : List UInt8} {found : Scan}
    (scanned : Segment.scan mode config bytes = .ok found) {output : Config}
    (chunked : output.preallocation ≠ some 0) {sink : σ} (empty : holds sink []) {sink' : τ}
    (empty' : holds' sink' []) :
    ∃ emitter text emitter' after copy,
      (Segment.scanInto mode config bytes (DocumentEmitter.onto sink) = (emitter, .ok found) ∧
        holds emitter.sink text ∧ Document.read text.toByteArray = .ok found.document) ∧
      (Segment.scanInto mode config bytes (SegmentEmitter.onto output sink') =
          (emitter', .ok found) ∧
        emitter'.finished? = some after ∧ holds' after copy ∧
        found.document.feed (SegmentEmitter.onto output sink') =
          (emitter', .ok found.records.length)) ∧
      ∀ again : Config,
        (∃ clean, Segment.scanInto .strict again copy (DocumentEmitter.onto sink) =
            (emitter, .ok clean) ∧
          clean.firstError = none ∧ clean.cleanlyClosed = true ∧
          clean.document = found.document) ∧
        ∀ mode', ∃ clean, Segment.scanInto mode' again copy (SegmentEmitter.onto output sink') =
          (emitter', .ok clean) := by
  obtain ⟨bare, written⟩ := Segment.written_of_emitted scanned
  obtain ⟨emitter, fed, held⟩ := DocumentEmitter.feed_of_keeps keeps found.document empty
  obtain ⟨emitter', after, copy, fill, fed', finished, held', closed⟩ :=
    SegmentEmitter.feed_of_keeps keeps' found.document written chunked empty'
  have read := Document.read_written written.supported written.ordered (Packed.toList_toByteArray _)
  refine ⟨emitter, _, emitter', after, copy,
    ⟨Segment.scanInto_of_feed DocumentEmitter.heedless scanned fed, held, read⟩,
    ⟨Segment.scanInto_of_feed SegmentEmitter.heedless scanned fed', finished, held', fed'⟩,
    fun again => ?_⟩
  constructor
  · obtain ⟨clean, scanned, same, unfailed, ended⟩ :=
      Segment.scan_of_copy found.document closed .strict again
    exact ⟨clean, Segment.scanInto_of_feed DocumentEmitter.heedless scanned (same ▸ fed), unfailed,
      ended, same⟩
  · intro mode'
    obtain ⟨clean, scanned, same, -⟩ := Segment.scan_of_copy found.document closed mode' again
    exact ⟨clean, Segment.scanInto_of_feed SegmentEmitter.heedless scanned (same ▸ fed')⟩

theorem emitters_describe_scan_garbage :
    ∃ found clean emitter text emitter' after copy,
      Segment.scanInto .recovery .standard
        [0xFF, 0xFF, 0xFF, 0xDA, 0x63, 0x18, 0, 0, 0, 0, 0, 0, 0, 0, 0, 0, 0, 7,
          0x17, 0, 0, 0, 0, 0, 0, 0, 0, 0, 0, 0, 8, 0xFF] (DocumentEmitter.onto Buffer.empty) =
          (emitter, .ok found) ∧ found.skipped = [(4, 5)] ∧ emitter.sink.bytes = text ∧
      Document.read text.toByteArray =
        .ok ⟨.unchecksummed, [⟨7, .startSegment⟩, ⟨8, .endSegment⟩]⟩ ∧
      emitter'.finished? = some after ∧ after.bytes = copy ∧
      Segment.scanInto .recovery .standard copy (SegmentEmitter.onto .standard Buffer.empty) =
        (emitter', .ok clean) := by
  have known : (Segment.scan .recovery .standard
      [0xFF, 0xFF, 0xFF, 0xDA, 0x63, 0x18, 0, 0, 0, 0, 0, 0, 0, 0, 0, 0, 0, 7,
        0x17, 0, 0, 0, 0, 0, 0, 0, 0, 0, 0, 0, 8, 0xFF]).map
        (fun found => (found.version, found.records, found.skipped)) =
      .ok (.unchecksummed, [⟨7, .startSegment⟩, ⟨8, .endSegment⟩], [(4, 5)]) := by
    decide +kernel
  cases scanned : Segment.scan .recovery .standard
      [0xFF, 0xFF, 0xFF, 0xDA, 0x63, 0x18, 0, 0, 0, 0, 0, 0, 0, 0, 0, 0, 0, 7,
        0x17, 0, 0, 0, 0, 0, 0, 0, 0, 0, 0, 0, 8, 0xFF] with
  | error error =>
    rw [scanned] at known
    contradiction
  | ok found =>
    rw [scanned] at known
    obtain ⟨version, found'⟩ := Prod.mk.inj (Except.ok.inj known)
    obtain ⟨records, skipped⟩ := Prod.mk.inj found'
    obtain ⟨emitter, text, emitter', after, copy, ⟨taken, held, read⟩, ⟨-, finished, held', -⟩,
      again⟩ := emitters_describe_scan Buffer.keeps Buffer.keeps scanned
        (show Config.standard.preallocation ≠ some 0 by decide) (show Buffer.empty.bytes = [] from rfl)
        (show Buffer.empty.bytes = [] from rfl)
    obtain ⟨clean, retaken⟩ := (again .standard).2 .recovery
    rw [Scan.document, version, records] at read
    exact ⟨found, clean, emitter, text, emitter', after, copy, taken, skipped, held, read, finished,
      held', retaken⟩

end Journal
