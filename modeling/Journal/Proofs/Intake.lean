import Journal.Conversion
import Journal.Proofs.Protocol
import Journal.Proofs.Repair

set_option autoImplicit false

namespace Journal

theorem Scan.check_eq_ok {scan found : Scan} :
    scan.check = .ok found ↔ found = scan ∧ (scan.mode = .strict → scan.firstError = none) := by
  rw [check]
  split
  · next strict failed => simp [strict, failed]
  · next sound =>
    rw [Except.ok.injEq, eq_comm, iff_self_and]
    rintro - strict
    rw [Option.eq_none_iff_forall_ne_some]
    exact fun error failed => sound error strict failed

/-- A log that has been read, and what comes of it if all its records are taken in. -/
structure Intake where
  stream : RecordStream
  verdict : Except Error (Nat × Option Scan)

namespace Intake

def ofDocument (document : Document) : Intake :=
  ⟨document.stream, .ok (document.records.length, none)⟩

def ofScan (scan : Scan) : Intake :=
  ⟨scan.stream, scan.check.map fun scan => (scan.recordsConsumed, some scan)⟩

def read (mode : ScanMode) (config : Config) (bytes : ByteArray) : Except Error Intake :=
  match InputKind.sniff bytes with
  | .text => (Document.read bytes).map ofDocument
  | .binary => (Segment.scan mode config (Packed.toList bytes)).map ofScan

def run {υ : Type} [Visitor υ] (intake : Intake) (visitor : υ) :
    υ × Except Error (Nat × Option Scan) :=
  match intake.stream.visit visitor with
  | (visitor, .ok ()) => (visitor, intake.verdict)
  | (visitor, .error error) => (visitor, .error error)

theorem visitLog_eq {υ : Type} [Visitor υ] (mode : ScanMode) (config : Config) (bytes : ByteArray)
    (visitor : υ) :
    visitLog mode config bytes visitor =
      match read mode config bytes with
      | .ok intake => intake.run visitor
      | .error error => (visitor, .error error) := by
  rw [visitLog, read]
  cases InputKind.sniff bytes with
  | text =>
    cases Document.read bytes with
    | error error => rfl
    | ok document =>
      simp only [Document.feed, Except.map, run, ofDocument]
      rcases document.stream.visit visitor with ⟨after, outcome⟩
      cases outcome <;> rfl
  | binary =>
    rw [Segment.scanInto]
    cases Segment.scan mode config (Packed.toList bytes) with
    | error error => rfl
    | ok scan =>
      simp only [Scan.visit, Except.map, run, ofScan]
      rcases scan.stream.visit visitor with ⟨after, outcome⟩
      cases outcome <;> rfl

structure Sound (intake : Intake) : Prop where
  supported : intake.stream.version.isSupported = true
  ordered : (intake.stream.records.map Prod.snd).Pairwise (·.txid ≤ ·.txid)
  counted : ∀ seen, intake.verdict = .ok seen → seen.1 = intake.stream.records.length

variable {mode : ScanMode} {config : Config} {bytes : ByteArray} {intake : Intake}

theorem records_ofDocument (document : Document) :
    (ofDocument document).stream.records.map Prod.snd = document.records := by
  simp [ofDocument, Document.stream, Function.comp_def]

theorem records_ofScan (scan : Scan) :
    (ofScan scan).stream.records.map Prod.snd = scan.records := scan.records_stream

theorem sound (reads : read mode config bytes = .ok intake) : intake.Sound := by
  rw [read] at reads
  split at reads
  · obtain ⟨document, parsed, rfl⟩ := map_eq_ok.mp reads
    obtain ⟨-, supported, ordered⟩ := Document.read_eq_ok.mp parsed
    refine ⟨supported, records_ofDocument document ▸ ordered, ?_⟩
    rintro _ ⟨⟩
    simp [ofDocument, Document.stream]
  · obtain ⟨scan, scanned, rfl⟩ := map_eq_ok.mp reads
    have records := records_ofScan scan
    refine ⟨Segment.supported_of_scan scanned, records ▸ Segment.ordered_of_scan scanned, ?_⟩
    intro seen judged
    obtain ⟨_, checked, rfl⟩ := map_eq_ok.mp judged
    obtain ⟨rfl, -⟩ := Scan.check_eq_ok.mp checked
    rw [Scan.recordsConsumed, ← records, List.length_map]

theorem fits_of_binary (kind : InputKind.sniff bytes = .binary)
    (reads : read mode config bytes = .ok intake) :
    ∀ record ∈ intake.stream.records.map Prod.snd,
      record.operation.body.length ≤ Record.maxBodyLength := by
  rw [read, kind] at reads
  obtain ⟨scan, scanned, rfl⟩ := map_eq_ok.mp reads
  obtain ⟨copy, written⟩ := Segment.written_of_emitted scanned
  obtain ⟨-, laid, standing, -⟩ := Segment.written_iff.mp written
  intro record member
  rw [records_ofScan] at member
  obtain ⟨encoding, encoded⟩ := standing.encoded record member
  exact (Record.encode_eq_ok.mp encoded).1

theorem run_ok_iff {υ : Type} [Visitor υ] {visitor : υ} :
    (∃ seen, (intake.run visitor).2 = .ok seen) ↔
      (intake.stream.visit visitor).2 = .ok () ∧ ∃ seen, intake.verdict = .ok seen := by
  rw [run]
  rcases intake.stream.visit visitor with ⟨after, outcome⟩
  cases outcome <;> simp

theorem run_recorder {υ : Type} [Visitor υ] (intake : Intake) (visitor : υ) :
    ∃ after calls outcome, intake.run visitor = (after, outcome) ∧
      intake.run (Recorder.mk visitor []) = (⟨after, calls⟩, outcome) ∧
      ∀ seen, outcome = .ok seen →
        Visitor.consumed calls = intake.stream.records.map Prod.snd := by
  obtain ⟨after, calls, outcome, visited, recorded, session⟩ :=
    Recorder.visit_session intake.stream visitor
  rw [run, run, visited, recorded]
  cases session with
  | unopened error => exact ⟨_, _, _, rfl, rfl, fun _ accepted => nomatch accepted⟩
  | refused split error answer => exact ⟨_, _, _, rfl, rfl, fun _ accepted => nomatch accepted⟩
  | whole =>
    cases outcome with
    | error error => exact ⟨_, _, _, rfl, rfl, fun _ accepted => nomatch accepted⟩
    | ok =>
      refine ⟨_, _, _, rfl, rfl, fun _ _ => ?_⟩
      rw [Visitor.consumed_append, ← Visitor.consumed_accepted]
      exact List.append_nil _

end Intake

section Accepted

variable {υ : Type} [Visitor υ]

theorem RecordStream.visit_cases {stream : RecordStream} {visitor after : υ}
    (visited : stream.visit visitor = (after, .ok ())) :
    ∃ opened last, Visitor.onOpen stream.version visitor = (opened, .ok ()) ∧
      deliver stream.records opened = (last, none) ∧
      Visitor.onClose stream.firstError last = (after, .ok ()) := by
  rw [visit] at visited
  split at visited
  · simp at visited
  · next opened accepted =>
    split at visited
    · next last delivered => exact ⟨opened, last, accepted, delivered, visited⟩
    · simp at visited

theorem RecordStream.deliver_accepted (within : υ → Prop) (fits : Record → Prop)
    (step : ∀ {record : Record} {visitor next : υ}, within visitor →
      Visitor.consume record visitor = (next, .ok ()) → within next ∧ fits record)
    {deliveries : List (Option DecodeError × Record)} {visitor last : υ} (start : within visitor)
    (delivered : deliver deliveries visitor = (last, none)) :
    within last ∧ ∀ record ∈ deliveries.map Prod.snd, fits record := by
  induction deliveries generalizing visitor with
  | nil =>
    obtain ⟨rfl, -⟩ := Prod.mk.inj delivered
    exact ⟨start, by simp⟩
  | cons delivery rest ih =>
    obtain ⟨met, record⟩ := delivery
    rw [deliver] at delivered
    split at delivered
    · next next consumed =>
      obtain ⟨kept, fit⟩ := step start consumed
      obtain ⟨kept, others⟩ := ih kept delivered
      exact ⟨kept, List.forall_mem_cons.mpr ⟨fit, others⟩⟩
    · simp at delivered

end Accepted

variable {σ : Type} [Sink σ]

namespace SegmentEmitter

variable {emitter after : SegmentEmitter σ}

def Writing (emitter : SegmentEmitter σ) : Prop := ∃ writer, emitter.stage = .writing writer

theorem writing_of_onOpen {version : LayoutVersion}
    (opened : emitter.onOpen version = (after, .ok ())) : after.Writing := by
  rw [onOpen] at opened
  split at opened
  · split at opened
    · obtain ⟨rfl, -⟩ := Prod.mk.inj opened
      exact ⟨_, rfl⟩
    · simp at opened
  · simp at opened

theorem of_consume_eq_ok {record : Record} (consumed : emitter.consume record = (after, .ok ())) :
    after.Writing ∧ record.operation.body.length ≤ Record.maxBodyLength := by
  rw [consume] at consumed
  split at consumed
  · next writer staged =>
    split at consumed
    · next next appended =>
      obtain ⟨rfl, -⟩ := Prod.mk.inj consumed
      refine ⟨⟨_, rfl⟩, ?_⟩
      cases encoded : record.encode writer.version with
      | ok encoding => exact (Record.encode_eq_ok.mp encoded).1
      | error error =>
        obtain ⟨_, refused⟩ := SegmentWriter.appendRecord_refused (.inr ⟨error, encoded⟩)
        rw [appended] at refused
        simp at refused
    · simp at consumed
  · simp at consumed

theorem of_visit_eq_ok {stream : RecordStream} (visited : stream.visit emitter = (after, .ok ())) :
    (∃ writer sink, SegmentWriter.close writer = (sink, .ok ()) ∧ after.stage = .closed sink) ∧
      ∀ record ∈ stream.records.map Prod.snd,
        record.operation.body.length ≤ Record.maxBodyLength := by
  obtain ⟨opened, last, accepted, delivered, closed⟩ := RecordStream.visit_cases visited
  obtain ⟨⟨writer, staged⟩, fits⟩ := RecordStream.deliver_accepted Writing
    (·.operation.body.length ≤ Record.maxBodyLength) (fun _ consumed => of_consume_eq_ok consumed)
    (writing_of_onOpen accepted) delivered
  refine ⟨?_, fits⟩
  simp only [Visitor.onClose, onClose, staged] at closed
  split at closed
  · next sink ended =>
    obtain ⟨rfl, -⟩ := Prod.mk.inj closed
    exact ⟨writer, sink, ended, rfl⟩
  · simp at closed

theorem visit_ok_iff {holds : σ → List UInt8 → Prop} (keeps : Sink.Keeps holds) {intake : Intake}
    (sound : intake.Sound) {config : Config} (chunked : config.preallocation ≠ some 0) {sink : σ}
    (empty : holds sink []) :
    (intake.stream.visit (onto config sink)).2 = .ok () ↔
      ∀ record ∈ intake.stream.records.map Prod.snd,
        record.operation.body.length ≤ Record.maxBodyLength := by
  constructor
  · intro accepted
    exact (of_visit_eq_ok (Prod.ext rfl accepted)).2
  · intro fits
    obtain ⟨bytes, formed⟩ := Segment.exists_bytesOf
      (fun record member => Record.exists_encode (fits record member) intake.stream.version) 0
    obtain ⟨emitter, _, _, visited, -⟩ :=
      visit_written keeps ⟨sound.supported, sound.ordered, formed⟩ chunked empty
    rw [List.map_map] at visited
    rw [Visitor.visit_plain heedless]
    exact congrArg Prod.snd visited

end SegmentEmitter

namespace DocumentEmitter

variable {emitter after : DocumentEmitter σ}

theorem visit_ok {holds : σ → List UInt8 → Prop} (keeps : Sink.Keeps holds) (stream : RecordStream)
    {sink : σ} (empty : holds sink []) : (stream.visit (onto sink)).2 = .ok () := by
  obtain ⟨after, visited, -⟩ :=
    visit_of_keeps keeps stream.version (stream.records.map Prod.snd) empty
  rw [List.map_map] at visited
  rw [Visitor.visit_plain heedless]
  exact congrArg Prod.snd visited

theorem isOpen_of_onOpen {version : LayoutVersion}
    (opened : emitter.onOpen version = (after, .ok ())) : after.isOpen = true := by
  rw [onOpen] at opened
  split at opened
  · obtain ⟨rfl, -⟩ := Prod.mk.inj opened
    rfl
  · simp at opened

theorem isOpen_of_consume {record : Record} (consumed : emitter.consume record = (after, .ok ())) :
    after.isOpen = emitter.isOpen := by
  rw [consume] at consumed
  split at consumed
  · simp at consumed
  · split at consumed
    · simp at consumed
    · obtain ⟨rfl, -⟩ := Prod.mk.inj consumed
      rfl

theorem of_visit_eq_ok {stream : RecordStream} (visited : stream.visit emitter = (after, .ok ())) :
    ∃ sink, Sink.flush sink = (after.sink, .ok ()) := by
  obtain ⟨opened, last, accepted, delivered, closed⟩ := RecordStream.visit_cases visited
  obtain ⟨isOpen, -⟩ := RecordStream.deliver_accepted (fun emitter => emitter.isOpen = true)
    (fun _ => True) (fun isOpen consumed => ⟨(isOpen_of_consume consumed).trans isOpen, trivial⟩)
    (isOpen_of_onOpen accepted) delivered
  simp only [Visitor.onClose, onClose, isOpen, if_true] at closed
  split at closed
  · simp at closed
  · next sink wrote =>
    split at closed
    · simp at closed
    · next flushed kept =>
      obtain ⟨rfl, -⟩ := Prod.mk.inj closed
      exact ⟨sink, kept⟩

end DocumentEmitter

theorem Tally.accepts (tally : Tally) : Visitor.Accepts tally :=
  Visitor.accepts_of_ok (fun _ _ => rfl) (fun _ _ => rfl) (fun _ _ => rfl) tally

end Journal
