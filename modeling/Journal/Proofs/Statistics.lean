import Mathlib.Algebra.BigOperators.Group.Finset.Basic
import Journal.Proofs.Intake
import Journal.Statistics

set_option autoImplicit false

namespace Journal

namespace Opcode

theorem ascending_all : all.Pairwise (·.toByte < ·.toByte) := by decide +kernel

theorem nodup_all : all.Nodup := ascending_all.imp fun before same => by simp [same] at before

theorem nodup_recorded : recorded.Nodup := nodup_all.filter _

theorem mem_recorded {opcode : Opcode} : opcode ∈ recorded ↔ opcode ≠ .invalid := by
  simp [recorded, mem_all]

theorem name_injective : Function.Injective name := fun first second same =>
  Option.some.inj (by rw [← ofName?_name first, same, ofName?_name second])

theorem sum_count {listed opcodes : List Opcode} (nodup : listed.Nodup)
    (covered : ∀ opcode ∈ opcodes, opcode ∈ listed) :
    (listed.map opcodes.count).sum = opcodes.length := by
  have counted := Multiset.sum_count_eq_card (m := (opcodes : Multiset Opcode)) fun opcode inside =>
    List.mem_toFinset.mpr (covered opcode inside)
  rw [← List.sum_toFinset _ nodup, ← Multiset.coe_card, ← counted]
  simp only [Multiset.coe_count]

end Opcode

namespace Tally

variable {tally : Tally} {opcodes : List Opcode}

def Counted (tally : Tally) (opcodes : List Opcode) : Prop :=
  tally.counts = Opcode.all.map fun opcode => (opcode, opcodes.count opcode)

theorem counted_empty : Counted empty [] := rfl

theorem Counted.add (counted : tally.Counted opcodes) (added : Opcode) :
    (tally.add added).Counted (opcodes ++ [added]) := by
  rw [Counted, Tally.add, counted, List.map_map]
  refine List.map_congr_left fun opcode _ => ?_
  rw [Function.comp_apply, List.count_append, List.count_singleton]
  by_cases same : opcode = added
  · simp [same]
  · simp [same, Ne.symm same]

theorem Counted.fold (counted : tally.Counted opcodes) (records : List Record) :
    (records.foldl (fun tally record => (Visitor.consume record tally).1) tally).Counted
      (opcodes ++ records.map Record.opcode) := by
  induction records generalizing tally opcodes with
  | nil => rwa [List.map_nil, List.append_nil]
  | cons record rest ih =>
    rw [List.map_cons, List.append_cons]
    exact ih (counted.add record.opcode)

theorem Counted.count (counted : tally.Counted opcodes) (opcode : Opcode) :
    tally.count opcode = opcodes.count opcode := by
  rw [Tally.count, counted, List.lookup_graph _ opcode.mem_all, Option.getD_some]

theorem Counted.total (counted : tally.Counted opcodes) : tally.total = opcodes.length := by
  have summed : tally.total = (tally.counts.map Prod.snd).sum := by
    rw [Tally.total, List.sum_eq_foldr, List.foldr_map]
  rw [summed, counted, List.map_map]
  exact Opcode.sum_count Opcode.nodup_all fun opcode _ => opcode.mem_all

theorem Counted.mem_missing (counted : tally.Counted opcodes) {excluded : List Opcode}
    {opcode : Opcode} :
    opcode ∈ tally.missing excluded ↔
      opcode ≠ .invalid ∧ opcode ∉ excluded ∧ opcode ∉ opcodes := by
  simp [missing, Opcode.mem_recorded, counted.count, List.count_eq_zero]

theorem ascending_missing (tally : Tally) (excluded : List Opcode) :
    (tally.missing excluded).Pairwise (·.toByte < ·.toByte) :=
  (Opcode.ascending_all.filter _).filter _

theorem isComplete_iff {excluded : List Opcode} :
    tally.isComplete excluded = true ↔ tally.missing excluded = [] := List.isEmpty_iff

structure Describes (tally : Tally) (records : List Record) : Prop where
  count : ∀ opcode, tally.count opcode = (records.map Record.opcode).count opcode
  missing : ∀ excluded opcode, opcode ∈ tally.missing excluded ↔
    opcode ≠ .invalid ∧ opcode ∉ excluded ∧ ∀ record ∈ records, record.opcode ≠ opcode
  ascending : ∀ excluded, (tally.missing excluded).Pairwise (·.toByte < ·.toByte)
  complete : ∀ excluded, tally.isComplete excluded = true ↔ tally.missing excluded = []

theorem Counted.describes {records : List Record}
    (counted : tally.Counted (records.map Record.opcode)) : tally.Describes records where
  count := counted.count
  missing excluded opcode := by
    rw [counted.mem_missing, List.mem_map, not_exists]
    simp only [not_and, ne_eq]
  ascending := tally.ascending_missing
  complete _ := isComplete_iff

end Tally

namespace StatisticsReport

structure Reports (report : StatisticsReport) (tally : Tally) (excluded : List Opcode) : Prop where
  listed : ∀ opcode count,
    (opcode, count) ∈ report.counts ↔ opcode ≠ .invalid ∧ count = tally.count opcode
  named : (report.counts.map fun entry => entry.1.name).Nodup
  total : (report.counts.map Prod.snd).sum = tally.total
  missing : report.missing = tally.missing excluded
  complete : report.complete = true ↔ report.missing = []

theorem reports_ofTally {tally : Tally} {records : List Record}
    (counted : tally.Counted (records.map Record.opcode)) (excluded : List Opcode) :
    (ofTally tally excluded).Reports tally excluded := by
  have order := List.mergeSort_perm Opcode.recorded fun a b => decide (a.name ≤ b.name)
  have nodup := order.nodup_iff.mpr Opcode.nodup_recorded
  have mem {opcode : Opcode} := order.mem_iff.trans (@Opcode.mem_recorded opcode)
  constructor
  case listed =>
    intro opcode count
    simp only [ofTally, List.mem_map, Prod.mk.injEq, mem]
    constructor
    · rintro ⟨_, live, rfl, rfl⟩
      exact ⟨live, rfl⟩
    · rintro ⟨live, rfl⟩
      exact ⟨opcode, live, rfl, rfl⟩
  case named =>
    rw [ofTally, List.map_map]
    exact nodup.map Opcode.name_injective
  case total =>
    have live : ∀ opcode ∈ records.map Record.opcode, opcode ≠ .invalid := by
      simpa using fun record _ => record.opcode_ne_invalid
    rw [ofTally, List.map_map, counted.total,
      ← Opcode.sum_count nodup fun opcode inside => mem.mpr (live opcode inside)]
    exact congrArg List.sum (List.map_congr_left fun opcode _ => counted.count opcode)
  case missing => rfl
  case complete => exact Tally.isComplete_iff

end StatisticsReport

theorem Document.feed_of_accepts {υ : Type} [Visitor υ] {visitor : υ}
    (accepts : Visitor.Accepts visitor) (document : Document) :
    document.feed visitor =
      ((Visitor.onClose none (Visitor.fed document.version document.records visitor)).1,
        .ok document.records.length) := by
  rw [Document.feed, accepts.visit]
  simp [Document.stream, Function.comp_def]

/-- Whatever a scan has got past, the tally is of the records that it has emitted, no more and no
less. The document that is written for the scan gives the same tally, but knows of no failure. -/
theorem tally_counts_emitted {σ : Type} [Sink σ] {holds : σ → List UInt8 → Prop}
    (keeps : Sink.Keeps holds) {mode : ScanMode} {config : Config} {bytes : List UInt8}
    {found : Scan} (scanned : Segment.scan mode config bytes = .ok found) {sink : σ}
    (empty : holds sink []) :
    ∃ tally emitter text again,
      (Segment.scanInto mode config bytes Tally.empty = (tally, .ok found) ∧
        Segment.readAll mode config bytes = .ok (found.records, found) ∧
        tally.Describes found.records ∧ tally.total = found.recordsConsumed ∧
        tally.scanError = found.firstError ∧
        ∀ excluded, (StatisticsReport.ofTally tally excluded).Reports tally excluded) ∧
      (Segment.scanInto mode config bytes (DocumentEmitter.onto sink) = (emitter, .ok found) ∧
        holds emitter.sink text ∧ Document.read text.toByteArray = .ok found.document ∧
        found.document.feed Tally.empty = (again, .ok found.records.length) ∧
        again = { tally with scanError := none }) := by
  have taken := Segment.scanInto_of_scan Tally.empty.accepts scanned
  have counted : Tally.Counted
      (Visitor.onClose found.firstError (Visitor.fed found.version found.records Tally.empty)).1
      (found.records.map Record.opcode) :=
    Tally.counted_empty.fold found.records
  obtain ⟨emitter, written, held⟩ := DocumentEmitter.feed_of_keeps keeps found.document empty
  obtain ⟨_, closed⟩ := Segment.written_of_emitted scanned
  have read := Document.read_written closed.supported closed.ordered (Packed.toList_toByteArray _)
  refine ⟨_, emitter, _, _, ⟨taken, Segment.readAll_of_scan scanned, counted.describes, ?_, rfl,
    StatisticsReport.reports_ofTally counted⟩,
    ⟨Segment.scanInto_of_feed DocumentEmitter.heedless scanned written, held, read,
      Document.feed_of_accepts Tally.empty.accepts found.document, rfl⟩⟩
  rw [counted.total, List.length_map, Scan.recordsConsumed]

theorem tally_counts_emitted_garbage :
    ∃ found tally text document again,
      Segment.scanInto .recovery .standard
        [0xFF, 0xFF, 0xFF, 0xDA, 0x63, 0x18, 0, 0, 0, 0, 0, 0, 0, 0, 0, 0, 0, 7,
          0x18, 0, 0, 0, 0, 0, 0, 0, 0, 0, 0, 0, 8, 0xFF] Tally.empty = (tally, .ok found) ∧
      found.skipped = [(4, 5)] ∧ tally.total = 2 ∧ tally.count .startLogSegment = 2 ∧
      tally.count .add = 0 ∧ .startLogSegment ∉ tally.missing [] ∧ .add ∈ tally.missing [.mkdir] ∧
      tally.scanError = found.firstError ∧ Document.read text = .ok document ∧
      document.feed Tally.empty = (again, .ok 2) ∧ again.counts = tally.counts := by
  have known : (Segment.scan .recovery .standard
      [0xFF, 0xFF, 0xFF, 0xDA, 0x63, 0x18, 0, 0, 0, 0, 0, 0, 0, 0, 0, 0, 0, 7,
        0x18, 0, 0, 0, 0, 0, 0, 0, 0, 0, 0, 0, 8, 0xFF]).map
        (fun found => (found.records, found.skipped)) =
      .ok ([⟨7, .startSegment⟩, ⟨8, .startSegment⟩], [(4, 5)]) := by
    decide +kernel
  obtain ⟨found, scanned, shown⟩ := map_eq_ok.mp known
  obtain ⟨records, skipped⟩ := Prod.mk.inj shown
  obtain ⟨tally, emitter, text, again, ⟨taken, -, described, total, failed, -⟩,
    ⟨-, -, read, fed, rfl⟩⟩ := tally_counts_emitted Buffer.keeps scanned
      (show Buffer.empty.bytes = [] from rfl)
  have count := described.count
  have missing := described.missing
  rw [records] at count missing fed
  rw [Scan.recordsConsumed, records] at total
  refine ⟨found, tally, _, _, _, taken, skipped, total, count _, count _, ?_, ?_, failed, read,
    fed, rfl⟩
  · exact fun absent => ((missing [] _).mp absent).2.2 _ (.head _) rfl
  · exact (missing [.mkdir] .add).mpr (by decide)

end Journal
