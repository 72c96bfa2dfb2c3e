import Journal.Proofs.Segment.Language
import Journal.Proofs.Segment.Writer
import Journal.Segment.Emitter

set_option autoImplicit false

namespace Journal.SegmentEmitter

variable {σ : Type} [Sink σ] {holds : σ → List UInt8 → Prop}

theorem deliver_laid (keeps : Sink.Keeps holds) {version : LayoutVersion} {last : Option UInt64}
    {records : List Record} {laid : List UInt8} (standing : Segment.Laid version last records laid)
    {writer : SegmentWriter σ} {bytes : List UInt8} (wrote : writer.Wrote holds bytes last)
    (same : writer.version = version) (config : Config) (count : Nat) :
    ∃ after last', RecordStream.deliver (records.map (none, ·))
        (⟨config, .writing writer, count⟩ : SegmentEmitter σ) =
          (⟨config, .writing after, count + records.length⟩, none) ∧
      after.Wrote holds (bytes ++ laid) last' ∧ SegmentWriter.SameSetup writer after := by
  induction standing generalizing writer bytes count with
  | nil => exact ⟨writer, _, rfl, by rwa [List.append_nil], ⟨rfl, rfl, rfl⟩⟩
  | @cons _ record records encoding laid encoded later _ ih =>
    subst same
    obtain ⟨next, appended, wrote, setup, -⟩ :=
      SegmentWriter.appendRecord_of_keeps keeps wrote later encoded
    obtain ⟨after, last', delivered, wrote, setup'⟩ := ih wrote setup.version (count + 1)
    refine ⟨after, last', ?_, by rwa [← List.append_assoc], ?_⟩
    · have consumed : consume record (⟨config, .writing writer, count⟩ : SegmentEmitter σ) =
          (⟨config, .writing next, count + 1⟩, .ok ()) := by
        simp only [consume, appended]
      rw [List.map_cons, RecordStream.deliver]
      simp only [Visitor.consume, consumed, delivered, List.length_cons]
      rw [Nat.add_right_comm, Nat.add_assoc]
    · exact ⟨setup'.version.trans setup.version, setup'.sync.trans setup.sync,
        setup'.preallocation.trans setup.preallocation⟩

theorem visit_written (keeps : Sink.Keeps holds) {version : LayoutVersion} {records : List Record}
    {fill : Nat} {bytes : List UInt8} (written : Segment.Written version records fill bytes)
    {config : Config} (chunked : config.preallocation ≠ some 0) {sink : σ} (empty : holds sink []) :
    ∃ emitter after more, RecordStream.visit ⟨version, records.map (none, ·), none⟩
        (onto config sink) = (emitter, .ok ()) ∧
      emitter.finished? = some after ∧ emitter.recordsWritten = records.length ∧
      holds after (bytes.take (bytes.length - fill) ++
        List.replicate (more + 1) Opcode.fillByte) ∧
      (config.preallocation = none → more = 0) := by
  -- The fill is the end marker alone unless whole chunks are asked for.
  obtain ⟨supported, laid, standing, rfl⟩ := Segment.written_iff.mp written
  obtain ⟨writer, started, wrote, setup, -⟩ := SegmentWriter.start_of_keeps keeps
    (SegmentWriter.checkConfig_eq_ok.mpr ⟨supported, chunked⟩ :
      SegmentWriter.checkConfig { config with layoutVersion := version } = .ok ()) empty
  obtain ⟨last, _, delivered, wrote, setup'⟩ :=
    deliver_laid keeps standing wrote setup.version config 0
  have kept : last.preallocation = config.preallocation :=
    setup'.preallocation.trans setup.preallocation
  obtain ⟨more, trailer, single⟩ := SegmentWriter.trailer_eq (kept.symm ▸ chunked)
  obtain ⟨after, closed, held⟩ := SegmentWriter.close_of_keeps keeps wrote
  have front : (version.header ++ laid ++ List.replicate fill Opcode.fillByte).take
      ((version.header ++ laid ++ List.replicate fill Opcode.fillByte).length - fill) =
        version.header ++ laid := by
    apply List.take_left'
    simp only [List.length_append, List.length_replicate]
    omega
  refine ⟨⟨config, .closed after, records.length⟩, after, more, ?_, rfl, rfl, ?_,
    fun none => single (kept.trans none)⟩
  · have opened : onOpen version (onto config sink) = (⟨config, .writing writer, 0⟩, .ok ()) := by
      simp only [onOpen, onto, started]
      rfl
    have ended : onClose (⟨config, .writing last, records.length⟩ : SegmentEmitter σ) =
        (⟨config, .closed after, records.length⟩, .ok ()) := by
      simp only [onClose, closed]
      rfl
    rw [Nat.zero_add] at delivered
    simp only [RecordStream.visit, Visitor.onOpen, opened, delivered, Visitor.onClose, ended]
  · rwa [front, ← trailer]

end Journal.SegmentEmitter
