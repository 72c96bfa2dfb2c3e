import Journal.Proofs.Codec.Record
import Journal.Proofs.Sink
import Journal.Segment.Resync
import Journal.Segment.Writer

set_option autoImplicit false

namespace Journal.SegmentWriter

variable {σ : Type} [Sink σ]

omit [Sink σ] in
theorem checkOrder_eq_ok {writer : SegmentWriter σ} {txid : UInt64} :
    writer.checkOrder txid = .ok () ↔ follows writer.lastTxid txid = true := by
  rw [checkOrder]
  cases writer.lastTxid with
  | none => simp [follows]
  | some last =>
    by_cases early : txid < last
    · simp [follows, early, UInt64.not_le.mpr early]
    · simp [follows, early, UInt64.not_lt.mp early]

inductive Fate
  -- It comes before the last record, or it is too long.
  | rejected
  -- The sink does not take it.
  | refused
  -- The sink has it, and no sync is due.
  | written
  -- The sink has it, and the sync that was due has succeeded.
  | synced
  -- The sink has it, but the sync that was due has failed.
  | unsynced
deriving DecidableEq

def fate (writer : SegmentWriter σ) (record : Record) : Fate :=
  match writer.checkOrder record.txid, record.packed writer.version with
  | .ok (), .ok chunk =>
    match Sink.write chunk writer.sink with
    | (_, .error _) => .refused
    | (sink, .ok ()) =>
      if writer.sync.isDue (writer.unsynced + 1) then
        match Sink.sync sink with
        | (_, .ok ()) => .synced
        | (_, .error _) => .unsynced
      else .written
  | _, _ => .rejected

def recorded (writer : SegmentWriter σ) (record : Record) (size : Nat) (sink : σ) : SegmentWriter σ :=
  advance { writer with sink := sink, offset := writer.offset + size } record.txid

structure Fits (writer : SegmentWriter σ) (record : Record) (chunk : ByteArray) : Prop where
  later : follows writer.lastTxid record.txid = true
  encoded : record.encode writer.version = .ok (Packed.toList chunk)

structure Takes (writer : SegmentWriter σ) (record : Record) (chunk : ByteArray) (sink : σ) :
    Prop extends Fits writer record chunk where
  wrote : Sink.write chunk writer.sink = (sink, .ok ())

inductive Appends (writer : SegmentWriter σ) (record : Record) :
    Fate → SegmentWriter σ × Except Error Unit → Prop
  | rejected {error : Error} (unfit : follows writer.lastTxid record.txid = false ∨
      ∃ error, record.encode writer.version = .error error) :
      Appends writer record .rejected (writer, .error error)
  | refused {chunk : ByteArray} {sink : σ} {fault : IoFault} (fits : Fits writer record chunk)
      (refused : Sink.write chunk writer.sink = (sink, .error fault)) :
      Appends writer record .refused ({ writer with sink := sink }, .error (.io fault))
  | written {chunk : ByteArray} {sink : σ} (takes : Takes writer record chunk sink)
      (undue : writer.sync.isDue (writer.unsynced + 1) = false) :
      Appends writer record .written (writer.recorded record chunk.size sink, .ok ())
  | synced {chunk : ByteArray} {sink after : σ} (takes : Takes writer record chunk sink)
      (due : writer.sync.isDue (writer.unsynced + 1) = true)
      (synced : Sink.sync sink = (after, .ok ())) :
      Appends writer record .synced
        ({ writer.recorded record chunk.size sink with
            sink := after
            flushedOffset := writer.offset + chunk.size
            unsynced := 0 }, .ok ())
  | unsynced {chunk : ByteArray} {sink after : σ} {fault : IoFault}
      (takes : Takes writer record chunk sink)
      (due : writer.sync.isDue (writer.unsynced + 1) = true)
      (failed : Sink.sync sink = (after, .error fault)) :
      Appends writer record .unsynced
        ({ writer.recorded record chunk.size sink with sink := after }, .error (.io fault))

theorem appends (writer : SegmentWriter σ) (record : Record) :
    Appends writer record (writer.fate record) (writer.appendRecord record) := by
  rw [fate, appendRecord]
  cases ordered : writer.checkOrder record.txid with
  | error error =>
    refine .rejected (.inl ?_)
    rw [← Bool.not_eq_true, ← checkOrder_eq_ok, ordered]
    simp
  | ok =>
    have encoding := record.packed_map_toList writer.version
    cases packed : record.packed writer.version with
    | error error =>
      rw [packed] at encoding
      exact .rejected (.inr ⟨error, encoding.symm⟩)
    | ok chunk =>
      rw [packed] at encoding
      have fits : Fits writer record chunk := ⟨checkOrder_eq_ok.mp ordered, encoding.symm⟩
      simp only [write]
      cases wrote : Sink.write chunk writer.sink with
      | mk sink outcome =>
        cases outcome with
        | error fault => exact .refused fits wrote
        | ok =>
          have takes : Takes writer record chunk sink := ⟨fits, wrote⟩
          cases due : writer.sync.isDue (writer.unsynced + 1) with
          | false =>
            simp only [advance, due]
            exact .written takes due
          | true =>
            simp only [advance, due, flush]
            cases synced : Sink.sync sink with
            | mk after outcome =>
              cases outcome with
              | ok => exact .synced takes due synced
              | error fault => exact .unsynced takes due synced

theorem fst_append (writer : SegmentWriter σ) (operation : Operation) :
    (writer.append operation).1 = (writer.appendRecord ⟨writer.nextTxid, operation⟩).1 := by
  rw [append]
  split <;> next appended => rw [appended]

theorem appendRecord_of_append {writer after : SegmentWriter σ} {operation : Operation} {error : Error}
    (failed : writer.append operation = (after, .error error)) :
    writer.appendRecord ⟨writer.nextTxid, operation⟩ = (after, .error error) := by
  rw [append] at failed
  split at failed
  · simp at failed
  · next refused =>
    rw [refused]
    simpa using failed

section Failing

variable {holds : σ → List UInt8 → Prop} {writer after : SegmentWriter σ} {record : Record}

/-- An append that fails has changed nothing, or else it is the sync that has failed, and the record is
in the segment and counted there. -/
theorem failed_append_cases (atomic : Sink.Atomic holds) {bytes : List UInt8}
    (held : holds writer.sink bytes) {error : Error}
    (failed : writer.appendRecord record = (after, .error error) ∨
      ∃ operation, record = ⟨writer.nextTxid, operation⟩ ∧
        writer.append operation = (after, .error error)) :
    (writer.fate record ≠ .unsynced ∧ holds after.sink bytes ∧
      after = { writer with sink := after.sink }) ∨
    (writer.fate record = .unsynced ∧ ∃ encoding, record.encode writer.version = .ok encoding ∧
      holds after.sink (bytes ++ encoding) ∧ after.offset = writer.offset + encoding.length ∧
      after.flushedOffset = writer.flushedOffset ∧ after.lastTxid = some record.txid ∧
      after.nextTxid = max writer.nextTxid (record.txid + 1)) := by
  have refusal : writer.appendRecord record = (after, .error error) := by
    rcases failed with failed | ⟨operation, rfl, failed⟩
    · exact failed
    · exact appendRecord_of_append failed
  have appends := writer.appends record
  rw [refusal] at appends
  generalize writer.fate record = fate at appends ⊢
  cases appends with
  | rejected => exact .inl ⟨nofun, held, rfl⟩
  | refused _ refused => exact .inl ⟨nofun, atomic.refused held refused, rfl⟩
  | unsynced takes _ lost =>
    have held := atomic.synced (atomic.wrote held takes.wrote) lost
    exact .inr ⟨rfl, _, takes.encoded, held, by rw [Packed.length_toList]; rfl, rfl, rfl, rfl⟩

theorem failed_append_cases_full :
    ∃ writer after error, start .standard (⟨.empty, some 4, false, false, none, 0⟩ : BoundedBuffer) =
        .ok writer ∧ writer.append .startSegment = (after, .error error) ∧
      after.sink.bytes = LayoutVersion.checksummed.header ∧
      after = { writer with sink := after.sink } := by
  obtain ⟨writer, after, started, held, failed, unsynced⟩ : ∃ writer after,
      start .standard (⟨.empty, some 4, false, false, none, 0⟩ : BoundedBuffer) = .ok writer ∧
      writer.sink.bytes = LayoutVersion.checksummed.header ∧
      writer.append .startSegment = (after, .error (.io .sinkFull)) ∧
      writer.fate ⟨writer.nextTxid, .startSegment⟩ ≠ .unsynced :=
    ⟨_, _, rfl, rfl, rfl, by decide +kernel⟩
  rcases failed_append_cases BoundedBuffer.atomic held (.inr ⟨.startSegment, rfl, failed⟩) with
    ⟨-, kept, same⟩ | ⟨lost, -⟩
  · exact ⟨writer, after, _, started, failed, kept, same⟩
  · exact absurd lost unsynced

theorem failed_append_recorded :
    ¬ ∀ (config : Config) (sink : BoundedBuffer) (writer after : SegmentWriter BoundedBuffer)
      (operation : Operation) (error : Error), start config sink = .ok writer →
      writer.append operation = (after, .error error) →
      after.sink.bytes = writer.sink.bytes ∧ after.offset = writer.offset ∧
        after.flushedOffset = writer.flushedOffset ∧ after.lastTxid = writer.lastTxid ∧
        after.nextTxid = writer.nextTxid := by
  intro unchanged
  obtain ⟨-, -, -, last, -⟩ := unchanged { Config.standard with sync := .everyWrite }
    ⟨.empty, none, false, false, some 1, 0⟩ _ _ .startSegment _ rfl rfl
  exact Option.some_ne_none _ last

end Failing

end Journal.SegmentWriter
