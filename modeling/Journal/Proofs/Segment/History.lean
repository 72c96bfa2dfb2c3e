import Journal.Proofs.Segment.Records
import Mathlib.Order.Bounds.Defs

set_option autoImplicit false

namespace Journal.SegmentWriter

variable {σ : Type} [Sink σ]

inductive Call
  | append (operation : Operation)
  | appendRecord (record : Record)
  | flush

structure History (σ : Type) where
  writer : SegmentWriter σ
  written : List Record
  synced : List Record

namespace History

def took (history : History σ) (record : Record) (after : SegmentWriter σ) : History σ :=
  match history.writer.fate record with
  | .rejected | .refused => ⟨after, history.written, history.synced⟩
  | .written | .unsynced => ⟨after, history.written ++ [record], history.synced⟩
  | .synced => ⟨after, history.written ++ [record], history.written ++ [record]⟩

def call (history : History σ) : Call → History σ
  | .append operation =>
    history.took ⟨history.writer.nextTxid, operation⟩ (history.writer.append operation).1
  | .appendRecord record => history.took record (history.writer.appendRecord record).1
  | .flush =>
    match history.writer.flush with
    | (after, .ok ()) => ⟨after, history.written, history.written⟩
    | (after, .error _) => ⟨after, history.written, history.synced⟩

def run (history : History σ) (calls : List Call) : History σ := calls.foldl call history

/-- What a writer on `sink` may come to. Its first transaction id can be chosen until it has written a
record. -/
inductive Reached (config : Config) (sink : σ) : History σ → Prop
  | start {writer : SegmentWriter σ} (started : start config sink = .ok writer) :
      Reached config sink ⟨writer, [], []⟩
  | startingAt {writer : SegmentWriter σ} (reached : Reached config sink ⟨writer, [], []⟩)
      (first : UInt64) : Reached config sink ⟨writer.startingAt first, [], []⟩
  | call {history : History σ} (reached : Reached config sink history) (call : Call) :
      Reached config sink (history.call call)

theorem Reached.run {config : Config} {sink : σ} {history : History σ}
    (reached : Reached config sink history) (calls : List Call) :
    Reached config sink (history.run calls) := by
  induction calls generalizing history with
  | nil => exact reached
  | cons call calls ih => exact ih (reached.call call)

structure Sound (holds : σ → List UInt8 → Prop) (config : Config) (history : History σ) : Prop where
  checked : checkConfig config = .ok ()
  version : history.writer.version = config.layoutVersion
  preallocation : history.writer.preallocation = config.preallocation
  logged : history.writer.Logged holds history.written
  flushed : history.writer.flushedOffset =
    Segment.offsetAfter config.layoutVersion history.synced
  kept : history.synced <+: history.written
  -- No transaction id is above the last one of all.
  ahead : ∀ last, history.writer.lastTxid = some last → last.toNat + 1 < 2 ^ 64 →
    last < history.writer.nextTxid

variable {holds : σ → List UInt8 → Prop} {config : Config} {history : History σ}

namespace Sound

theorem start (atomic : Sink.Atomic holds) {sink : σ} (empty : holds sink [])
    {writer : SegmentWriter σ} (started : start config sink = .ok writer) :
    Sound holds config ⟨writer, [], []⟩ := by
  have checked := (of_start_eq_ok started).1
  obtain ⟨wrote, flushed, setup, -⟩ := start_ok atomic empty started
  exact {
    checked
    version := setup.version
    preallocation := setup.preallocation
    logged := logged_nil checked setup.version wrote
    flushed := flushed.trans (wrote.offset.trans config.layoutVersion.length_header)
    kept := List.prefix_rfl
    ahead := fun last known => by
      rw [show writer.lastTxid = none from wrote.last] at known
      contradiction }

omit [Sink σ]

theorem startingAt {writer : SegmentWriter σ} (sound : Sound holds config ⟨writer, [], []⟩)
    (first : UInt64) : Sound holds config ⟨writer.startingAt first, [], []⟩ := by
  obtain ⟨bytes, ⟨held, offset, last⟩, written⟩ := sound.logged
  refine { sound with logged := ⟨bytes, ⟨held, offset, last⟩, written⟩, ahead := fun id known => ?_ }
  rw [show (writer.startingAt first).lastTxid = none from last] at known
  contradiction

variable (sound : Sound holds config history)

include sound

theorem offset :
    history.writer.offset = Segment.offsetAfter config.layoutVersion history.written := by
  obtain ⟨bytes, wrote, written⟩ := sound.logged
  rw [sound.version] at written
  rw [wrote.offset, written.length_eq, Nat.add_zero]

theorem durable {bytes : List UInt8}
    (written : Segment.Written config.layoutVersion history.written 0 bytes) :
    Segment.Written config.layoutVersion history.synced 0
      (bytes.take history.writer.flushedOffset) := by
  obtain ⟨rest, stands⟩ := sound.kept
  rw [← stands] at written
  rw [sound.flushed]
  exact written.take

theorem flushed_le : history.writer.flushedOffset ≤ history.writer.offset := by
  obtain ⟨bytes, wrote, written⟩ := sound.logged
  rw [sound.version] at written
  have length := (sound.durable written).length_eq
  rw [← sound.flushed, List.length_take, ← wrote.offset] at length
  omega

theorem moved {after : σ}
    (still : ∀ {bytes : List UInt8}, holds history.writer.sink bytes → holds after bytes) :
    Sound holds config ⟨{ history.writer with sink := after }, history.written, history.synced⟩ :=
  { sound with logged := sound.logged.moved still _ _ }

theorem flush {after : σ}
    (still : ∀ {bytes : List UInt8}, holds history.writer.sink bytes → holds after bytes) :
    Sound holds config ⟨{ history.writer with
      sink := after, flushedOffset := history.writer.offset, unsynced := 0 },
      history.written, history.written⟩ :=
  { sound with
    logged := sound.logged.moved still _ _
    flushed := sound.offset
    kept := List.prefix_rfl }

variable [Sink σ] (atomic : Sink.Atomic holds)

include atomic

theorem close {bytes : List UInt8} {last : Option UInt64}
    (wrote : history.writer.Wrote holds bytes last)
    (written : Segment.Written config.layoutVersion history.written 0 bytes) {after : σ}
    (closed : history.writer.close = (after, .ok ())) :
    ∃ fill, holds after (bytes ++ List.replicate (fill + 1) Opcode.fillByte) ∧
      Segment.Written config.layoutVersion history.written (fill + 1)
        (bytes ++ List.replicate (fill + 1) Opcode.fillByte) ∧
      (config.preallocation = none → fill = 0) ∧
      ∀ chunk, config.preallocation = some chunk →
        IsLeast {stop | chunk ∣ stop ∧ history.writer.offset < stop}
          (bytes ++ List.replicate (fill + 1) Opcode.fillByte).length := by
  have chunked := (checkConfig_eq_ok.mp sound.checked).2
  rw [← sound.preallocation] at chunked ⊢
  obtain ⟨fill, trailer, unpadded, padded⟩ := trailer_fills chunked
  have held := wrote.close atomic closed
  rw [trailer] at held
  refine ⟨fill, held, written.filled (fill + 1), unpadded, ?_⟩
  rw [List.length_append, ← wrote.offset, List.length_replicate]
  exact padded

theorem recorded {record : Record} {chunk : ByteArray} {after : σ}
    (takes : Takes history.writer record chunk after) :
    Sound holds config ⟨history.writer.recorded record chunk.size after,
      history.written ++ [record], history.synced⟩ := by
  refine { sound with
    logged := sound.logged.recorded atomic takes
    kept := sound.kept.trans (List.prefix_append ..)
    ahead := fun last known room => ?_ }
  obtain rfl : record.txid = last := Option.some.inj known
  exact Txid.lt_max_succ room _

theorem took (record : Record) :
    Sound holds config (history.took record (history.writer.appendRecord record).1) := by
  have appends := history.writer.appends record
  rw [History.took]
  generalize history.writer.fate record = fate, history.writer.appendRecord record = result
    at appends ⊢
  cases appends with
  | rejected => exact sound
  | refused _ refused => exact sound.moved fun held => atomic.refused held refused
  | written takes => exact sound.recorded atomic takes
  | synced takes _ synced =>
    exact (sound.recorded atomic takes).flush fun held => atomic.synced held synced
  | unsynced takes _ lost =>
    exact (sound.recorded atomic takes).moved fun held => atomic.synced held lost

theorem call (call : Call) : Sound holds config (history.call call) := by
  cases call with
  | append operation =>
    rw [History.call, fst_append]
    exact sound.took atomic _
  | appendRecord record => exact sound.took atomic record
  | flush =>
    rw [History.call, SegmentWriter.flush]
    cases synced : Sink.sync history.writer.sink with
    | mk after outcome =>
      cases outcome with
      | ok => exact sound.flush fun held => atomic.synced held synced
      | error fault => exact sound.moved fun held => atomic.synced held synced

end Sound

theorem Reached.sound (atomic : Sink.Atomic holds) {sink : σ} (empty : holds sink [])
    (reached : Reached config sink history) : Sound holds config history := by
  induction reached with
  | start started => exact .start atomic empty started
  | startingAt _ first ih => exact ih.startingAt first
  | call _ call ih => exact ih.call atomic call

/-- Whatever has failed, the sink holds the records that it has taken and the counters of the writer are
theirs. Once the writer has been closed the records are read back. -/
theorem writer_describes_sink (atomic : Sink.Atomic holds) {sink : σ} (empty : holds sink [])
    (reached : Reached config sink history) :
    ∃ bytes, Segment.bytesOf config.layoutVersion history.written 0 = .ok bytes ∧
      holds history.writer.sink bytes ∧ history.writer.offset = bytes.length ∧
      (history.writer.flushedOffset ≤ history.writer.offset ∧
        history.synced <+: history.written ∧
        Segment.bytesOf config.layoutVersion history.synced 0 =
          .ok (bytes.take history.writer.flushedOffset)) ∧
      (history.written.Pairwise (·.txid ≤ ·.txid) ∧
        history.writer.lastTxid = history.written.getLast?.map (·.txid) ∧
        ∀ last, history.writer.lastTxid = some last → last.toNat + 1 < 2 ^ 64 →
          last < history.writer.nextTxid) ∧
      ∀ after, history.writer.close = (after, .ok ()) → ∃ fill,
        let closed := bytes ++ List.replicate (fill + 1) Opcode.fillByte
        holds after closed ∧ (config.preallocation = none → fill = 0) ∧
        (∀ chunk, config.preallocation = some chunk →
          IsLeast {stop | chunk ∣ stop ∧ history.writer.offset < stop} closed.length) ∧
        ∀ reading, ∃ scan, Segment.readAll .strict reading closed = .ok (history.written, scan) ∧
          scan.firstError = none ∧ scan.cleanlyClosed = true := by
  have sound := reached.sound atomic empty
  obtain ⟨bytes, wrote, written⟩ := sound.logged
  rw [sound.version] at written
  refine ⟨bytes, written.formed, wrote.held, wrote.offset,
    ⟨sound.flushed_le, sound.kept, (sound.durable written).formed⟩,
    ⟨written.ordered, wrote.last, sound.ahead⟩, fun after closed => ?_⟩
  obtain ⟨fill, held, ended, unpadded, stop⟩ := sound.close atomic wrote written closed
  have marked : 1 ≤ fill + 1 := Nat.le_add_left ..
  refine ⟨fill, held, unpadded, stop, fun reading => ?_⟩
  exact ⟨_, Segment.readAll_of_written ended fun _ => marked, Segment.firstError_cleanScan ..,
    decide_eq_true marked⟩

theorem writer_describes_sink_refused :
    ∃ (history : History BoundedBuffer) (after : BoundedBuffer) (scan : Scan),
      Reached { Config.standard with preallocation := some 16 }
        ⟨.empty, some 48, false, false, none, 0⟩ history ∧
      history.writer.close = (after, .ok ()) ∧
      Segment.readAll .strict .standard after.bytes =
        .ok ([⟨7, .startSegment⟩, ⟨8, .endSegment⟩], scan) ∧
      scan.cleanlyClosed = true := by
  let calls : List Call := [.append .startSegment, .appendRecord ⟨8, .endSegment⟩, .flush,
    .append .startSegment]
  obtain ⟨fresh, started, written, closed⟩ : ∃ fresh,
      SegmentWriter.start { Config.standard with preallocation := some 16 }
        (⟨.empty, some 48, false, false, none, 0⟩ : BoundedBuffer) = .ok fresh ∧
      (run ⟨fresh.startingAt 7, [], []⟩ calls).written =
        [⟨7, .startSegment⟩, ⟨8, .endSegment⟩] ∧
      (run ⟨fresh.startingAt 7, [], []⟩ calls).writer.close.2 = .ok () :=
    ⟨_, rfl, by decide +kernel, by decide +kernel⟩
  have reached := ((Reached.start started).startingAt 7).run calls
  obtain ⟨bytes, -, -, -, -, -, closing⟩ := writer_describes_sink BoundedBuffer.atomic rfl reached
  obtain ⟨fill, held, -, -, read⟩ := closing _ (Prod.ext rfl closed)
  obtain ⟨scan, read, -, marked⟩ := read .standard
  rw [written, ← held] at read
  exact ⟨_, _, scan, reached, Prod.ext rfl closed, read, marked⟩

end History

end Journal.SegmentWriter
