import Journal.Proofs.Protocol
import Journal.Proofs.Segment.Emitter
import Journal.Proofs.Segment.Records

set_option autoImplicit false

namespace Journal

structure Sink.StaysBroken {σ : Type} [Sink σ] (broken : σ → Prop) : Prop where
  failed : ∀ {sink after : σ} {fault : IoFault}, Sink.sync sink = (after, .error fault) → broken after
  write : ∀ {sink after : σ} {chunk : ByteArray} {outcome : Except IoFault Unit}, broken sink →
    Sink.write chunk sink = (after, outcome) → broken after
  sync : ∀ {sink : σ}, broken sink → ∃ after fault, Sink.sync sink = (after, .error fault)

theorem BoundedBuffer.staysBroken :
    Sink.StaysBroken fun bounded : BoundedBuffer => bounded.maySync = false where
  failed {sink after fault} failed := by
    simp only [Sink.sync] at failed
    split at failed
    · simp at failed
    · next refused =>
      obtain ⟨rfl, -⟩ := Prod.mk.inj failed
      simpa using refused
  write {sink after chunk outcome} broken wrote := by
    simp only [Sink.write] at wrote
    split at wrote <;> obtain ⟨rfl, -⟩ := Prod.mk.inj wrote <;> exact broken
  sync {sink} broken := by
    refine ⟨sink, .syncFailed, ?_⟩
    simp only [Sink.sync, broken]
    rfl

namespace Visitor

def Call.make {υ : Type} [Visitor υ] (visitor : υ) : Call → υ × Except Error Unit
  | .opened version => onOpen version visitor
  | .consumed record => consume record visitor
  | .closed met => onClose met visitor

def openings (calls : List Answered) : List LayoutVersion :=
  calls.filterMap fun
    | (.opened version, .ok ()) => some version
    | _ => none

def acknowledged (calls : List Answered) : List Record :=
  calls.filterMap fun
    | (.consumed record, .ok ()) => some record
    | _ => none

theorem openings_concat (calls : List Answered) (call : Answered) :
    openings (calls ++ [call]) = openings calls ++ openings [call] := List.filterMap_append

theorem acknowledged_concat (calls : List Answered) (call : Answered) :
    acknowledged (calls ++ [call]) = acknowledged calls ++ acknowledged [call] :=
  List.filterMap_append

end Visitor

def Recorder.run {υ : Type} [Visitor υ] (recorder : Recorder υ) (calls : List Visitor.Call) :
    Recorder υ :=
  calls.foldl (fun recorder call => (call.make recorder).1) recorder

theorem Recorder.make_eq {υ : Type} [Visitor υ] (recorder : Recorder υ) (call : Visitor.Call) :
    call.make recorder = recorder.note call (call.make recorder.visitor) := by
  cases call <;> rfl

theorem Recorder.run_calls {υ : Type} [Visitor υ] (recorder : Recorder υ)
    (calls : List Visitor.Call) :
    (recorder.run calls).calls.map Prod.fst = recorder.calls.map Prod.fst ++ calls := by
  induction calls generalizing recorder with
  | nil => simp [run]
  | cons call calls ih =>
    rw [run, List.foldl_cons, ← run, ih, make_eq, note]
    simp

theorem SegmentWriter.appendRecord_logged {σ : Type} [Sink σ] {holds : σ → List UInt8 → Prop}
    {broken : σ → Prop} (atomic : Sink.Atomic holds) (stays : Sink.StaysBroken broken)
    {writer : SegmentWriter σ} {records : List Record}
    (logged : writer.Logged holds records ∨ broken writer.sink) (record : Record) :
    ∃ after answer, writer.appendRecord record = (after, answer) ∧ SameSetup writer after ∧
      (after.Logged holds (records ++ Visitor.acknowledged [(.consumed record, answer)]) ∨
        broken after.sink) := by
  have appends := writer.appends record
  generalize writer.fate record = fate, writer.appendRecord record = result at appends ⊢
  cases appends with
  | rejected =>
    refine ⟨_, _, rfl, ⟨rfl, rfl, rfl⟩, ?_⟩
    simpa [Visitor.acknowledged] using logged
  | refused _ refused =>
    refine ⟨_, _, rfl, ⟨rfl, rfl, rfl⟩, logged.imp (fun logged => ?_) (stays.write · refused)⟩
    simpa [Visitor.acknowledged] using
      logged.moved (fun held => atomic.refused held refused) writer.flushedOffset writer.unsynced
  | written takes =>
    exact ⟨_, _, rfl, ⟨rfl, rfl, rfl⟩,
      logged.imp (·.recorded atomic takes) (stays.write · takes.wrote)⟩
  | @synced chunk sink after takes _ synced =>
    refine ⟨_, _, rfl, ⟨rfl, rfl, rfl⟩, logged.imp (fun logged => ?_) fun broken => ?_⟩
    · exact (logged.recorded atomic takes).moved (fun held => atomic.synced held synced) _ _
    · obtain ⟨lost, fault, failed⟩ := stays.sync (stays.write broken takes.wrote)
      rw [synced] at failed
      simp at failed
  | unsynced _ _ failed => exact ⟨_, _, rfl, ⟨rfl, rfl, rfl⟩, .inr (stays.failed failed)⟩

theorem SegmentWriter.close_logged {σ : Type} [Sink σ] {holds : σ → List UInt8 → Prop}
    {broken : σ → Prop} (atomic : Sink.Atomic holds) (stays : Sink.StaysBroken broken)
    {writer : SegmentWriter σ} {records : List Record}
    (logged : writer.Logged holds records ∨ broken writer.sink)
    (chunked : writer.preallocation ≠ some 0) {after : σ} (closed : writer.close = (after, .ok ())) :
    ∃ fill bytes, holds after bytes ∧
      Segment.Written writer.version records (fill + 1) bytes := by
  rcases logged with ⟨bytes, wrote, written⟩ | broken
  · obtain ⟨fill, trailer, -⟩ := trailer_fills chunked
    have held := wrote.close atomic closed
    rw [trailer] at held
    exact ⟨fill, _, held, written.filled (fill + 1)⟩
  · -- The sync at the end cannot have succeeded.
    rw [close] at closed
    split at closed
    · simp at closed
    · next ended wrote =>
      obtain ⟨sink, taken, rfl⟩ := of_write_eq_ok wrote
      obtain ⟨lost, fault, failed⟩ := stays.sync (stays.write broken taken)
      simp only [flush, failed] at closed
      simp at closed

namespace SegmentEmitter

open Visitor

variable {σ : Type} [Sink σ] {holds : σ → List UInt8 → Prop} {broken : σ → Prop}

inductive Accounts (holds : σ → List UInt8 → Prop) (broken : σ → Prop) :
    EmitterStage σ → List LayoutVersion → List Record → Prop
  | pending {sink : σ} (empty : holds sink []) : Accounts holds broken (.pending sink) [] []
  -- After a failed sync there can be a record in the segment that has not been acknowledged.
  | writing {writer : SegmentWriter σ} {records : List Record}
      (chunked : writer.preallocation ≠ some 0)
      (logged : writer.Logged holds records ∨ broken writer.sink) :
      Accounts holds broken (.writing writer) [writer.version] records
  | closed {sink : σ} {version : LayoutVersion} {records : List Record} {fill : Nat}
      {bytes : List UInt8} (held : holds sink bytes)
      (written : Segment.Written version records (fill + 1) bytes) :
      Accounts holds broken (.closed sink) [version] records
  | spoiled (sink : σ) (versions : List LayoutVersion) (records : List Record) :
      Accounts holds broken (.spoiled sink) versions records

namespace Accounts

variable {emitter : SegmentEmitter σ} {versions : List LayoutVersion} {records : List Record}

theorem onOpen (atomic : Sink.Atomic holds)
    (accounts : Accounts holds broken emitter.stage versions records) (version : LayoutVersion) :
    ∃ after answer, emitter.onOpen version = (after, answer) ∧
      after.recordsWritten = emitter.recordsWritten ∧
      Accounts holds broken after.stage (versions ++ openings [(.opened version, answer)])
        records := by
  obtain ⟨config, stage, count⟩ := emitter
  cases accounts with
  | @pending sink empty =>
    cases started : SegmentWriter.start { config with layoutVersion := version } sink with
    | error failed =>
      simp only [SegmentEmitter.onOpen, started]
      exact ⟨_, _, rfl, rfl, .spoiled ..⟩
    | ok writer =>
      simp only [SegmentEmitter.onOpen, started]
      have checked := (SegmentWriter.of_start_eq_ok started).1
      obtain ⟨wrote, -, setup, -⟩ := SegmentWriter.start_ok atomic empty started
      obtain rfl : writer.version = version := setup.version
      have chunked := (SegmentWriter.checkConfig_eq_ok.mp checked).2
      exact ⟨_, _, rfl, rfl, .writing (setup.preallocation.symm ▸ chunked)
        (.inl (SegmentWriter.logged_nil checked setup.version wrote))⟩
  | writing | closed | spoiled => exact ⟨_, _, rfl, rfl, .spoiled ..⟩

theorem consume (atomic : Sink.Atomic holds) (stays : Sink.StaysBroken broken)
    (accounts : Accounts holds broken emitter.stage versions records) (record : Record) :
    ∃ after answer, emitter.consume record = (after, answer) ∧
      after.recordsWritten =
        emitter.recordsWritten + (acknowledged [(.consumed record, answer)]).length ∧
      Accounts holds broken after.stage versions
        (records ++ acknowledged [(.consumed record, answer)]) := by
  obtain ⟨config, stage, count⟩ := emitter
  have idle {error : Error} (same : Accounts holds broken stage versions records) :
      Accounts holds broken stage versions
        (records ++ acknowledged [(.consumed record, .error error)]) := by
    simpa [acknowledged] using same
  have same := accounts
  cases accounts with
  | writing chunked logged =>
    obtain ⟨after, answer, appended, setup, logged⟩ :=
      SegmentWriter.appendRecord_logged atomic stays logged record
    have accounts : Accounts holds broken (.writing after) [after.version]
        (records ++ acknowledged [(.consumed record, answer)]) :=
      .writing (setup.preallocation ▸ chunked) logged
    rw [setup.version] at accounts
    simp only [SegmentEmitter.consume, appended]
    cases answer <;> exact ⟨_, _, rfl, rfl, accounts⟩
  | pending | closed | spoiled => exact ⟨_, _, rfl, rfl, idle same⟩

theorem onClose (atomic : Sink.Atomic holds) (stays : Sink.StaysBroken broken)
    (accounts : Accounts holds broken emitter.stage versions records) :
    ∃ after answer, emitter.onClose = (after, answer) ∧
      after.recordsWritten = emitter.recordsWritten ∧
      Accounts holds broken after.stage versions records := by
  obtain ⟨config, stage, count⟩ := emitter
  have same := accounts
  cases accounts with
  | @writing writer _ chunked logged =>
    cases closed : writer.close with
    | mk after outcome =>
      simp only [SegmentEmitter.onClose, closed]
      cases outcome with
      | error error => exact ⟨_, _, rfl, rfl, .spoiled ..⟩
      | ok =>
        obtain ⟨fill, bytes, held, written⟩ :=
          SegmentWriter.close_logged atomic stays logged chunked closed
        exact ⟨_, _, rfl, rfl, .closed held written⟩
  | pending | closed | spoiled => exact ⟨_, _, rfl, rfl, same⟩

end Accounts

structure Faithful (holds : σ → List UInt8 → Prop) (broken : σ → Prop)
    (recorder : Recorder (SegmentEmitter σ)) : Prop where
  accounts : Accounts holds broken recorder.visitor.stage (openings recorder.calls)
    (acknowledged recorder.calls)
  counted : recorder.visitor.recordsWritten = (acknowledged recorder.calls).length

namespace Faithful

variable {recorder : Recorder (SegmentEmitter σ)}

omit [Sink σ] in
theorem note (faithful : Faithful holds broken recorder) (call : Call)
    {reply : SegmentEmitter σ × Except Error Unit}
    (accounts : Accounts holds broken reply.1.stage
      (openings recorder.calls ++ openings [(call, reply.2)])
      (acknowledged recorder.calls ++ acknowledged [(call, reply.2)]))
    (counted : reply.1.recordsWritten =
      recorder.visitor.recordsWritten + (acknowledged [(call, reply.2)]).length) :
    Faithful holds broken (recorder.note call reply).1 where
  accounts := by simpa [Recorder.note, openings_concat, acknowledged_concat] using accounts
  counted := by
    simpa [Recorder.note, acknowledged_concat, faithful.counted] using counted

theorem make (atomic : Sink.Atomic holds) (stays : Sink.StaysBroken broken)
    (faithful : Faithful holds broken recorder) (call : Call) :
    Faithful holds broken (call.make recorder).1 := by
  rw [Recorder.make_eq]
  cases call with
  | opened version =>
    obtain ⟨after, answer, opened, counted, accounts⟩ := faithful.accounts.onOpen atomic version
    rw [show Call.make recorder.visitor (.opened version) = (after, answer) from opened]
    exact faithful.note _ (by simpa [acknowledged] using accounts)
      (by simpa [acknowledged] using counted)
  | consumed record =>
    obtain ⟨after, answer, consumed, counted, accounts⟩ :=
      faithful.accounts.consume atomic stays record
    rw [show Call.make recorder.visitor (.consumed record) = (after, answer) from consumed]
    exact faithful.note _ (by simpa [openings] using accounts) counted
  | closed met =>
    obtain ⟨after, answer, closed, counted, accounts⟩ := faithful.accounts.onClose atomic stays
    rw [show Call.make recorder.visitor (.closed met) = (after, answer) from closed]
    exact faithful.note _ (by simpa [openings, acknowledged] using accounts)
      (by simpa [acknowledged] using counted)

theorem run (atomic : Sink.Atomic holds) (stays : Sink.StaysBroken broken)
    (faithful : Faithful holds broken recorder) (calls : List Call) :
    Faithful holds broken (recorder.run calls) := by
  induction calls generalizing recorder with
  | nil => exact faithful
  | cons call calls ih => exact ih (faithful.make atomic stays call)

end Faithful

/-- An emitter that gives back its sink has been opened once, and the sink holds a segment of the
records that it has acknowledged, whatever else it has been asked for. Before and after that it takes no
record. -/
theorem finished_eq_acknowledged (atomic : Sink.Atomic holds) (stays : Sink.StaysBroken broken)
    (config : Config) {sink : σ} (empty : holds sink []) (calls : List Call) :
    let after := (Recorder.mk (onto config sink) []).run calls
    after.calls.map Prod.fst = calls ∧
    (∀ given, after.visitor.finished? = some given →
      ∃ version bytes, openings after.calls = [version] ∧ holds given bytes ∧
        after.visitor.recordsWritten = (acknowledged after.calls).length ∧
        ∀ reading, ∃ scan,
          Segment.readAll .strict reading bytes = .ok (acknowledged after.calls, scan) ∧
          scan.version = version ∧ scan.firstError = none ∧ scan.cleanlyClosed = true) ∧
    ((∀ writer, after.visitor.stage ≠ .writing writer) → ∀ record,
      Visitor.consume record after.visitor = (after.visitor, .error (.write .notOpen))) := by
  intro after
  have fresh : Faithful holds broken (Recorder.mk (onto config sink) []) := ⟨.pending empty, rfl⟩
  obtain ⟨accounts, counted⟩ := fresh.run atomic stays calls
  refine ⟨Recorder.run_calls _ calls, fun given finished => ?_, fun idle record => ?_⟩
  · rw [finished?] at finished
    split at finished
    · next sink staged =>
      obtain rfl := Option.some.inj finished
      generalize openings after.calls = versions, acknowledged after.calls = records
        at accounts counted ⊢
      rw [staged] at accounts
      cases accounts with
      | @closed _ version _ fill bytes held written =>
        have marked : 1 ≤ fill + 1 := Nat.le_add_left ..
        exact ⟨version, bytes, rfl, held, counted, fun reading =>
          ⟨_, Segment.readAll_of_written written fun _ => marked, rfl,
            Segment.firstError_cleanScan .., decide_eq_true marked⟩⟩
    · contradiction
  · simp only [Visitor.consume, consume]

theorem finished_eq_acknowledged_refused :
    ∃ (emitter : Recorder (SegmentEmitter BoundedBuffer)) (given : BoundedBuffer) (scan : Scan),
      (Recorder.mk (onto .standard ⟨.empty, some 39, false, false, some 2, 0⟩) []).run
        [.consumed ⟨1, .startSegment⟩, .opened .checksummed, .consumed ⟨7, .startSegment⟩,
          .consumed ⟨5, .startSegment⟩, .consumed ⟨8, ⟨.delete, ⟨"/a", 9⟩⟩⟩,
          .consumed ⟨9, .endSegment⟩, .closed none] = emitter ∧
      emitter.visitor.finished? = some given ∧
      Segment.readAll .strict .standard given.bytes =
        .ok ([⟨7, .startSegment⟩, ⟨9, .endSegment⟩], scan) ∧
      scan.version = .checksummed ∧ scan.cleanlyClosed = true ∧
      emitter.visitor.recordsWritten = 2 := by
  let calls : List Call := [.consumed ⟨1, .startSegment⟩, .opened .checksummed,
    .consumed ⟨7, .startSegment⟩, .consumed ⟨5, .startSegment⟩,
    .consumed ⟨8, ⟨.delete, ⟨"/a", 9⟩⟩⟩, .consumed ⟨9, .endSegment⟩, .closed none]
  let emitter := (Recorder.mk (onto .standard (⟨.empty, some 39, false, false, some 2, 0⟩ :
    BoundedBuffer)) []).run calls
  obtain ⟨given, finished⟩ := Option.isSome_iff_exists.mp
    (show emitter.visitor.finished?.isSome = true by decide +kernel)
  have opened : openings emitter.calls = [.checksummed] := by decide +kernel
  have acked : acknowledged emitter.calls = [⟨7, .startSegment⟩, ⟨9, .endSegment⟩] := by
    decide +kernel
  obtain ⟨version, bytes, once, rfl, counted, reads⟩ :=
    (finished_eq_acknowledged BoundedBuffer.atomic BoundedBuffer.staysBroken .standard rfl calls).2.1
      given finished
  obtain ⟨scan, read, named, -, marked⟩ := reads .standard
  obtain rfl : LayoutVersion.checksummed = version := List.head_eq_of_cons_eq (opened.symm.trans once)
  rw [acked] at read counted
  exact ⟨emitter, given, scan, rfl, finished, read, named, marked, counted⟩

end SegmentEmitter

end Journal
