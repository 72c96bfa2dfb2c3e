import Journal.Proofs.Segment.Language
import Journal.Proofs.Segment.Writer

set_option autoImplicit false

namespace Journal

namespace Segment

theorem written_nil {version : LayoutVersion} (supported : version.isSupported = true) :
    Written version [] 0 version.header :=
  written_iff.mpr ⟨supported, [], .nil, by simp⟩

theorem follows_getLast? {records : List Record} (ordered : records.Pairwise (·.txid ≤ ·.txid))
    {txid : UInt64} :
    follows (records.getLast?.map (·.txid)) txid = true ↔
      ∀ record ∈ records, record.txid ≤ txid := by
  cases records using List.reverseRecOn with
  | nil => simp [follows]
  | append_singleton records last =>
    have before := (List.pairwise_append.mp ordered).2.2
    simp only [List.getLast?_append, List.getLast?_singleton, Option.some_or, Option.map_some,
      follows, decide_eq_true_eq, List.mem_append, List.mem_singleton]
    constructor
    · intro late record member
      rcases member with earlier | rfl
      · exact UInt64.le_trans (before record earlier last List.mem_cons_self) late
      · exact late
    · intro all
      exact all last (.inr rfl)

theorem Written.concat {version : LayoutVersion} {records : List Record} {bytes encoding : List UInt8}
    (written : Written version records 0 bytes) {record : Record}
    (later : ∀ earlier ∈ records, earlier.txid ≤ record.txid)
    (encoded : record.encode version = .ok encoding) :
    Written version (records ++ [record]) 0 (bytes ++ encoding) := by
  obtain ⟨supported, ordered, formed⟩ := written
  obtain ⟨encodings, mapped, joined⟩ := bind_eq_ok.mp formed
  refine ⟨supported, List.pairwise_append.mpr ⟨ordered, List.pairwise_singleton _ _, ?_⟩, ?_⟩
  · intro earlier member other last
    rw [List.mem_singleton.mp last]
    exact later earlier member
  · rw [← pure_eq_ok.mp joined, bytesOf, List.mapM_append, mapped, ok_bind, List.mapM_cons, encoded]
    simp [bind, Except.bind, pure, Except.pure]

theorem Written.lengthened {version : LayoutVersion} {records : List Record} {fill : Nat}
    {bytes : List UInt8} (written : Written version records fill bytes) (more : Nat) :
    Written version records (fill + more) (bytes ++ List.replicate more Opcode.fillByte) := by
  obtain ⟨supported, laid, stands, rfl⟩ := written_iff.mp written
  refine written_iff.mpr ⟨supported, laid, stands, ?_⟩
  rw [List.append_assoc, List.replicate_append_replicate]

theorem Written.filled {version : LayoutVersion} {records : List Record} {bytes : List UInt8}
    (written : Written version records 0 bytes) (fill : Nat) :
    Written version records fill (bytes ++ List.replicate fill Opcode.fillByte) := by
  have lengthened := written.lengthened fill
  rwa [Nat.zero_add] at lengthened

end Segment

theorem Record.encode_boundary {operation : Operation} (boundary : operation.opcode.isBoundary = true)
    (txid : UInt64) (version : LayoutVersion) :
    ∃ encoding, Record.encode ⟨txid, operation⟩ version = .ok encoding := by
  have empty : operation.body = [] := by
    obtain ⟨opcode, payload⟩ := operation
    cases opcode <;> first | contradiction | rfl
  apply exists_encode
  rw [empty]
  exact Nat.zero_le _

namespace SegmentWriter

variable {σ : Type} [Sink σ] {holds : σ → List UInt8 → Prop} {writer : SegmentWriter σ}
  {records : List Record}

def Logged (holds : σ → List UInt8 → Prop) (writer : SegmentWriter σ) (records : List Record) : Prop :=
  ∃ bytes, writer.Wrote holds bytes (records.getLast?.map (·.txid)) ∧
    Segment.Written writer.version records 0 bytes

omit [Sink σ] in
theorem logged_nil {config : Config} (checked : checkConfig config = .ok ())
    (version : writer.version = config.layoutVersion)
    (wrote : writer.Wrote holds config.layoutVersion.header none) : writer.Logged holds [] := by
  refine ⟨_, wrote, ?_⟩
  rw [version]
  exact Segment.written_nil (checkConfig_eq_ok.mp checked).1

theorem start_logged (keeps : Sink.Keeps holds) {config : Config}
    (checked : checkConfig config = .ok ()) {sink : σ} (empty : holds sink []) :
    ∃ writer, start config sink = .ok writer ∧ writer.Logged holds [] ∧
      SameSetup (blank config sink) writer ∧ writer.nextTxid = 1 := by
  obtain ⟨writer, started, wrote, setup, next⟩ := start_of_keeps keeps checked empty
  exact ⟨writer, started, logged_nil checked setup.version wrote, setup, next⟩

omit [Sink σ] in
theorem Logged.moved (logged : writer.Logged holds records) {after : σ}
    (still : ∀ {bytes : List UInt8}, holds writer.sink bytes → holds after bytes)
    (flushed unsynced : Nat) :
    Logged holds { writer with sink := after, flushedOffset := flushed, unsynced := unsynced }
      records := by
  obtain ⟨bytes, wrote, written⟩ := logged
  exact ⟨bytes, ⟨still wrote.held, wrote.offset, wrote.last⟩, written⟩

omit [Sink σ] in
theorem logged_concat {bytes encoding : List UInt8}
    (written : Segment.Written writer.version records 0 bytes) {record : Record}
    (later : ∀ earlier ∈ records, earlier.txid ≤ record.txid)
    (encoded : record.encode writer.version = .ok encoding) {after : SegmentWriter σ}
    (version : after.version = writer.version)
    (wrote : after.Wrote holds (bytes ++ encoding) (some record.txid)) :
    after.Logged holds (records ++ [record]) := by
  refine ⟨bytes ++ encoding, ?_, ?_⟩
  · rwa [List.getLast?_append, List.getLast?_singleton]
  · rw [version]
    exact written.concat later encoded

theorem Logged.recorded (atomic : Sink.Atomic holds) (logged : writer.Logged holds records)
    {record : Record} {chunk : ByteArray} {sink : σ} (takes : Takes writer record chunk sink) :
    (writer.recorded record chunk.size sink).Logged holds (records ++ [record]) := by
  obtain ⟨bytes, wrote, written⟩ := logged
  have later := takes.later
  rw [wrote.last, Segment.follows_getLast? written.ordered] at later
  exact logged_concat written later takes.encoded rfl (wrote.recorded atomic takes)

theorem Logged.appendRecord (keeps : Sink.Keeps holds) (logged : writer.Logged holds records)
    {record : Record} (later : ∀ earlier ∈ records, earlier.txid ≤ record.txid)
    (fits : ∃ encoding, record.encode writer.version = .ok encoding) :
    ∃ after, writer.appendRecord record = (after, .ok ()) ∧
      after.Logged holds (records ++ [record]) ∧ SameSetup writer after ∧
      after.nextTxid = max writer.nextTxid (record.txid + 1) := by
  obtain ⟨bytes, wrote, written⟩ := logged
  obtain ⟨encoding, encoded⟩ := fits
  obtain ⟨after, appended, wrote, setup, next⟩ := appendRecord_of_keeps keeps wrote
    ((Segment.follows_getLast? written.ordered).mpr later) encoded
  exact ⟨after, appended, logged_concat written later encoded setup.version wrote, setup, next⟩

theorem Logged.appendRecord_cases (keeps : Sink.Keeps holds) (logged : writer.Logged holds records)
    (record : Record) :
    (∃ after, writer.appendRecord record = (after, .ok ()) ∧
      (∀ earlier ∈ records, earlier.txid ≤ record.txid) ∧
      after.Logged holds (records ++ [record]) ∧ SameSetup writer after ∧
      after.nextTxid = max writer.nextTxid (record.txid + 1)) ∨
    ∃ error, writer.appendRecord record = (writer, .error error) := by
  have ⟨_, wrote, written⟩ := logged
  by_cases later : ∀ earlier ∈ records, earlier.txid ≤ record.txid
  · cases encoded : record.encode writer.version with
    | error error => exact .inr (appendRecord_refused (.inr ⟨error, encoded⟩))
    | ok encoding =>
      obtain ⟨after, appended, rest⟩ := logged.appendRecord keeps later ⟨encoding, encoded⟩
      exact .inl ⟨after, appended, later, rest⟩
  · right
    apply appendRecord_refused
    left
    rw [wrote.last, ← Bool.not_eq_true, Segment.follows_getLast? written.ordered]
    exact later

theorem Logged.append_cases (keeps : Sink.Keeps holds) (logged : writer.Logged holds records)
    (operation : Operation) :
    (∃ after, writer.append operation = (after, .ok writer.nextTxid) ∧
      after.Logged holds (records ++ [⟨writer.nextTxid, operation⟩]) ∧ SameSetup writer after ∧
      after.nextTxid = max writer.nextTxid (writer.nextTxid + 1)) ∨
    ∃ error, writer.append operation = (writer, .error error) := by
  rcases logged.appendRecord_cases keeps ⟨writer.nextTxid, operation⟩ with
    ⟨after, appended, -, rest⟩ | ⟨error, refused⟩
  · exact .inl ⟨after, by simp only [append, appended], rest⟩
  · exact .inr ⟨error, by simp only [append, refused]⟩

theorem Logged.append_boundary (keeps : Sink.Keeps holds) (logged : writer.Logged holds records)
    (later : ∀ earlier ∈ records, earlier.txid ≤ writer.nextTxid) {operation : Operation}
    (boundary : operation.opcode.isBoundary = true) :
    ∃ after, writer.append operation = (after, .ok writer.nextTxid) ∧
      after.Logged holds (records ++ [⟨writer.nextTxid, operation⟩]) ∧ SameSetup writer after ∧
      after.nextTxid = max writer.nextTxid (writer.nextTxid + 1) := by
  have fits := Record.encode_boundary boundary writer.nextTxid writer.version
  obtain ⟨after, appended, rest⟩ := logged.appendRecord keeps later fits
  exact ⟨after, by simp only [append, appended], rest⟩

theorem Logged.close (keeps : Sink.Keeps holds) (logged : writer.Logged holds records)
    (chunked : writer.preallocation ≠ some 0) :
    ∃ sink bytes fill, writer.close = (sink, .ok ()) ∧ holds sink bytes ∧
      Segment.Written writer.version records (fill + 1) bytes ∧
      (writer.preallocation = none → fill = 0) := by
  obtain ⟨bytes, wrote, written⟩ := logged
  obtain ⟨sink, closed, held⟩ := close_of_keeps keeps wrote
  obtain ⟨fill, trailer, unpadded⟩ := trailer_eq chunked
  rw [trailer] at held
  exact ⟨sink, _, fill, closed, held, written.filled (fill + 1), unpadded⟩

end SegmentWriter

end Journal
