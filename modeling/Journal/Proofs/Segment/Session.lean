import Journal.Proofs.Segment.Records

set_option autoImplicit false

namespace Journal.SegmentWriter

variable {σ : Type} [Sink σ]

def taken {α : Type} (record : α → Record) : Except Error α → List Record
  | .ok value => [record value]
  | .error _ => []

inductive Run (config : Config) (sink : σ) : SegmentWriter σ → List Record → Prop
  | start {writer : SegmentWriter σ} (started : start config sink = .ok writer) :
      Run config sink writer []
  | startingAt {writer : SegmentWriter σ} {done : List Record} (run : Run config sink writer done)
      (txid : UInt64) : Run config sink (writer.startingAt txid) done
  | append {writer : SegmentWriter σ} {done : List Record} (run : Run config sink writer done)
      (operation : Operation) :
      Run config sink (writer.append operation).1
        (done ++ taken (⟨·, operation⟩) (writer.append operation).2)
  | appendRecord {writer : SegmentWriter σ} {done : List Record} (run : Run config sink writer done)
      (record : Record) :
      Run config sink (writer.appendRecord record).1
        (done ++ taken (fun _ => record) (writer.appendRecord record).2)
  | flush {writer : SegmentWriter σ} {done : List Record} (run : Run config sink writer done) :
      Run config sink writer.flush.1 done

def Closes (config : Config) (records : List Record) (bytes : List UInt8) : Prop :=
  ∃ writer sink, Run config Buffer.empty writer records ∧ writer.close = (sink, .ok ()) ∧
    sink.bytes = bytes

section Keeping

variable {holds : σ → List UInt8 → Prop} (keeps : Sink.Keeps holds) {config : Config} {sink : σ}
  {writer : SegmentWriter σ} {done : List Record}

omit [Sink σ] in
theorem SameSetup.trans {first second third : SegmentWriter σ} (before : SameSetup first second)
    (after : SameSetup second third) : SameSetup first third :=
  ⟨after.version.trans before.version, after.sync.trans before.sync,
    after.preallocation.trans before.preallocation⟩

include keeps in
theorem Run.logged (empty : holds sink []) (run : Run config sink writer done) :
    writer.Logged holds done ∧ checkConfig config = .ok () ∧
      SameSetup (blank config sink) writer := by
  induction run with
  | @start writer started =>
    have checked := (of_start_eq_ok started).1
    obtain ⟨found, started', logged, setup, -⟩ := start_logged keeps checked empty
    rw [started] at started'
    cases started'
    exact ⟨logged, checked, setup⟩
  | startingAt run txid ih =>
    obtain ⟨⟨bytes, wrote, written⟩, checked, setup⟩ := ih
    exact ⟨⟨bytes, ⟨wrote.held, wrote.offset, wrote.last⟩, written⟩, checked,
      setup.trans ⟨rfl, rfl, rfl⟩⟩
  | append run operation ih =>
    obtain ⟨logged, checked, setup⟩ := ih
    rcases logged.append_cases keeps operation with
      ⟨after, appended, logged, same, -⟩ | ⟨error, refused⟩
    · rw [appended]
      exact ⟨logged, checked, setup.trans same⟩
    · rw [refused, taken, List.append_nil]
      exact ⟨logged, checked, setup⟩
  | appendRecord run record ih =>
    obtain ⟨logged, checked, setup⟩ := ih
    rcases logged.appendRecord_cases keeps record with
      ⟨after, appended, -, logged, same, -⟩ | ⟨error, refused⟩
    · rw [appended]
      exact ⟨logged, checked, setup.trans same⟩
    · rw [refused, taken, List.append_nil]
      exact ⟨logged, checked, setup⟩
  | flush run ih =>
    obtain ⟨⟨bytes, wrote, written⟩, checked, setup⟩ := ih
    obtain ⟨synced, flushed, wrote⟩ := wrote.flush keeps
    rw [flushed]
    exact ⟨⟨bytes, wrote, written⟩, checked, setup.trans ⟨rfl, rfl, rfl⟩⟩

end Keeping

section Closing

variable {config : Config} {records : List Record} {bytes : List UInt8}

theorem Run.close {writer : SegmentWriter Buffer} (run : Run config Buffer.empty writer records) :
    ∃ sink fill, writer.close = (sink, .ok ()) ∧
      Segment.Written config.layoutVersion records (fill + 1) sink.bytes ∧
      (config.preallocation = none → fill = 0) := by
  obtain ⟨logged, checked, setup⟩ := run.logged Buffer.keeps Buffer.bytes_empty
  have chunked : writer.preallocation ≠ some 0 := by
    rw [setup.preallocation]
    exact (checkConfig_eq_ok.mp checked).2
  obtain ⟨sink, _, fill, closed, rfl, written, unpadded⟩ := logged.close Buffer.keeps chunked
  rw [setup.version] at written
  rw [setup.preallocation] at unpadded
  exact ⟨sink, fill, closed, written, unpadded⟩

theorem Closes.written (closes : Closes config records bytes) :
    ∃ fill, Segment.Written config.layoutVersion records (fill + 1) bytes := by
  obtain ⟨writer, sink, run, closed, rfl⟩ := closes
  obtain ⟨left, fill, ended, written, -⟩ := run.close
  rw [closed] at ended
  cases ended
  exact ⟨fill, written⟩

theorem exists_run (checked : checkConfig config = .ok ())
    (ordered : records.Pairwise (·.txid ≤ ·.txid))
    (fits : ∀ record ∈ records, ∃ encoding, record.encode config.layoutVersion = .ok encoding) :
    ∃ writer, Run config Buffer.empty writer records := by
  induction records using List.reverseRecOn with
  | nil =>
    obtain ⟨writer, started, -⟩ := start_logged Buffer.keeps checked Buffer.bytes_empty
    exact ⟨writer, .start started⟩
  | append_singleton records record ih =>
    obtain ⟨ordered, -, before⟩ := List.pairwise_append.mp ordered
    obtain ⟨writer, run⟩ := ih ordered fun other member => fits other (List.mem_append_left _ member)
    obtain ⟨logged, -, setup⟩ := run.logged Buffer.keeps Buffer.bytes_empty
    have later (earlier : Record) (member : earlier ∈ records) : earlier.txid ≤ record.txid :=
      before earlier member record List.mem_cons_self
    have fit := fits record (List.mem_append_right _ List.mem_cons_self)
    have version : writer.version = config.layoutVersion := setup.version
    rw [← version] at fit
    obtain ⟨after, appended, -⟩ := logged.appendRecord Buffer.keeps later fit
    have run := run.appendRecord record
    rw [appended] at run
    exact ⟨after, run⟩

theorem Closes.of_written (unpadded : config.preallocation = none)
    (written : Segment.Written config.layoutVersion records 1 bytes) :
    Closes config records bytes := by
  have checked : checkConfig config = .ok () :=
    checkConfig_eq_ok.mpr ⟨written.supported, unpadded ▸ nofun⟩
  obtain ⟨-, laid, stands, -⟩ := Segment.written_iff.mp written
  obtain ⟨writer, run⟩ := exists_run checked written.ordered stands.encoded
  obtain ⟨sink, fill, closed, left, single⟩ := run.close
  obtain rfl := single unpadded
  have same := left.formed.symm.trans written.formed
  exact ⟨writer, sink, run, closed, Except.ok.inj same⟩

end Closing

end Journal.SegmentWriter
