import Journal.Proofs.Segment.History
import Journal.Segment.Reader

set_option autoImplicit false

namespace Journal

namespace SegmentReader

theorem openInProgress_of_read {storage : Storage} {path : Path} {contents : List UInt8}
    (found : storage.read path = .ok contents) (flushed : Nat) (config : Config) :
    openInProgress storage path flushed config =
      .ok ⟨contents.take flushed, { config with requireEndMarker := false }⟩ := by
  rw [openInProgress, found]
  rfl

end SegmentReader

namespace SegmentWriter.History

variable {σ : Type} [Sink σ] {holds : σ → List UInt8 → Prop} {config : Config}
  {history : History σ}

def Shows (holds : σ → List UInt8 → Prop) (history : History σ) (records : List Record) : Prop :=
  ∃ bytes, holds history.writer.sink bytes ∧
    ∀ (storage : Storage) (path : Path) (contents : List UInt8) (config : Config),
      storage.read path = .ok contents →
      contents.take history.writer.flushedOffset = bytes.take history.writer.flushedOffset →
      ∃ reader scan,
        SegmentReader.openInProgress storage path history.writer.flushedOffset config =
          .ok reader ∧
        reader.readAll .strict = .ok (records, scan) ∧ scan.firstError = none ∧
        scan.trustedEnd = history.writer.flushedOffset ∧ scan.cleanlyClosed = false

omit [Sink σ] in
theorem Sound.shows (sound : Sound holds config history) : Shows holds history history.synced := by
  obtain ⟨bytes, wrote, written⟩ := sound.logged
  rw [sound.version] at written
  refine ⟨bytes, wrote.held, fun storage path contents reading found same => ?_⟩
  have durable := sound.durable written
  rw [← same] at durable
  refine ⟨_, _, SegmentReader.openInProgress_of_read found _ reading,
    Segment.readAll_of_written durable nofun, Segment.firstError_cleanScan .., ?_, rfl⟩
  rw [durable.trustedEnd, sound.flushed]

theorem synced_took (kept : history.synced <+: history.written) (record : Record)
    (after : SegmentWriter σ) : history.synced <+: (history.took record after).synced := by
  rw [took]
  cases history.writer.fate record with
  | synced => exact kept.trans (List.prefix_append ..)
  | rejected | refused | written | unsynced => exact List.prefix_rfl

theorem synced_call (kept : history.synced <+: history.written) (call : Call) :
    history.synced <+: (history.call call).synced := by
  cases call with
  | append operation => exact synced_took kept _ _
  | appendRecord record => exact synced_took kept record _
  | flush =>
    rw [History.call]
    split
    · exact kept
    · exact List.prefix_rfl

theorem synced_run (atomic : Sink.Atomic holds) (sound : Sound holds config history)
    (calls : List Call) : history.synced <+: (history.run calls).synced := by
  induction calls generalizing history with
  | nil => exact List.prefix_rfl
  | cons call calls ih => exact (synced_call sound.kept call).trans (ih (sound.call atomic call))

/-- A reader that is opened now finds the records that the last successful sync has covered, and one that
is opened later finds these and perhaps more. -/
theorem in_progress_shows_synced (atomic : Sink.Atomic holds) {sink : σ} (empty : holds sink [])
    {now : History σ} (reached : Reached config sink now) (calls : List Call) :
    let later := now.run calls
    Shows holds now now.synced ∧ Shows holds later later.synced ∧ now.synced <+: later.synced := by
  intro later
  have sound := reached.sound atomic empty
  have onward : Sound holds config later := (reached.run calls).sound atomic empty
  exact ⟨sound.shows, onward.shows, synced_run atomic sound calls⟩

theorem in_progress_shows_synced_torn :
    ∃ (now : History BoundedBuffer) (reader : SegmentReader) (scan : Scan),
      Reached .standard ⟨.empty, none, false, false, some 2, 0⟩ now ∧
      now.written = [⟨1, .startSegment⟩, ⟨2, .endSegment⟩] ∧
      SegmentReader.openInProgress
        ⟨[(["segment"], .file 0)], [.ofList (now.writer.sink.bytes.take 30)]⟩ ["segment"]
        now.writer.flushedOffset .standard = .ok reader ∧
      reader.readAll .strict = .ok ([⟨1, .startSegment⟩], scan) ∧ scan.trustedEnd = 21 := by
  let calls : List Call := [.append .startSegment, .flush, .append .endSegment, .flush]
  obtain ⟨fresh, started, written, synced, flushed⟩ : ∃ fresh,
      SegmentWriter.start .standard
        (⟨.empty, none, false, false, some 2, 0⟩ : BoundedBuffer) = .ok fresh ∧
      (run ⟨fresh, [], []⟩ calls).written = [⟨1, .startSegment⟩, ⟨2, .endSegment⟩] ∧
      (run ⟨fresh, [], []⟩ calls).synced = [⟨1, .startSegment⟩] ∧
      (run ⟨fresh, [], []⟩ calls).writer.flushedOffset = 21 :=
    ⟨_, rfl, by decide +kernel, by decide +kernel, by decide +kernel⟩
  have reached := (Reached.start started).run calls
  obtain ⟨⟨bytes, held, shows⟩, -, -⟩ :=
    in_progress_shows_synced BoundedBuffer.atomic rfl reached []
  obtain ⟨reader, scan, opened, read, -, trusted, -⟩ := shows
    ⟨[(["segment"], .file 0)], [.ofList (bytes.take 30)]⟩ ["segment"] (bytes.take 30) .standard
    (congrArg Except.ok (Buffer.bytes_ofList _)) (by rw [flushed, List.take_take]; rfl)
  rw [synced] at read
  exact ⟨_, reader, scan, reached, written, held ▸ opened, read, trusted.trans flushed⟩

end SegmentWriter.History

end Journal
