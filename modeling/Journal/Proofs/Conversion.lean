import Journal.Proofs.Checkpoint.File
import Journal.Proofs.Intake
import Journal.Proofs.Simulation
import Journal.Proofs.Storage.Names

set_option autoImplicit false

namespace Journal

section Visit

variable {υ : Type} [Visitor υ] {mode : ScanMode} {config : Config} {bytes : ByteArray}
  {visitor after : υ}

theorem visitLog_cases {seen : Nat × Option Scan}
    (visited : visitLog mode config bytes visitor = (after, .ok seen)) :
    ∃ intake, Intake.read mode config bytes = .ok intake ∧
      intake.stream.visit visitor = (after, .ok ()) ∧ intake.verdict = .ok seen := by
  rw [Intake.visitLog_eq] at visited
  split at visited
  · next intake reads =>
    rw [Intake.run] at visited
    split at visited
    · next last taken =>
      obtain ⟨rfl, judged⟩ := Prod.mk.inj visited
      exact ⟨intake, reads, taken, judged⟩
    · simp at visited
  · simp at visited

theorem visitLog_ok_iff :
    (∃ seen, (visitLog mode config bytes visitor).2 = .ok seen) ↔
      ∃ intake, Intake.read mode config bytes = .ok intake ∧
        (intake.stream.visit visitor).2 = .ok () ∧ ∃ seen, intake.verdict = .ok seen := by
  rw [Intake.visitLog_eq]
  cases Intake.read mode config bytes with
  | error error => simp
  | ok intake =>
    simp only [Except.ok.injEq, exists_eq_left']
    exact Intake.run_ok_iff

theorem visitLog_alike {φ : Type} [Visitor φ] {related : υ → φ → Prop}
    (alike : Visitor.Alike related) {other : φ} (both : related visitor other) (mode : ScanMode)
    (config : Config) (bytes : ByteArray) :
    Agree related (visitLog mode config bytes visitor) (visitLog mode config bytes other) := by
  rw [Intake.visitLog_eq, Intake.visitLog_eq]
  cases Intake.read mode config bytes with
  | error error => exact .of_related both _
  | ok intake =>
    obtain ⟨_, _, outcome, visited, visited', both⟩ := alike.visit intake.stream both
    simp only [Intake.run, visited, visited']
    cases outcome <;> exact .of_related both _

structure TakesIn (mode : ScanMode) (config : Config) (bytes : ByteArray) (visitor after : υ)
    (report : ConversionReport) : Prop where
  visited : visitLog mode config bytes visitor = (after, .ok (report.records, report.scan))
  consumed : ∃ calls, (visitLog mode config bytes (Recorder.mk visitor [])).1 = ⟨after, calls⟩ ∧
    report.records = (Visitor.consumed calls).length

theorem takesIn_of_visitLog {seen : Nat × Option Scan}
    (visited : visitLog mode config bytes visitor = (after, .ok seen)) (kind : InputKind)
    (statistics : Option StatisticsReport) :
    TakesIn mode config bytes visitor after ⟨kind, seen.1, seen.2, statistics⟩ := by
  refine ⟨visited, ?_⟩
  obtain ⟨intake, reads, -, judged⟩ := visitLog_cases visited
  obtain ⟨last, calls, outcome, ran, recorded, whole⟩ := intake.run_recorder visitor
  simp only [Intake.visitLog_eq, reads] at visited ⊢
  rw [ran] at visited
  obtain ⟨rfl, rfl⟩ := Prod.mk.inj visited
  rw [recorded]
  refine ⟨calls, rfl, ?_⟩
  rw [whole seen rfl, List.length_map]
  exact (Intake.sound reads).counted seen judged

end Visit

def Processor.Yields (processor : Processor) (mode : ScanMode) (config : Config)
    (bytes : ByteArray) (report : ConversionReport) (content : List UInt8) : Prop :=
  report.inputKind = InputKind.sniff bytes ∧
  match processor with
  | .binary => report.statistics = none ∧ ∃ emitter buffer,
      TakesIn mode config bytes (SegmentEmitter.onto config Buffer.empty) emitter report ∧
      emitter.finished? = some buffer ∧ buffer.bytes = content
  | .text => report.statistics = none ∧ ∃ emitter,
      TakesIn mode config bytes (DocumentEmitter.onto Buffer.empty) emitter report ∧
      emitter.sink.bytes = content
  | .stats => ∃ tally, TakesIn mode config bytes Tally.empty tally report ∧
      report.statistics = some (StatisticsReport.ofTally tally Opcode.obsolete) ∧
      content = Utf8.encode
        ((StatisticsReport.ofTally tally Opcode.obsolete).toJson.pretty ++ "\n")

section File

variable {base : Storage} {id : Nat} {file : OpenFile} {mode : ScanMode} {config : Config}
  {bytes : ByteArray} {processor : Processor}

theorem OpenFile.Holds.stored {content : List UInt8} (held : OpenFile.Holds base id file content)
    (settled : Packed.toList file.handle.pending = []) : file.storage.contentsOf id = content := by
  rw [← held.bytes, settled, List.append_nil]

theorem SegmentEmitter.settled_of_visitLog {emitter after : SegmentEmitter OpenFile}
    {seen : Nat × Option Scan} (visited : visitLog mode config bytes emitter = (after, .ok seen)) :
    ∃ file, after.stage = .closed file ∧ Packed.toList file.handle.pending = [] := by
  obtain ⟨intake, -, taken, -⟩ := visitLog_cases visited
  obtain ⟨⟨writer, file, closed, staged⟩, -⟩ := SegmentEmitter.of_visit_eq_ok taken
  refine ⟨file, staged, ?_⟩
  have settled := writer.pending_close
  rwa [closed] at settled

theorem DocumentEmitter.settled_of_visitLog {emitter after : DocumentEmitter OpenFile}
    {seen : Nat × Option Scan} (visited : visitLog mode config bytes emitter = (after, .ok seen)) :
    Packed.toList after.sink.handle.pending = [] := by
  obtain ⟨intake, -, taken, -⟩ := visitLog_cases visited
  obtain ⟨file, flushed⟩ := DocumentEmitter.of_visit_eq_ok taken
  obtain ⟨settled, -⟩ := Prod.mk.inj flushed
  rw [← settled]
  exact file.pending_writePending

theorem convertInto_cases (processor : Processor) (mode : ScanMode) (config : Config)
    (bytes : ByteArray) (held : OpenFile.Holds base id file []) :
    (∃ after error content, convertInto processor mode config bytes file = (after, .error error) ∧
      OpenFile.Holds base id after content) ∨
    ∃ after report content, convertInto processor mode config bytes file = (after, .ok report) ∧
      OpenFile.Holds base id after content ∧ after.storage.contentsOf id = content ∧
      processor.Yields mode config bytes report content := by
  have sinks := (OpenFile.keeps base id).alike Buffer.keeps
  have fresh : ∃ content, OpenFile.Holds base id file content ∧ Buffer.empty.bytes = content :=
    ⟨[], held, rfl⟩
  cases processor with
  | binary =>
    obtain ⟨emitter, emitter', outcome, onDisk, inMemory, paired⟩ := visitLog_alike
      (SegmentEmitter.alike sinks) (.intro config 0 (.pending fresh)) mode config bytes
    have converts : convertInto .binary mode config bytes file = (emitter.stage.sink, outcome.map
        fun seen => ⟨InputKind.sniff bytes, seen.1, seen.2, none⟩) := by
      rw [convertInto,
        show visitLog mode config bytes (SegmentEmitter.onto config file) = _ from onDisk]
    obtain ⟨content, held, -⟩ := paired.sinks
    rw [converts]
    cases outcome with
    | error error => exact .inl ⟨_, _, content, rfl, held⟩
    | ok seen =>
      obtain ⟨after, staged, settled⟩ := SegmentEmitter.settled_of_visitLog onDisk
      obtain ⟨buffer, finished, content, held, same⟩ := paired.finished staged
      rw [staged]
      exact .inr ⟨_, _, content, rfl, held, held.stored settled, rfl, rfl, emitter', buffer,
        takesIn_of_visitLog inMemory _ _, finished, same⟩
  | text =>
    obtain ⟨emitter, emitter', outcome, onDisk, inMemory, paired⟩ := visitLog_alike
      (DocumentEmitter.alike sinks) (.intro 0 false fresh) mode config bytes
    have converts : convertInto .text mode config bytes file = (emitter.sink, outcome.map
        fun seen => ⟨InputKind.sniff bytes, seen.1, seen.2, none⟩) := by
      rw [convertInto,
        show visitLog mode config bytes (DocumentEmitter.onto file) = _ from onDisk]
    obtain ⟨content, held, same⟩ := paired.sinks
    rw [converts]
    cases outcome with
    | error error => exact .inl ⟨_, _, content, rfl, held⟩
    | ok seen =>
      have settled := DocumentEmitter.settled_of_visitLog onDisk
      exact .inr ⟨_, _, content, rfl, held, held.stored settled, rfl, rfl, emitter',
        takesIn_of_visitLog inMemory _ _, same⟩
  | stats =>
    rw [convertInto]
    split
    · exact .inl ⟨_, _, [], rfl, held⟩
    · next tally seen visited =>
      have written := (held.put
        ((StatisticsReport.ofTally tally Opcode.obsolete).toJson.pretty ++ "\n").toByteArray).writePending
      exact .inr ⟨_, _, _, rfl, written, written.stored (OpenFile.pending_writePending _), rfl, tally,
        takesIn_of_visitLog visited _ _, rfl, rfl⟩

theorem convertInto_ok_iff (held : OpenFile.Holds base id file [])
    (chunked : config.preallocation ≠ some 0) :
    (∃ report, (convertInto processor mode config bytes file).2 = .ok report) ↔
      ∃ intake, Intake.read mode config bytes = .ok intake ∧
        (processor = .binary → ∀ record ∈ intake.stream.records.map Prod.snd,
          record.operation.body.length ≤ Record.maxBodyLength) ∧
        ∃ seen, intake.verdict = .ok seen := by
  have mapped {outcome : Except Error (Nat × Option Scan)}
      {report : Nat × Option Scan → ConversionReport} :
      (∃ made, outcome.map report = .ok made) ↔ ∃ seen, outcome = .ok seen := by
    cases outcome <;> simp [Except.map]
  have keeps := OpenFile.keeps base id
  cases processor with
  | binary =>
    simp only [convertInto, mapped, visitLog_ok_iff]
    refine exists_congr fun intake => and_congr_right fun reads => and_congr_left fun _ => ?_
    rw [SegmentEmitter.visit_ok_iff keeps (Intake.sound reads) chunked held]
    exact true_imp_iff.symm
  | text =>
    simp only [convertInto, mapped, visitLog_ok_iff]
    refine exists_congr fun intake => and_congr_right fun reads => and_congr_left fun _ => ?_
    exact iff_of_true (DocumentEmitter.visit_ok keeps intake.stream held) nofun
  | stats =>
    have reported : (∃ report, (convertInto .stats mode config bytes file).2 = .ok report) ↔
        ∃ seen, (visitLog mode config bytes Tally.empty).2 = .ok seen := by
      rw [convertInto]
      rcases visitLog mode config bytes Tally.empty with ⟨tally, outcome⟩
      cases outcome <;> simp
    rw [reported, visitLog_ok_iff]
    refine exists_congr fun intake => and_congr_right fun reads => and_congr_left fun _ => ?_
    exact iff_of_true (Tally.accepts _ intake.stream) nofun

end File

/-- Whether a strict conversion accepts a log: as a document that can be read, whose records are not too
long if they go into a segment, or as a segment that scans without a failure. -/
def Processor.Accepts (processor : Processor) (config : Config) (bytes : ByteArray) : Prop :=
  match InputKind.sniff bytes with
  | .text => ∃ document, Document.read bytes = .ok document ∧
      (processor = .binary → ∀ record ∈ document.records,
        record.operation.body.length ≤ Record.maxBodyLength)
  | .binary => ∃ scan, Segment.scan .strict config (Packed.toList bytes) = .ok scan ∧
      scan.firstError = none

theorem Processor.accepts_of_binary {processor : Processor} {config : Config} {bytes : ByteArray}
    (kind : InputKind.sniff bytes = .binary) :
    processor.Accepts config bytes ↔ ∃ scan,
      Segment.scan .strict config (Packed.toList bytes) = .ok scan ∧ scan.firstError = none := by
  simp only [Accepts, kind]

theorem Processor.accepts_iff {processor : Processor} {config : Config} {bytes : ByteArray} :
    processor.Accepts config bytes ↔
      ∃ intake, Intake.read .strict config bytes = .ok intake ∧
        (processor = .binary → ∀ record ∈ intake.stream.records.map Prod.snd,
          record.operation.body.length ≤ Record.maxBodyLength) ∧
        ∃ seen, intake.verdict = .ok seen := by
  rw [Accepts]
  split
  · next kind =>
    simp only [Intake.read, kind, map_eq_ok]
    constructor
    · rintro ⟨document, parsed, fits⟩
      rw [← Intake.records_ofDocument document] at fits
      exact ⟨_, ⟨document, parsed, rfl⟩, fits, _, rfl⟩
    · rintro ⟨_, ⟨document, parsed, rfl⟩, fits, -⟩
      rw [Intake.records_ofDocument] at fits
      exact ⟨document, parsed, fits⟩
  · next kind =>
    have judged {scan : Scan}
        (scanned : Segment.scan .strict config (Packed.toList bytes) = .ok scan) :
        (∃ seen, (Intake.ofScan scan).verdict = .ok seen) ↔ scan.firstError = none := by
      have strict := (Segment.scan_eq_ok.mp scanned).2.1
      simp [Intake.ofScan, map_eq_ok, Scan.check_eq_ok, strict]
    constructor
    · rintro ⟨scan, scanned, unfailed⟩
      have reads : Intake.read .strict config bytes = .ok (.ofScan scan) := by
        simp only [Intake.read, kind, scanned, Except.map]
      exact ⟨_, reads, fun _ => Intake.fits_of_binary kind reads, (judged scanned).mpr unfailed⟩
    · rintro ⟨_, reads, -, verdict⟩
      simp only [Intake.read, kind, map_eq_ok] at reads
      obtain ⟨scan, scanned, rfl⟩ := reads
      exact ⟨scan, scanned, (judged scanned).mp verdict⟩

namespace Storage

variable {storage staged : Storage}

structure Opens (storage staged : Storage) (temporary : Path) (id : Nat) : Prop where
  absent : storage.lookup? temporary = none
  changes : Changes (· = temporary) storage staged
  found : staged.lookup? temporary = some (.file id)
  empty : staged.contentsOf id = []

theorem opens_of_createBeside (sound : storage.Sound) {name : FileName} {temporary : Path} {id : Nat}
    (made : storage.createBeside name = .ok (staged, temporary, id)) :
    storage.Opens staged temporary id := by
  obtain ⟨⟨⟩, -, made⟩ := bind_eq_ok.mp made
  obtain ⟨directory, -, made⟩ := bind_eq_ok.mp made
  obtain ⟨number, path, absent⟩ := storage.temporaryPath_eq directory
  obtain ⟨⟨made, id⟩, created, same⟩ := bind_eq_ok.mp made
  cases pure_eq_ok.mp same
  obtain ⟨changes, found, empty⟩ := changes_create sound created
  exact ⟨path ▸ absent, changes, found, empty⟩

theorem Changes.same_of_untouched {touched : Path → Prop} {before after : Storage}
    (changes : Changes touched before after) {path : Path} (free : ¬ touched path) :
    after.lookup? path = before.lookup? path ∧ after.read path = before.read path := by
  have entry := changes.entry path free
  refine ⟨entry, ?_⟩
  simp only [read, fileAt, entry]
  split
  · next id found => exact congrArg Except.ok (changes.contents path id free found)
  · rfl
  · rfl

section Output

variable {temporary : Path} {id : Nat} {file : OpenFile} {content : List UInt8}

theorem Opens.written (opens : storage.Opens staged temporary id)
    (held : OpenFile.Holds staged id file content) :
    Changes (· = temporary) storage file.storage ∧
      file.storage.lookup? temporary = some (.file id) := by
  refine ⟨opens.changes.trans (held.changes opens.changes.sound opens.found), ?_⟩
  rw [lookup?, held.entries, ← lookup?, opens.found]

theorem Opens.discarded (opens : storage.Opens staged temporary id)
    (held : OpenFile.Holds staged id file content) :
    Changes (fun _ => False) storage (file.storage.unbind temporary) := by
  obtain ⟨changes, found⟩ := opens.written held
  obtain ⟨removed, gone⟩ := changes_unbind_file changes.sound found
  apply (changes.trans removed).restrict
  rintro _ rfl -
  exact ⟨opens.absent, gone⟩

theorem Opens.sameDirectories (opens : storage.Opens staged temporary id)
    (held : OpenFile.Holds staged id file content) : SameDirectories storage file.storage := by
  obtain ⟨changes, found⟩ := opens.written held
  exact changes.sameDirectories (by simp [opens.absent]) (by simp [found])

theorem Opens.installed (opens : storage.Opens staged temporary id)
    (held : OpenFile.Holds staged id file content) (stored : file.storage.contentsOf id = content)
    {output : FileName} {after : Storage}
    (installed : file.storage.install temporary output = .ok after) :
    ∃ target, storage.locate output = .ok target ∧ after.read target = .ok content ∧
      Changes (· = target) storage after := by
  obtain ⟨changes, found⟩ := opens.written held
  obtain ⟨target, located, renamed⟩ := bind_eq_ok.mp installed
  obtain ⟨moved, taken, kept, gone⟩ := changes_rename changes.sound found renamed
  refine ⟨target, (opens.sameDirectories held).locate_eq_ok.mp located,
    read_eq_ok.mpr ⟨id, taken, kept.trans stored⟩, ?_⟩
  have whole := (changes.mono fun _ => Or.inl).trans moved
  apply whole.restrict
  rintro path (rfl | same) differs
  · exact ⟨opens.absent, gone differs⟩
  · exact absurd same differs

theorem Opens.exists_install (sound : storage.Sound) (opens : storage.Opens staged temporary id)
    (held : OpenFile.Holds staged id file content) {output : FileName} {target : Path}
    (located : storage.locate output = .ok target)
    (free : storage.lookup? target ≠ some .directory) :
    ∃ after, file.storage.install temporary output = .ok after := by
  have same := opens.sameDirectories held
  obtain ⟨-, found⟩ := opens.written held
  refine ⟨_, bind_eq_ok.mpr ⟨target, same.locate_eq_ok.mpr located,
    (rename_eq_ok found).mpr ⟨?_, ?_, rfl⟩⟩⟩
  · rwa [ne_eq, same]
  · exact (same _).mpr (directory_of_locate sound located)

end Output

theorem convert_cases (sound : storage.Sound) (input output : FileName) (processor : Processor)
    (mode : ScanMode) (config : Config) :
    (∃ after error, storage.convert input output processor mode config = (after, .error error) ∧
      Changes (fun _ => False) storage after) ∨
    ∃ after report bytes target content,
      storage.convert input output processor mode config = (after, .ok report) ∧
      storage.loadNamed input = .ok bytes ∧ storage.locate output = .ok target ∧
      after.read target = .ok content ∧ Changes (· = target) storage after ∧
      processor.Yields mode config bytes report content := by
  rw [convert]
  cases loaded : storage.loadNamed input with
  | error fault => exact .inl ⟨_, _, rfl, .refl sound⟩
  | ok bytes =>
    cases made : storage.createBeside output with
    | error fault => exact .inl ⟨_, _, rfl, .refl sound⟩
    | ok made' =>
      obtain ⟨staged, temporary, id⟩ := made'
      have opens := opens_of_createBeside sound made
      have held := OpenFile.Holds.of_empty (opens.changes.sound.allocated opens.found) opens.empty
      rcases convertInto_cases processor mode config bytes held with
        ⟨file, error, content, failed, held⟩ | ⟨file, report, content, converted, held, stored, yields⟩
      · simp only [failed]
        exact .inl ⟨_, _, rfl, opens.discarded held⟩
      · simp only [converted]
        cases installed : file.storage.install temporary output with
        | error fault => exact .inl ⟨_, _, rfl, opens.discarded held⟩
        | ok after =>
          obtain ⟨target, located, complete, changes⟩ := opens.installed held stored installed
          exact .inr ⟨after, report, bytes, target, content, rfl, rfl, located, complete, changes,
            yields⟩

theorem convert_ok_iff (sound : storage.Sound) {input output : FileName} {processor : Processor}
    {mode : ScanMode} {config : Config} (chunked : config.preallocation ≠ some 0) {bytes : ByteArray}
    (loaded : storage.loadNamed input = .ok bytes) {made : Storage × Path × Nat}
    (created : storage.createBeside output = .ok made) {target : Path}
    (located : storage.locate output = .ok target)
    (free : storage.lookup? target ≠ some .directory) :
    (∃ after report, storage.convert input output processor mode config = (after, .ok report)) ↔
      ∃ intake, Intake.read mode config bytes = .ok intake ∧
        (processor = .binary → ∀ record ∈ intake.stream.records.map Prod.snd,
          record.operation.body.length ≤ Record.maxBodyLength) ∧
        ∃ seen, intake.verdict = .ok seen := by
  obtain ⟨staged, temporary, id⟩ := made
  have opens := opens_of_createBeside sound created
  have held := OpenFile.Holds.of_empty (opens.changes.sound.allocated opens.found) opens.empty
  rw [← convertInto_ok_iff held chunked]
  simp only [convert, loaded, created]
  rcases convertInto_cases processor mode config bytes held with
    ⟨file, error, content, failed, held⟩ | ⟨file, report, content, converted, held, -⟩
  · simp [failed]
  · obtain ⟨after, installed⟩ := opens.exists_install sound held located free
    simp [converted, installed]

/-- A conversion that fails leaves the file system as it was. One that succeeds changes nothing but its
output, which is complete. Unless the file system fails, a strict conversion succeeds for the logs that
are accepted and for no others. -/
theorem convert_all_or_nothing (sound : storage.Sound) (input output : FileName)
    (processor : Processor) (mode : ScanMode) (config : Config) :
    (∀ after error, storage.convert input output processor mode config = (after, .error error) →
      ∀ path, after.lookup? path = storage.lookup? path ∧ after.read path = storage.read path) ∧
    (∀ after report, storage.convert input output processor mode config = (after, .ok report) →
      ∃ bytes target content, storage.loadNamed input = .ok bytes ∧
        storage.locate output = .ok target ∧ after.read target = .ok content ∧
        (∀ path, path ≠ target →
          after.lookup? path = storage.lookup? path ∧ after.read path = storage.read path) ∧
        processor.Yields mode config bytes report content) ∧
    ∀ bytes target made, storage.loadNamed input = .ok bytes →
      storage.createBeside output = .ok made → storage.locate output = .ok target →
      storage.lookup? target ≠ some .directory → config.preallocation ≠ some 0 →
      ((∃ after report, storage.convert input output processor .strict config =
        (after, .ok report)) ↔ processor.Accepts config bytes) := by
  have converts := storage.convert_cases sound input output processor mode config
  refine ⟨fun after error failed path => ?_, fun after report converted => ?_, ?_⟩
  · rcases converts with ⟨_, _, failed', changes⟩ | ⟨_, _, _, _, _, converted, -⟩
    · obtain ⟨rfl, -⟩ := Prod.mk.inj (failed'.symm.trans failed)
      exact changes.same_of_untouched not_false
    · rw [converted] at failed
      simp at failed
  · rcases converts with
      ⟨_, _, failed, -⟩ | ⟨_, _, bytes, target, content, converted', loaded, located, complete, changes,
        yields⟩
    · rw [failed] at converted
      simp at converted
    · obtain ⟨rfl, same⟩ := Prod.mk.inj (converted'.symm.trans converted)
      obtain rfl := Except.ok.inj same
      exact ⟨bytes, target, content, loaded, located, complete,
        fun path differs => changes.same_of_untouched differs, yields⟩
  · intro bytes target made loaded created located free chunked
    rw [convert_ok_iff sound chunked loaded created located free, Processor.accepts_iff]

theorem convert_all_or_nothing_torn :
    ∃ first second storage : Storage,
      empty.write ["whole"]
        [0xFF, 0xFF, 0xFF, 0xDA, 0x18, 0, 0, 0, 0, 0, 0, 0, 0, 0, 0, 0, 2, 0xFF] = .ok first ∧
      first.write ["torn"] [0xFF, 0xFF, 0xFF, 0xDA, 0x18] = .ok second ∧
      second.write ["out"] [1, 2, 3] = .ok storage ∧
      (∃ after error, storage.convert (.ofPath ["torn"]) (.ofPath ["out"]) .text .strict .standard =
        (after, .error error) ∧ after.read ["out"] = .ok [1, 2, 3]) ∧
      ∃ after report emitter,
        storage.convert (.ofPath ["whole"]) (.ofPath ["out"]) .text .strict .standard =
          (after, .ok report) ∧
        TakesIn .strict .standard
          ⟨#[0xFF, 0xFF, 0xFF, 0xDA, 0x18, 0, 0, 0, 0, 0, 0, 0, 0, 0, 0, 0, 2, 0xFF]⟩
          (DocumentEmitter.onto Buffer.empty) emitter report ∧
        after.read ["out"] = .ok emitter.sink.bytes := by
  obtain ⟨first, second, storage, wrote, wrote', wrote'', torn, whole, ⟨made, created⟩, located,
    free⟩ : ∃ first second storage : Storage,
        empty.write ["whole"]
          [0xFF, 0xFF, 0xFF, 0xDA, 0x18, 0, 0, 0, 0, 0, 0, 0, 0, 0, 0, 0, 2, 0xFF] = .ok first ∧
        first.write ["torn"] [0xFF, 0xFF, 0xFF, 0xDA, 0x18] = .ok second ∧
        second.write ["out"] [1, 2, 3] = .ok storage ∧
        storage.loadNamed (.ofPath ["torn"]) = .ok ⟨#[0xFF, 0xFF, 0xFF, 0xDA, 0x18]⟩ ∧
        storage.loadNamed (.ofPath ["whole"]) = .ok
          ⟨#[0xFF, 0xFF, 0xFF, 0xDA, 0x18, 0, 0, 0, 0, 0, 0, 0, 0, 0, 0, 0, 2, 0xFF]⟩ ∧
        (∃ made, storage.createBeside (.ofPath ["out"]) = .ok made) ∧
        storage.locate (.ofPath ["out"]) = .ok ["out"] ∧
        storage.lookup? ["out"] ≠ some .directory :=
    ⟨_, _, _, rfl, rfl, rfl, rfl, rfl, ⟨_, rfl⟩, rfl, by decide⟩
  have sound := (changes_write (changes_write sound_empty wrote).1.sound wrote').1.sound
  obtain ⟨changes, out⟩ := changes_write sound wrote''
  have refuses : ¬ Processor.text.Accepts .standard ⟨#[0xFF, 0xFF, 0xFF, 0xDA, 0x18]⟩ := by
    rw [Processor.accepts_of_binary (by decide +kernel)]
    rintro ⟨scan, scanned, unfailed⟩
    have failed : (Segment.scan .strict .standard
        (Packed.toList ⟨#[0xFF, 0xFF, 0xFF, 0xDA, 0x18]⟩)).map (·.firstError.isNone) = .ok false := by
      decide +kernel
    rw [scanned] at failed
    simp [Except.map, unfailed] at failed
  have written : Segment.Written .unchecksummed [⟨2, .startSegment⟩] 1
      [0xFF, 0xFF, 0xFF, 0xDA, 0x18, 0, 0, 0, 0, 0, 0, 0, 0, 0, 0, 0, 2, 0xFF] :=
    ⟨by decide, by simp, rfl⟩
  have accepts : Processor.text.Accepts .standard
      ⟨#[0xFF, 0xFF, 0xFF, 0xDA, 0x18, 0, 0, 0, 0, 0, 0, 0, 0, 0, 0, 0, 2, 0xFF]⟩ :=
    (Processor.accepts_of_binary (by decide +kernel)).mpr
      ⟨_, Segment.scan_of_written written (by decide), Segment.firstError_cleanScan ..⟩
  refine ⟨first, second, storage, wrote, wrote', wrote'', ?_, ?_⟩
  · obtain ⟨unchanged, -, accepted⟩ := convert_all_or_nothing changes.sound (.ofPath ["torn"])
      (.ofPath ["out"]) .text .strict .standard
    cases converted : storage.convert (.ofPath ["torn"]) (.ofPath ["out"]) .text .strict .standard with
    | mk after outcome =>
      cases outcome with
      | error error => exact ⟨after, error, rfl, (unchanged _ _ converted _).2.trans out⟩
      | ok report =>
        have wrong := (accepted _ _ _ torn created located free nofun).mp ⟨after, report, converted⟩
        exact absurd wrong refuses
  · obtain ⟨-, complete, accepted⟩ := convert_all_or_nothing changes.sound (.ofPath ["whole"])
      (.ofPath ["out"]) .text .strict .standard
    obtain ⟨after, report, converted⟩ :=
      (accepted _ _ _ whole created located free nofun).mpr accepts
    obtain ⟨bytes, target, content, loaded, located', read, -, -, -, emitter, takes, rfl⟩ :=
      complete _ _ converted
    obtain rfl := Except.ok.inj (whole.symm.trans loaded)
    obtain rfl := Except.ok.inj (located.symm.trans located')
    exact ⟨after, report, emitter, converted, takes, read⟩

end Storage

end Journal
