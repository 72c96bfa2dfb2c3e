import Journal.Proofs.Checkpoint.Merge
import Journal.Proofs.Repair
import Mathlib.Tactic.TFAE

set_option autoImplicit false

namespace Journal

structure Descent (records kept : List Record) (last offender : Record) : Prop where
  split : ∃ after, records = kept ++ offender :: after
  ordered : kept.Pairwise (·.txid ≤ ·.txid)
  ends : kept.getLast? = some last
  below : offender.txid < last.txid

theorem Descent.cons {first second last offender : Record} {records kept : List Record}
    (descent : Descent (second :: records) kept last offender) (least : first.txid ≤ second.txid) :
    Descent (first :: second :: records) (first :: kept) last offender := by
  obtain ⟨⟨after, split⟩, ordered, ends, below⟩ := descent
  cases kept with
  | nil => contradiction
  | cons next kept =>
    obtain ⟨rfl, rfl⟩ := List.cons.inj split
    exact ⟨⟨after, rfl⟩, Document.ordered_cons_cons.mpr ⟨least, ordered⟩, ends, below⟩

theorem exists_descent {records : List Record}
    (disordered : ¬ records.Pairwise (·.txid ≤ ·.txid)) :
    ∃ kept last offender, Descent records kept last offender := by
  induction records with
  | nil => exact absurd .nil disordered
  | cons first records ih =>
    cases records with
    | nil => exact absurd (List.pairwise_singleton ..) disordered
    | cons second records =>
      by_cases early : second.txid < first.txid
      · exact ⟨[first], first, second, ⟨records, rfl⟩, List.pairwise_singleton .., rfl, early⟩
      · have least : first.txid ≤ second.txid := UInt64.not_lt.mp early
        rw [Document.ordered_cons_cons, not_and] at disordered
        obtain ⟨kept, last, offender, descent⟩ := ih (disordered least)
        exact ⟨first :: kept, last, offender, descent.cons least⟩

theorem ordered_of_no_descent {records : List Record}
    (steady : ∀ {kept : List Record} {last offender : Record},
      ¬ Descent records kept last offender) : records.Pairwise (·.txid ≤ ·.txid) := by
  by_contra disordered
  obtain ⟨kept, last, offender, descent⟩ := exists_descent disordered
  exact steady descent

section Checks

variable {records kept : List Record} {last offender : Record}

theorem Descent.disorder? (descent : Descent records kept last offender) (index : Nat) :
    Document.disorder? (index + 1) records =
      some (.outOfOrder (index + kept.length) offender.txid last.txid) := by
  obtain ⟨⟨after, rfl⟩, ordered, ends, below⟩ := descent
  -- Up to the end of what is kept no neighbours are out of order.
  induction kept generalizing index with
  | nil => contradiction
  | cons first kept ih =>
    cases kept with
    | nil =>
      obtain rfl : first = last := Option.some.inj ends
      exact if_pos below
    | cons second kept =>
      obtain ⟨least, ordered⟩ := Document.ordered_cons_cons.mp ordered
      have later := ih (index + 1) ordered ends
      rw [Nat.add_right_comm index 1 (second :: kept).length] at later
      exact (if_neg (UInt64.not_lt.mpr least)).trans later

theorem Descent.appendAll {σ : Type} [Sink σ] {holds : σ → List UInt8 → Prop}
    (keeps : Sink.Keeps holds) (descent : Descent records kept last offender)
    {writer : SegmentWriter σ} (logged : writer.Logged holds [])
    (fit : ∀ record ∈ records, ∃ encoding, record.encode writer.version = .ok encoding) :
    ∃ refusing, Merger.appendAll kept writer = .ok refusing ∧ refusing.Logged holds kept ∧
      refusing.version = writer.version ∧
      refusing.appendRecord offender =
        (refusing, .error (.write (.outOfOrder offender.txid last.txid))) ∧
      Merger.appendAll records writer = .error (.write (.outOfOrder offender.txid last.txid)) := by
  obtain ⟨⟨after, rfl⟩, ordered, ends, below⟩ := descent
  obtain ⟨refusing, appended⟩ := Merger.appendAll_of_ordered keeps logged ordered
    fun record member => fit record (List.mem_append_left _ member)
  obtain ⟨written, setup⟩ := Merger.appendAll_logged keeps logged appended
  have ⟨_, wrote, _⟩ := written
  have known : refusing.lastTxid = some last.txid := by
    rw [wrote.last, List.nil_append, ends]
    rfl
  have refused := SegmentWriter.appendRecord_early known below
  refine ⟨refusing, appended, written, setup.version, refused, ?_⟩
  rw [Merger.appendAll_append, appended, ok_bind, Merger.appendAll, refused]

theorem Descent.scan (descent : Descent records kept last offender) {version : LayoutVersion}
    (supported : version.isSupported = true) {fill : Nat} {bytes : List UInt8}
    (formed : Segment.bytesOf version records fill = .ok bytes) (config : Config) :
    ∃ front scan, Segment.bytesOf version kept 0 = .ok front ∧
      Segment.scan .strict config bytes = .ok scan ∧ scan.records = kept ∧
      scan.firstError = some ⟨front.length, .outOfOrder last.txid offender.txid⟩ := by
  obtain ⟨⟨after, rfl⟩, ordered, ends, below⟩ := descent
  obtain ⟨front, encoding, rest, earlier, encoded, rfl⟩ := Segment.bytesOf_around formed
  have written : Segment.Written version kept 0 front := ⟨supported, ordered, earlier⟩
  obtain ⟨-, laid, stands, joined⟩ := Segment.written_iff.mp written
  have read := @ScanRules.read_early
    ⟨.strict, version, config.requireEndMarker, config.resync⟩ (.ofList (encoding ++ rest)) _ _
    (Record.decodeInput_of_encode encoded rfl) _ below
  rw [← Segment.latest_of_getLast? ends none] at read
  have scanned := Segment.scan_of_failure supported stands read
  rw [List.replicate_zero, List.append_nil] at joined
  rw [← joined] at scanned
  refine ⟨front, _, earlier, scanned, Segment.records_stoppedScan .., ?_⟩
  rw [Segment.firstError_stoppedScan, written.length_eq, Nat.add_zero]

end Checks

section Acceptance

variable {σ : Type} [Sink σ] {holds : σ → List UInt8 → Prop} {version : LayoutVersion}
  {records : List Record} {text : ByteArray} {writer : SegmentWriter σ} {bytes : List UInt8}

theorem ordered_tfae (keeps : Sink.Keeps holds) (supported : version.isSupported = true)
    (spelled : Packed.toList text = Document.written version records)
    (logged : writer.Logged holds [])
    (fit : ∀ record ∈ records, ∃ encoding, record.encode writer.version = .ok encoding)
    (formed : Segment.bytesOf version records 1 = .ok bytes) (config : Config) :
    [records.Pairwise (·.txid ≤ ·.txid),
      Document.read text = .ok ⟨version, records⟩,
      ∃ after, Merger.appendAll records writer = .ok after,
      ∃ scan, Segment.scan .strict config bytes = .ok scan ∧ scan.firstError = none].TFAE := by
  tfae_have 1 → 2 := fun ordered => Document.read_written supported ordered spelled
  tfae_have 2 → 1 := Document.ordered_of_read
  tfae_have 1 → 3 := fun ordered => Merger.appendAll_of_ordered keeps logged ordered fit
  tfae_have 3 → 1 := by
    rintro ⟨after, appended⟩
    refine ordered_of_no_descent fun descent => ?_
    obtain ⟨-, -, -, -, -, failed⟩ := descent.appendAll keeps logged fit
    rw [appended] at failed
    contradiction
  tfae_have 1 → 4 := fun ordered =>
    ⟨_, Segment.scan_of_written ⟨supported, ordered, formed⟩ fun _ => Nat.le_refl 1,
      Segment.firstError_cleanScan ..⟩
  tfae_have 4 → 1 := by
    rintro ⟨scan, scanned, unfailed⟩
    refine ordered_of_no_descent fun descent => ?_
    obtain ⟨front, stopped, -, scanned', -, failed⟩ := descent.scan supported formed config
    obtain rfl : stopped = scan := Except.ok.inj (scanned'.symm.trans scanned)
    rw [unfailed] at failed
    contradiction
  tfae_finish

end Acceptance

/-- Whichever of the three meets the records, it takes all of them if their ids never descend and else
stops at the first one that does. -/
theorem order_enforced_alike {σ τ : Type} [Sink σ] [Sink τ] {holds : σ → List UInt8 → Prop}
    {holds' : τ → List UInt8 → Prop} (keeps : Sink.Keeps holds) (keeps' : Sink.Keeps holds')
    {config : Config} (checked : SegmentWriter.checkConfig config = .ok ()) (reading : Config)
    {records : List Record}
    (fit : ∀ record ∈ records, record.operation.body.length ≤ Record.maxBodyLength)
    {sink : σ} (empty : holds sink []) {sink' : τ} (empty' : holds' sink' []) :
    ∃ emitter text writer bytes,
      Document.feed ⟨config.layoutVersion, records⟩ (DocumentEmitter.onto sink) =
        (emitter, .ok records.length) ∧
      holds emitter.sink text ∧
      SegmentWriter.start config sink' = .ok writer ∧
      Segment.bytesOf config.layoutVersion records 1 = .ok bytes ∧
      [records.Pairwise (·.txid ≤ ·.txid),
        Document.read text.toByteArray = .ok ⟨config.layoutVersion, records⟩,
        ∃ after, Merger.appendAll records writer = .ok after,
        ∃ scan, Segment.scan .strict reading bytes = .ok scan ∧ scan.firstError = none].TFAE ∧
      (¬ records.Pairwise (·.txid ≤ ·.txid) →
        ∃ kept last offender, Descent records kept last offender) ∧
      ∀ kept last offender, Descent records kept last offender →
        (∃ fault, Document.read text.toByteArray = .error (.text fault) ∧
          fault.message =
            s!"record {kept.length} has txid {offender.txid} after txid {last.txid}") ∧
        ∃ refusing front scan,
          Segment.bytesOf config.layoutVersion kept 0 = .ok front ∧
          Merger.appendAll kept writer = .ok refusing ∧ holds' refusing.sink front ∧
          refusing.appendRecord offender =
            (refusing, .error (.write (.outOfOrder offender.txid last.txid))) ∧
          Segment.scan .strict reading bytes = .ok scan ∧ scan.records = kept ∧
          scan.firstError = some ⟨front.length, .outOfOrder last.txid offender.txid⟩ := by
  have supported := (SegmentWriter.checkConfig_eq_ok.mp checked).1
  have encodes : ∀ record ∈ records, ∃ encoding,
      record.encode config.layoutVersion = .ok encoding := fun record member =>
    Record.exists_encode (fit record member) _
  obtain ⟨emitter, fed, held⟩ :=
    DocumentEmitter.feed_of_keeps keeps ⟨config.layoutVersion, records⟩ empty
  obtain ⟨writer, started, logged, setup, -⟩ := SegmentWriter.start_logged keeps' checked empty'
  obtain ⟨bytes, formed⟩ := Segment.exists_bytesOf encodes 1
  have version : writer.version = config.layoutVersion := setup.version
  have fit : ∀ record ∈ records, ∃ encoding, record.encode writer.version = .ok encoding :=
    version ▸ encodes
  have spelled := Packed.toList_toByteArray (Document.written config.layoutVersion records)
  refine ⟨emitter, _, writer, bytes, fed, held, started, formed,
    ordered_tfae keeps' supported spelled logged fit formed reading, exists_descent,
    fun kept last offender descent => ?_⟩
  have misread := Document.read_disordered supported (descent.disorder? 0) spelled
  rw [Nat.zero_add] at misread
  refine ⟨⟨_, misread, rfl⟩, ?_⟩
  obtain ⟨refusing, appended, ⟨front, wrote, written⟩, same, refused, -⟩ :=
    descent.appendAll keeps' logged fit
  obtain ⟨front', scan, earlier, rest⟩ := descent.scan supported formed reading
  -- What has been written are the bytes that the scan has got past.
  rw [same, version] at written
  obtain rfl : front = front' := Except.ok.inj (written.formed.symm.trans earlier)
  exact ⟨refusing, front, scan, earlier, appended, wrote.held, refused, rest⟩

theorem order_enforced_alike_repeated :
    ∃ emitter text writer bytes refusing scan,
      Document.feed
        ⟨.unchecksummed, [⟨7, .startSegment⟩, ⟨7, .endSegment⟩, ⟨3, .startSegment⟩]⟩
        (DocumentEmitter.onto Buffer.empty) = (emitter, .ok 3) ∧
      emitter.sink.bytes = text ∧
      (∃ fault, Document.read text.toByteArray = .error (.text fault) ∧
        fault.message = "record 2 has txid 3 after txid 7") ∧
      SegmentWriter.start { Config.standard with layoutVersion := .unchecksummed } Buffer.empty =
        .ok writer ∧
      Merger.appendAll [⟨7, .startSegment⟩, ⟨7, .endSegment⟩] writer = .ok refusing ∧
      refusing.appendRecord ⟨3, .startSegment⟩ =
        (refusing, .error (.write (.outOfOrder 3 7))) ∧
      Segment.bytesOf .unchecksummed
        [⟨7, .startSegment⟩, ⟨7, .endSegment⟩, ⟨3, .startSegment⟩] 1 = .ok bytes ∧
      Segment.scan .strict .standard bytes = .ok scan ∧
      scan.records = [⟨7, .startSegment⟩, ⟨7, .endSegment⟩] ∧
      scan.firstError = some ⟨30, .outOfOrder 7 3⟩ := by
  obtain ⟨emitter, text, writer, bytes, fed, held, started, formed, -, -, blamed⟩ :=
    order_enforced_alike Buffer.keeps Buffer.keeps
      (show SegmentWriter.checkConfig { Config.standard with layoutVersion := .unchecksummed } =
        .ok () by decide) .standard
      (show ∀ record ∈ ([⟨7, .startSegment⟩, ⟨7, .endSegment⟩, ⟨3, .startSegment⟩] : List Record),
        record.operation.body.length ≤ Record.maxBodyLength by decide)
      (show Buffer.empty.bytes = [] from rfl) (show Buffer.empty.bytes = [] from rfl)
  obtain ⟨misread, refusing, front, scan, earlier, appended, -, refused, scanned, taken, failed⟩ :=
    blamed [⟨7, .startSegment⟩, ⟨7, .endSegment⟩] ⟨7, .endSegment⟩ ⟨3, .startSegment⟩
      ⟨⟨[], rfl⟩, by simp, rfl, by decide⟩
  have length : front.length = 30 := by
    have known : (Segment.bytesOf .unchecksummed
        [⟨7, .startSegment⟩, ⟨7, .endSegment⟩] 0).map List.length = .ok 30 := rfl
    exact Except.ok.inj ((congrArg _ earlier).symm.trans known)
  rw [length] at failed
  exact ⟨emitter, text, writer, bytes, refusing, scan, fed, held, misread, started, appended,
    refused, formed, scanned, taken, failed⟩

end Journal
