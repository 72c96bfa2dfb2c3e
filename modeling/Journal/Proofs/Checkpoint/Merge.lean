import Journal.Checkpoint.Merge
import Journal.Proofs.Segment.Records

set_option autoImplicit false

namespace Journal

namespace Merger

open Segment

theorem substance_of_written {version : LayoutVersion} {records : List Record} {fill : Nat}
    {bytes : List UInt8} (written : Written version records fill bytes) {config : Config}
    (enough : config.requireEndMarker = true → 1 ≤ fill) :
    substance config bytes = .ok (records.filter fun record => !record.opcode.isBoundary) := by
  rw [substance, readAll_of_written written enough, ok_bind]
  simp only [Scan.check, firstError_cleanScan]
  rfl

theorem substance_eq_ok {config : Config} {bytes : List UInt8} {records : List Record} :
    substance config bytes = .ok records ↔
      ∃ version all fill, Written version all fill bytes ∧
        (config.requireEndMarker = true → 1 ≤ fill) ∧
        records = all.filter fun record => !record.opcode.isBoundary := by
  constructor
  · intro kept
    obtain ⟨⟨all, found⟩, read, rest⟩ := bind_eq_ok.mp kept
    obtain ⟨scanned, scan_eq, visited⟩ := bind_eq_ok.mp read
    obtain ⟨_, checked, -⟩ := bind_eq_ok.mp rest
    have same : scanned = found := by
      rw [Scan.readAll] at visited
      split at visited
      · next taken =>
        rw [Scan.visit_eq_ok (congrArg Prod.snd taken)]
        exact congrArg Prod.snd (Except.ok.inj visited)
      · contradiction
    subst same
    have unfailed : scanned.firstError = none := by
      rw [Scan.check, (scan_eq_ok.mp scan_eq).2.1] at checked
      cases failed : scanned.firstError with
      | none => rfl
      | some error => rw [failed] at checked; contradiction
    obtain ⟨version, all, fill, written, enough⟩ := written_of_scan scan_eq unfailed
    have kept' := substance_of_written written enough
    rw [kept] at kept'
    exact ⟨version, all, fill, written, enough, Except.ok.inj kept'⟩
  · rintro ⟨version, all, fill, written, enough, rfl⟩
    exact substance_of_written written enough

section Writing

variable {σ : Type} [Sink σ] {holds : σ → List UInt8 → Prop}

theorem appendAll_logged (keeps : Sink.Keeps holds) {records done : List Record}
    {writer after : SegmentWriter σ} (logged : writer.Logged holds done)
    (appended : appendAll records writer = .ok after) :
    after.Logged holds (done ++ records) ∧ SegmentWriter.SameSetup writer after := by
  induction records generalizing writer done with
  | nil =>
    cases appended
    rw [List.append_nil]
    exact ⟨logged, ⟨rfl, rfl, rfl⟩⟩
  | cons record records ih =>
    rw [appendAll] at appended
    rcases logged.appendRecord_cases keeps record with
      ⟨next, one, -, logged, setup, -⟩ | ⟨error, refused⟩
    · rw [one] at appended
      obtain ⟨logged, setup'⟩ := ih logged appended
      rw [← List.append_cons] at logged
      exact ⟨logged, setup'.version.trans setup.version, setup'.sync.trans setup.sync,
        setup'.preallocation.trans setup.preallocation⟩
    · rw [refused] at appended
      contradiction

theorem appendAll_of_ordered (keeps : Sink.Keeps holds) {records done : List Record}
    {writer : SegmentWriter σ} (logged : writer.Logged holds done)
    (ordered : (done ++ records).Pairwise (·.txid ≤ ·.txid))
    (fit : ∀ record ∈ records, ∃ encoding, record.encode writer.version = .ok encoding) :
    ∃ after, appendAll records writer = .ok after := by
  induction records generalizing writer done with
  | nil => exact ⟨writer, rfl⟩
  | cons record records ih =>
    obtain ⟨fits, fit⟩ := List.forall_mem_cons.mp fit
    have later : ∀ earlier ∈ done, earlier.txid ≤ record.txid := fun earlier member =>
      (List.pairwise_append.mp ordered).2.2 earlier member record List.mem_cons_self
    obtain ⟨next, appended, logged, setup, -⟩ := logged.appendRecord keeps later fits
    rw [List.append_cons] at ordered
    rw [← setup.version] at fit
    obtain ⟨after, rest⟩ := ih logged ordered fit
    exact ⟨after, by rw [appendAll, appended]; exact rest⟩

theorem appendAll_append (first second : List Record) (writer : SegmentWriter σ) :
    appendAll (first ++ second) writer = appendAll first writer >>= appendAll second := by
  induction first generalizing writer with
  | nil => rfl
  | cons record first ih =>
    rw [List.cons_append, appendAll, appendAll]
    split
    · exact ih _
    · rfl

theorem appendAll_of_segments {config : Config} {inputs : List (List UInt8)}
    {writer after : SegmentWriter σ}
    (appended : inputs.foldlM (appendSegment config) writer = .ok after) :
    ∃ kept, inputs.mapM (substance config) = .ok kept ∧
      appendAll kept.flatten writer = .ok after := by
  induction inputs generalizing writer with
  | nil => exact ⟨[], rfl, appended⟩
  | cons bytes inputs ih =>
    obtain ⟨next, one, others⟩ := bind_eq_ok.mp appended
    obtain ⟨records, found, written⟩ := bind_eq_ok.mp one
    obtain ⟨kept, mapped, onward⟩ := ih others
    refine ⟨records :: kept, mapM_cons_eq_ok.mpr ⟨records, kept, found, mapped, rfl⟩, ?_⟩
    rw [List.flatten_cons, appendAll_append, written]
    exact onward

end Writing

theorem written_of_consolidate {image bytes : List UInt8} {segments : List (List UInt8)}
    {config : Config} (checked : SegmentWriter.checkConfig config = .ok ())
    (merged : consolidate image segments config = .ok bytes) :
    ∃ kept fill, (image :: segments).mapM (substance config) = .ok kept ∧
      Written config.layoutVersion kept.flatten (fill + 1) bytes := by
  obtain ⟨writer, started, logged, setup, -⟩ :=
    SegmentWriter.start_logged Buffer.keeps checked Buffer.bytes_empty
  rw [consolidate, started] at merged
  obtain ⟨after, appended, closing⟩ := bind_eq_ok.mp merged
  obtain ⟨kept, mapped, joined⟩ := appendAll_of_segments appended
  obtain ⟨logged, setup'⟩ := appendAll_logged Buffer.keeps logged joined
  have chunked : after.preallocation ≠ some 0 := by
    rw [setup'.preallocation, setup.preallocation]
    exact (SegmentWriter.checkConfig_eq_ok.mp checked).2
  obtain ⟨sink, _, fill, closed, rfl, written, -⟩ := logged.close Buffer.keeps chunked
  rw [setup'.version, setup.version, List.nil_append] at written
  rw [closed] at closing
  cases pure_eq_ok.mp closing
  exact ⟨kept, fill, mapped, written⟩

theorem substance_consolidate {image bytes : List UInt8} {segments : List (List UInt8)}
    {config : Config} (checked : SegmentWriter.checkConfig config = .ok ())
    (merged : consolidate image segments config = .ok bytes) :
    ∃ kept, (image :: segments).mapM (substance config) = .ok kept ∧
      substance config bytes = .ok kept.flatten := by
  obtain ⟨kept, fill, mapped, written⟩ := written_of_consolidate checked merged
  refine ⟨kept, mapped, ?_⟩
  rw [substance_of_written written fun _ => Nat.le_add_left 1 fill, List.filter_eq_self.mpr]
  intro record member
  obtain ⟨records, inside, member⟩ := List.mem_flatten.mp member
  obtain ⟨input, -, found⟩ := mem_of_mapM_eq_ok mapped inside
  obtain ⟨_, all, _, -, -, rfl⟩ := substance_eq_ok.mp found
  exact (List.mem_filter.mp member).2

theorem appended_of_consolidate {image merged : List UInt8} {segments : List (List UInt8)}
    {config : Config} (done : consolidate image segments config = .ok merged) :
    ∃ writer after, SegmentWriter.start config Buffer.empty = .ok writer ∧
      SegmentWriter.checkConfig config = .ok () ∧
      (image :: segments).foldlM (appendSegment config) writer = .ok after := by
  cases started : SegmentWriter.start config Buffer.empty with
  | error both =>
    simp only [consolidate, started] at done
    contradiction
  | ok writer =>
    have checked := (SegmentWriter.of_start_eq_ok started).1
    rw [consolidate, started] at done
    obtain ⟨after, appended, -⟩ := bind_eq_ok.mp done
    exact ⟨writer, after, rfl, checked, appended⟩

/-- A merge can be done in stages: an image that already is a merge takes in further segments just as
if all had been merged at once, down to the error if there is one. -/
theorem consolidate_in_stages {image merged : List UInt8} {segments : List (List UInt8)}
    {config : Config} (done : consolidate image segments config = .ok merged)
    (later : List (List UInt8)) :
    consolidate merged later config = consolidate image (segments ++ later) config := by
  obtain ⟨writer, after, started, checked, appended⟩ := appended_of_consolidate done
  obtain ⟨kept, mapped, joined⟩ := appendAll_of_segments appended
  obtain ⟨kept', mapped', substance⟩ := substance_consolidate checked done
  obtain rfl : kept' = kept := Except.ok.inj (mapped'.symm.trans mapped)
  -- The image gives back the records that went into it, so both merges meet in one writer.
  have stage : (merged :: later).foldlM (appendSegment config) writer =
      later.foldlM (appendSegment config) after := by
    rw [List.foldlM_cons, appendSegment, substance, ok_bind, joined, ok_bind]
  have whole : (image :: (segments ++ later)).foldlM (appendSegment config) writer =
      later.foldlM (appendSegment config) after := by
    rw [← List.cons_append, List.foldlM_append, appended, ok_bind]
  simp only [consolidate, started, stage, whole]

theorem consolidate_in_stages_refused :
    ∃ merged, consolidate [0xFF, 0xFF, 0xFF, 0xD8, 0xFF]
        [[0xFF, 0xFF, 0xFF, 0xDA, 2, 0, 0, 0, 14, 0, 0, 0, 0, 0, 0, 0, 7,
          0, 0, 0, 2, 0x2F, 0x61, 0, 0, 0, 0, 0, 0, 0, 9, 0xFF]] .standard = .ok merged ∧
      consolidate merged
        [[0xFF, 0xFF, 0xFF, 0xDA, 2, 0, 0, 0, 14, 0, 0, 0, 0, 0, 0, 0, 3,
          0, 0, 0, 2, 0x2F, 0x61, 0, 0, 0, 0, 0, 0, 0, 9, 0xFF]] .standard =
        .error (.write (.outOfOrder 3 7)) := by
  cases done : consolidate [0xFF, 0xFF, 0xFF, 0xD8, 0xFF]
      [[0xFF, 0xFF, 0xFF, 0xDA, 2, 0, 0, 0, 14, 0, 0, 0, 0, 0, 0, 0, 7,
        0, 0, 0, 2, 0x2F, 0x61, 0, 0, 0, 0, 0, 0, 0, 9, 0xFF]] .standard with
  | error error =>
    have merges : (consolidate [0xFF, 0xFF, 0xFF, 0xD8, 0xFF]
        [[0xFF, 0xFF, 0xFF, 0xDA, 2, 0, 0, 0, 14, 0, 0, 0, 0, 0, 0, 0, 7,
          0, 0, 0, 2, 0x2F, 0x61, 0, 0, 0, 0, 0, 0, 0, 9, 0xFF]] .standard).toOption.isSome := by
      decide +kernel
    rw [done] at merges
    contradiction
  | ok merged =>
    refine ⟨merged, rfl, ?_⟩
    rw [consolidate_in_stages done]
    decide +kernel

end Merger

end Journal
