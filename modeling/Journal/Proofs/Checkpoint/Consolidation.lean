import Journal.Proofs.Checkpoint.Merge

set_option autoImplicit false

namespace Journal

def Scan.substance (scan : Scan) : List Record :=
  scan.records.filter fun record => !record.opcode.isBoundary

namespace Merger

open Segment

structure Reads (config : Config) (inputs : List (List UInt8)) (scans : List Scan) : Prop where
  scanned : inputs.mapM (scan .strict config) = .ok scans
  unfailed : ∀ scan ∈ scans, scan.firstError = none

theorem substance_eq_ok_iff {config : Config} {bytes : List UInt8} {records : List Record} :
    substance config bytes = .ok records ↔
      ∃ found, scan .strict config bytes = .ok found ∧ found.firstError = none ∧
        found.substance = records := by
  rw [substance_eq_ok]
  constructor
  · rintro ⟨version, all, fill, written, enough, rfl⟩
    refine ⟨_, scan_of_written written enough, firstError_cleanScan .., ?_⟩
    rw [Scan.substance, records_cleanScan]
  · rintro ⟨found, scanned, unfailed, rfl⟩
    obtain ⟨fill, written, enough, -⟩ := written_of_unfailed scanned unfailed
    exact ⟨_, _, fill, written, enough, rfl⟩

theorem mapM_substance_eq_ok {config : Config} {inputs : List (List UInt8)}
    {kept : List (List Record)} :
    inputs.mapM (substance config) = .ok kept ↔
      ∃ scans, Reads config inputs scans ∧ scans.map Scan.substance = kept := by
  induction inputs generalizing kept with
  | nil =>
    constructor
    · intro mapped
      cases mapped
      exact ⟨[], ⟨List.mapM_nil, List.forall_mem_nil _⟩, rfl⟩
    · rintro ⟨scans, ⟨scanned, -⟩, rfl⟩
      cases scanned
      rfl
  | cons input inputs ih =>
    constructor
    · intro mapped
      obtain ⟨first, others, found, rest, rfl⟩ := mapM_cons_eq_ok.mp mapped
      obtain ⟨scan, scanned, unfailed, rfl⟩ := substance_eq_ok_iff.mp found
      obtain ⟨scans, reads, rfl⟩ := ih.mp rest
      exact ⟨scan :: scans, ⟨mapM_cons_eq_ok.mpr ⟨scan, scans, scanned, reads.scanned, rfl⟩,
        List.forall_mem_cons.mpr ⟨unfailed, reads.unfailed⟩⟩, rfl⟩
    · rintro ⟨_, ⟨scanned, unfailed⟩, rfl⟩
      obtain ⟨scan, scans, first, others, rfl⟩ := mapM_cons_eq_ok.mp scanned
      obtain ⟨sound, unfailed⟩ := List.forall_mem_cons.mp unfailed
      have found : substance config input = .ok scan.substance :=
        substance_eq_ok_iff.mpr ⟨scan, first, sound, rfl⟩
      have mapped := ih.mpr ⟨scans, ⟨others, unfailed⟩, rfl⟩
      exact mapM_cons_eq_ok.mpr ⟨scan.substance, scans.map Scan.substance, found, mapped, rfl⟩

theorem foldlM_appendSegment {σ : Type} [Sink σ] {config : Config} {inputs : List (List UInt8)}
    {kept : List (List Record)} (mapped : inputs.mapM (substance config) = .ok kept)
    (writer : SegmentWriter σ) :
    inputs.foldlM (appendSegment config) writer = appendAll kept.flatten writer := by
  induction inputs generalizing kept writer with
  | nil =>
    cases mapped
    rfl
  | cons input inputs ih =>
    obtain ⟨first, others, found, rest, rfl⟩ := mapM_cons_eq_ok.mp mapped
    rw [List.foldlM_cons, appendSegment, found, ok_bind, List.flatten_cons, appendAll_append]
    exact congrArg (appendAll first writer >>= ·) (funext (ih rest))

namespace Reads

variable {config : Config} {image : List UInt8} {segments inputs : List (List UInt8)}
  {scans : List Scan}

theorem fits (reads : Reads config inputs scans) (version : LayoutVersion) :
    ∀ record ∈ scans.flatMap Scan.substance, ∃ encoding, record.encode version = .ok encoding := by
  intro record member
  obtain ⟨found, inside, member⟩ := List.mem_flatMap.mp member
  obtain ⟨input, -, scanned⟩ := mem_of_mapM_eq_ok reads.scanned inside
  obtain ⟨fill, written, -⟩ := written_of_unfailed scanned (reads.unfailed found inside)
  obtain ⟨-, _, laid, -⟩ := written_iff.mp written
  obtain ⟨encoding, encoded⟩ := laid.encoded record (List.mem_filter.mp member).1
  exact Record.exists_encode (Record.encode_eq_ok.mp encoded).1 version

theorem unique (reads : Reads config inputs scans) {scans' : List Scan}
    (reads' : Reads config inputs scans') : scans' = scans :=
  Except.ok.inj (reads'.scanned.symm.trans reads.scanned)

theorem of_consolidate {merged : List UInt8} (checked : SegmentWriter.checkConfig config = .ok ())
    (made : consolidate image segments config = .ok merged) :
    ∃ scans, Reads config (image :: segments) scans ∧
      (scans.flatMap Scan.substance).Pairwise (·.txid ≤ ·.txid) := by
  obtain ⟨kept, fill, mapped, written⟩ := written_of_consolidate checked made
  obtain ⟨scans, reads, rfl⟩ := mapM_substance_eq_ok.mp mapped
  exact ⟨scans, reads, written.ordered⟩

theorem consolidate (reads : Reads config (image :: segments) scans)
    (checked : SegmentWriter.checkConfig config = .ok ())
    (ordered : (scans.flatMap Scan.substance).Pairwise (·.txid ≤ ·.txid)) :
    ∃ front fill, Written config.layoutVersion (scans.flatMap Scan.substance) 0 front ∧
      consolidate image segments config =
        .ok (front ++ List.replicate (fill + 1) Opcode.fillByte) ∧
      (config.preallocation = none → fill = 0) ∧
      ∀ chunk, config.preallocation = some chunk →
        IsLeast {stop | chunk ∣ stop ∧ front.length < stop} (front.length + (fill + 1)) := by
  obtain ⟨writer, started, logged, setup, -⟩ :=
    SegmentWriter.start_logged Buffer.keeps checked Buffer.bytes_empty
  obtain ⟨after, appended⟩ := appendAll_of_ordered Buffer.keeps logged ordered
    (reads.fits writer.version)
  obtain ⟨⟨front, wrote, written⟩, setup'⟩ := appendAll_logged Buffer.keeps logged appended
  rw [setup'.version, setup.version, List.nil_append] at written
  have same : after.preallocation = config.preallocation :=
    setup'.preallocation.trans setup.preallocation
  obtain ⟨fill, trailer, unpadded, padded⟩ := after.trailer_fills
    (same ▸ (SegmentWriter.checkConfig_eq_ok.mp checked).2)
  obtain ⟨sink, closed, held⟩ := SegmentWriter.close_of_keeps Buffer.keeps wrote
  rw [trailer] at held
  rw [same, wrote.offset] at padded
  refine ⟨front, fill, written, ?_, same ▸ unpadded, padded⟩
  have mapped : (image :: segments).mapM (substance config) = .ok (scans.map Scan.substance) :=
    mapM_substance_eq_ok.mpr ⟨scans, reads, rfl⟩
  have taken : (image :: segments).foldlM (appendSegment config) writer = .ok after := by
    rw [foldlM_appendSegment mapped, ← List.flatMap_def]
    exact appended
  simp only [Merger.consolidate, started, taken, ok_bind, closed, held]
  rfl

end Reads

/-- A merge is exactly a consolidation. It accepts what can be read to its end and has ids that never
descend when boundaries are left out, and from that it makes a segment of its own layout, whatever
layouts it has read. -/
theorem consolidate_exact {config : Config} (supported : config.layoutVersion.isSupported = true)
    (chunked : config.preallocation ≠ some 0) (image : List UInt8) (segments : List (List UInt8)) :
    ((∃ merged, consolidate image segments config = .ok merged) ↔
      ∃ scans, Reads config (image :: segments) scans ∧
        (scans.flatMap Scan.substance).Pairwise (·.txid ≤ ·.txid)) ∧
    ∀ merged scans, consolidate image segments config = .ok merged →
      Reads config (image :: segments) scans →
      let records := scans.flatMap Scan.substance
      ∃ encodings fill, records.mapM (·.encode config.layoutVersion) = .ok encodings ∧
        let front := config.layoutVersion.header ++ encodings.flatten
        merged = front ++ List.replicate (fill + 1) Opcode.fillByte ∧
        (config.preallocation = none → fill = 0) ∧
        (∀ chunk, config.preallocation = some chunk →
          IsLeast {stop | chunk ∣ stop ∧ front.length < stop} merged.length) ∧
        ∀ reading, ∃ scan, readAll .strict reading merged = .ok (records, scan) ∧
          scan.version = config.layoutVersion ∧ scan.firstError = none ∧
          scan.cleanlyClosed = true := by
  have checked := SegmentWriter.checkConfig_eq_ok.mpr ⟨supported, chunked⟩
  refine ⟨⟨?_, ?_⟩, fun merged scans made reads => ?_⟩
  · rintro ⟨merged, made⟩
    exact Reads.of_consolidate checked made
  · rintro ⟨scans, reads, ordered⟩
    obtain ⟨_, _, -, made, -⟩ := reads.consolidate checked ordered
    exact ⟨_, made⟩
  · intro records
    obtain ⟨scans', reads', ordered⟩ := Reads.of_consolidate checked made
    obtain rfl := reads.unique reads'
    obtain ⟨front, fill, written, again, unpadded, padded⟩ := reads.consolidate checked ordered
    obtain rfl := Except.ok.inj (again.symm.trans made)
    have ended := written.filled (fill + 1)
    have marked : 1 ≤ fill + 1 := Nat.le_add_left ..
    obtain ⟨encodings, mapped, joined⟩ := bind_eq_ok.mp written.formed
    obtain rfl : config.layoutVersion.header ++ encodings.flatten = front := by
      rw [← pure_eq_ok.mp joined]
      exact (List.append_nil _).symm
    refine ⟨encodings, fill, mapped, rfl, unpadded, fun chunk setup => ?_, fun reading =>
      ⟨_, readAll_of_written ended fun _ => marked, rfl, firstError_cleanScan ..,
        decide_eq_true marked⟩⟩
    have length (front : List UInt8) : (front ++ List.replicate (fill + 1) Opcode.fillByte).length =
        front.length + (fill + 1) := by
      rw [List.length_append, List.length_replicate]
    rw [length]
    exact padded chunk setup

theorem consolidate_exact_relaid :
    ∃ merged encoding found,
      consolidate [0xFF, 0xFF, 0xFF, 0xD8, 0xFF]
        [[0xFF, 0xFF, 0xFF, 0xDA, 0x18, 0, 0, 0, 0, 0, 0, 0, 0, 0, 0, 0, 6,
          2, 0, 0, 0, 14, 0, 0, 0, 0, 0, 0, 0, 7, 0, 0, 0, 2, 0x2F, 0x61,
          0, 0, 0, 0, 0, 0, 0, 9, 0xFF]] .standard = .ok merged ∧
      Record.encode ⟨7, .delete, ⟨"/a", 9⟩⟩ .checksummed = .ok encoding ∧
      merged = [0xFF, 0xFF, 0xFF, 0xD8] ++ encoding ++ [0xFF] ∧
      readAll .strict .standard merged = .ok ([⟨7, .delete, ⟨"/a", 9⟩⟩], found) := by
  let deletion : Record := ⟨7, .delete, ⟨"/a", 9⟩⟩
  let scans := [cleanScan .checksummed [] 1, cleanScan .unchecksummed [⟨6, .startSegment⟩, deletion] 1]
  have image : Written .checksummed [] 1 [0xFF, 0xFF, 0xFF, 0xD8, 0xFF] :=
    ⟨by decide, .nil, rfl⟩
  have segment : Written .unchecksummed [⟨6, .startSegment⟩, deletion] 1
      [0xFF, 0xFF, 0xFF, 0xDA, 0x18, 0, 0, 0, 0, 0, 0, 0, 0, 0, 0, 0, 6,
        2, 0, 0, 0, 14, 0, 0, 0, 0, 0, 0, 0, 7, 0, 0, 0, 2, 0x2F, 0x61,
        0, 0, 0, 0, 0, 0, 0, 9, 0xFF] := ⟨by decide, by decide, by decide +kernel⟩
  have reads : Reads .standard _ scans :=
    ⟨mapM_cons_eq_ok.mpr ⟨_, _, scan_of_written image (by decide),
        mapM_cons_eq_ok.mpr ⟨_, _, scan_of_written segment (by decide), List.mapM_nil, rfl⟩, rfl⟩,
      by simp [scans, firstError_cleanScan]⟩
  have substance : scans.flatMap Scan.substance = [deletion] := rfl
  obtain ⟨accepted, exactly⟩ := consolidate_exact (show Config.standard.layoutVersion.isSupported by
    decide) (show Config.standard.preallocation ≠ some 0 by decide) _ _
  obtain ⟨merged, made⟩ := accepted.mpr ⟨scans, reads, by rw [substance]; simp⟩
  obtain ⟨encodings, fill, mapped, rfl, unpadded, -, read⟩ := exactly merged scans made reads
  rw [substance] at mapped read
  obtain ⟨encoding, others, encoded, none, rfl⟩ := mapM_cons_eq_ok.mp mapped
  cases none
  obtain ⟨found, read, -⟩ := read .standard
  refine ⟨_, encoding, found, made, encoded, ?_, read⟩
  rw [unpadded rfl]
  change LayoutVersion.checksummed.header ++ [encoding].flatten ++ [Opcode.fillByte] = _
  rw [List.flatten_singleton]
  rfl

end Merger

end Journal
