import Journal.Proofs.Segment.Records

set_option autoImplicit false

namespace Journal

theorem lengthens_iff {small large : List UInt8} :
    (small.isPrefixOf large && isFill (large.drop small.length)) = true ↔
      ∃ fill, large = small ++ List.replicate fill Opcode.fillByte := by
  rw [Bool.and_eq_true, List.isPrefixOf_iff_prefix]
  constructor
  · rintro ⟨⟨rest, rfl⟩, filled⟩
    rw [List.drop_left] at filled
    exact ⟨rest.length, congrArg (small ++ ·) (isFill_iff.mp filled)⟩
  · rintro ⟨fill, rfl⟩
    refine ⟨List.prefix_append .., ?_⟩
    rw [List.drop_left, isFill_iff, List.length_replicate]

theorem equalIgnoringFill_iff {a b : List UInt8} :
    equalIgnoringFill a b = true ↔
      (∃ fill, b = a ++ List.replicate fill Opcode.fillByte) ∨
        ∃ fill, a = b ++ List.replicate fill Opcode.fillByte := by
  rw [equalIgnoringFill]
  by_cases order : a.length ≤ b.length
  · simp only [if_pos order, lengthens_iff]
    refine ⟨.inl, ?_⟩
    rintro (longer | ⟨fill, rfl⟩)
    · exact longer
    · obtain rfl : fill = 0 := by
        rw [List.length_append, List.length_replicate] at order
        omega
      exact ⟨0, by simp⟩
  · simp only [if_neg order, lengthens_iff]
    refine ⟨.inr, ?_⟩
    rintro (⟨fill, rfl⟩ | longer)
    · exact absurd (List.prefix_append ..).length_le order
    · exact longer

theorem equalIgnoringFill_append (front : List UInt8) (fill other : Nat) :
    equalIgnoringFill (front ++ List.replicate fill Opcode.fillByte)
      (front ++ List.replicate other Opcode.fillByte) = true := by
  have longer {small large : Nat} (le : small ≤ large) :
      ∃ more, front ++ List.replicate large Opcode.fillByte =
        front ++ List.replicate small Opcode.fillByte ++ List.replicate more Opcode.fillByte := by
    obtain ⟨more, rfl⟩ := Nat.exists_eq_add_of_le le
    exact ⟨more, by rw [List.append_assoc, List.replicate_append_replicate]⟩
  rw [equalIgnoringFill_iff]
  exact (Nat.le_total fill other).imp longer longer

namespace Segment

theorem Written.equalIgnoringFill_iff {version version' : LayoutVersion}
    {records records' : List Record} {fill fill' : Nat} {a b : List UInt8}
    (written : Written version records fill a) (written' : Written version' records' fill' b) :
    equalIgnoringFill a b = true ↔ version = version' ∧ records = records' := by
  constructor
  · intro equal
    rcases Journal.equalIgnoringFill_iff.mp equal with ⟨more, rfl⟩ | ⟨more, rfl⟩
    · obtain ⟨rfl, rfl, -⟩ := written'.unique (written.lengthened more)
      exact ⟨rfl, rfl⟩
    · obtain ⟨rfl, rfl, -⟩ := written.unique (written'.lengthened more)
      exact ⟨rfl, rfl⟩
  · rintro ⟨rfl, rfl⟩
    obtain ⟨encodings, mapped, joined⟩ := bind_eq_ok.mp written.formed
    obtain ⟨encodings', mapped', joined'⟩ := bind_eq_ok.mp written'.formed
    obtain rfl : encodings' = encodings := Except.ok.inj (mapped'.symm.trans mapped)
    rw [← pure_eq_ok.mp joined, ← pure_eq_ok.mp joined']
    exact equalIgnoringFill_append ..

def Intact (bytes : List UInt8) : Prop :=
  ∃ config found, scan .strict config bytes = .ok found ∧ found.firstError = none

/-- Two segments are equal up to fill if and only if they have the same content, so that segments fall
into classes by their content. -/
theorem equal_ignoring_fill_iff_same_content :
    (∀ (config config' : Config) (a b : List UInt8) (found found' : Scan),
      scan .strict config a = .ok found → found.firstError = none →
      scan .strict config' b = .ok found' → found'.firstError = none →
        (equalIgnoringFill a b = true ↔
          found.version = found'.version ∧ found.records = found'.records)) ∧
    Equivalence fun a b : { bytes // Intact bytes } => equalIgnoringFill a.1 b.1 = true := by
  have content {config config' : Config} {a b : List UInt8} {found found' : Scan}
      (scanned : scan .strict config a = .ok found) (unfailed : found.firstError = none)
      (scanned' : scan .strict config' b = .ok found') (unfailed' : found'.firstError = none) :
      equalIgnoringFill a b = true ↔
        found.version = found'.version ∧ found.records = found'.records := by
    obtain ⟨fill, written, -⟩ := written_of_unfailed scanned unfailed
    obtain ⟨fill', written', -⟩ := written_of_unfailed scanned' unfailed'
    exact written.equalIgnoringFill_iff written'
  refine ⟨fun _ _ _ _ _ _ => content, ?_, ?_, ?_⟩
  · rintro ⟨a, config, found, scanned, unfailed⟩
    exact (content scanned unfailed scanned unfailed).mpr ⟨rfl, rfl⟩
  · rintro ⟨a, _, found, scanned, unfailed⟩ ⟨b, _, found', scanned', unfailed'⟩ equal
    obtain ⟨version, records⟩ := (content scanned unfailed scanned' unfailed').mp equal
    exact (content scanned' unfailed' scanned unfailed).mpr ⟨version.symm, records.symm⟩
  · rintro ⟨a, _, found, scanned, unfailed⟩ ⟨b, _, found', scanned', unfailed'⟩
      ⟨c, _, found'', scanned'', unfailed''⟩ equal equal'
    obtain ⟨version, records⟩ := (content scanned unfailed scanned' unfailed').mp equal
    obtain ⟨version', records'⟩ := (content scanned' unfailed' scanned'' unfailed'').mp equal'
    exact (content scanned unfailed scanned'' unfailed'').mpr
      ⟨version.trans version', records.trans records'⟩

theorem equal_ignoring_fill_iff_same_content_ones :
    ∃ found found',
      scan .strict { Config.standard with requireEndMarker := false }
        [0xFF, 0xFF, 0xFF, 0xDA, 0x0A, 0, 0, 0, 8, 0, 0, 0, 0, 0, 0, 0, 7,
          0xFF, 0xFF, 0xFF, 0xFF, 0xFF, 0xFF, 0xFF, 0xFF] = .ok found ∧
      found.firstError = none ∧
      scan .strict .standard
        [0xFF, 0xFF, 0xFF, 0xDA, 0x0A, 0, 0, 0, 8, 0, 0, 0, 0, 0, 0, 0, 7,
          0xFF, 0xFF, 0xFF, 0xFF, 0xFF, 0xFF, 0xFF, 0xFF, 0xFF, 0xFF] = .ok found' ∧
      found'.firstError = none ∧ found.records = [⟨7, .setGenstamp, ⟨-1⟩⟩] ∧
      equalIgnoringFill
        [0xFF, 0xFF, 0xFF, 0xDA, 0x0A, 0, 0, 0, 8, 0, 0, 0, 0, 0, 0, 0, 7,
          0xFF, 0xFF, 0xFF, 0xFF, 0xFF, 0xFF, 0xFF, 0xFF]
        [0xFF, 0xFF, 0xFF, 0xDA, 0x0A, 0, 0, 0, 8, 0, 0, 0, 0, 0, 0, 0, 7,
          0xFF, 0xFF, 0xFF, 0xFF, 0xFF, 0xFF, 0xFF, 0xFF, 0xFF, 0xFF] = true := by
  have unmarked : Written .unchecksummed [⟨7, .setGenstamp, ⟨-1⟩⟩] 0
      [0xFF, 0xFF, 0xFF, 0xDA, 0x0A, 0, 0, 0, 8, 0, 0, 0, 0, 0, 0, 0, 7,
        0xFF, 0xFF, 0xFF, 0xFF, 0xFF, 0xFF, 0xFF, 0xFF] := ⟨by decide, by simp, rfl⟩
  have marked := unmarked.lengthened 2
  have scanned := @scan_of_written _ _ _ _ unmarked
    { Config.standard with requireEndMarker := false } (by decide)
  have scanned' := @scan_of_written _ _ _ _ marked .standard (by decide)
  have unfailed := firstError_cleanScan .unchecksummed [⟨7, .setGenstamp, ⟨-1⟩⟩]
  have records := records_cleanScan .unchecksummed [⟨7, .setGenstamp, ⟨-1⟩⟩]
  have equal := (equal_ignoring_fill_iff_same_content.1 _ _ _ _ _ _ scanned (unfailed 0) scanned'
    (unfailed 2)).mpr ⟨rfl, (records 0).trans (records 2).symm⟩
  exact ⟨_, _, scanned, unfailed 0, scanned', unfailed 2, records 0, equal⟩

end Segment

end Journal
