import Journal.Proofs.Segment.Truncation

set_option autoImplicit false

namespace Journal

open Segment

namespace ScanRules

variable {rules : ScanRules} {rest : Remainder}

theorem read_of_undecoded {byte : UInt8} (first : rest.bytes.head? = some byte)
    (unfilled : byte ≠ Opcode.fillByte) {fault : DecodeFault}
    (undecoded : Record.decodeInput rest.input rules.version = .error fault)
    (last : Option UInt64) : rules.read last rest = .failure fault := by
  unfold ScanRules.read
  split
  · next past => simp [past] at first
  · next found _ filled =>
    have same : found = byte := by simpa [filled] using first
    simp [same, unfilled, undecoded]

theorem read_of_tail (strict : rules.mode = .strict) (required : rules.requireEndMarker = true)
    {tail : List UInt8} (left : tail = [] ∨ ∃ (record : Record) (encoding : List UInt8) (count : Nat),
      record.encode rules.version = .ok encoding ∧ 0 < count ∧ count < encoding.length ∧
        tail = encoding.take count) (last : Option UInt64) :
    ∃ needed, tail.length < needed ∧
      rules.read last (.ofList tail) = .failure (.truncated needed tail.length) := by
  rcases left with rfl | ⟨record, encoding, count, encoded, filled, short, rfl⟩
  · exact ⟨1, Nat.zero_lt_one, read_of_nil strict required rfl last⟩
  · obtain ⟨needed, more, undecoded⟩ := Record.decodeInput_of_cut encoded short
    have first : (Remainder.ofList (encoding.take count)).bytes.head? = some record.opcode.toByte :=
      Record.head_take encoded filled
    rw [List.length_take_of_le (Nat.le_of_lt short)]
    exact ⟨needed, more, read_of_undecoded first record.toByte_ne_fillByte undecoded last⟩

end ScanRules

namespace Segment

theorem scan_of_short {bytes : List UInt8} (short : bytes.length < LayoutVersion.headerSize)
    (config : Config) :
    scan .strict config bytes =
      .error (.decode ⟨0, .truncated LayoutVersion.headerSize bytes.length⟩) := by
  have whole : (Input.ofList bytes).bytes = bytes := rfl
  rw [scan, layout, whole, LayoutVersion.ofHeader?_of_short short]
  rfl

theorem scan_of_strict_cut {version : LayoutVersion} {records : List Record} {fill cut : Nat}
    {bytes : List UInt8} (written : Written version records fill bytes)
    (headed : LayoutVersion.headerSize ≤ cut) (kept : cut ≤ offsetAfter version records)
    {config : Config} (required : config.requireEndMarker = true) :
    let whole := wholeRecords version cut records
    ∃ needed available front, available < needed ∧ offsetAfter version whole + available = cut ∧
      Laid version none whole front ∧
      scan .strict config (bytes.take cut) =
        .ok (stoppedScan version whole (.truncated needed available)) := by
  intro whole
  obtain ⟨front, tail, laid, stands, left⟩ := written.cut headed kept
  let rules : ScanRules := ⟨.strict, version, config.requireEndMarker, config.resync⟩
  obtain ⟨needed, short, read⟩ := @ScanRules.read_of_tail rules rfl required tail left
    (latest none whole)
  have scanned := scan_of_failure written.supported laid read
  rw [← stands] at scanned
  have length : offsetAfter version whole + tail.length = cut := by
    rw [← laid.offset, ← List.length_append, ← stands, written.length_take kept]
  exact ⟨needed, tail.length, front, short, length, laid, scanned⟩

/-- A cut in the header is met before the visitor is opened. Any other cut is found when the visitor has
taken in the whole records before it, at the end of the last of them. -/
theorem strict_scan_of_cut {υ : Type} [Visitor υ] {config reading : Config}
    (required : reading.requireEndMarker = true) {records : List Record} {bytes : List UInt8}
    (closes : SegmentWriter.Closes config records bytes) {cut : Nat}
    (kept : cut ≤ offsetAfter config.layoutVersion records) (visitor : υ)
    (accepts : Visitor.Accepts visitor) :
    (cut < LayoutVersion.headerSize →
      scanInto .strict reading (bytes.take cut) visitor =
        (visitor, .error (.decode ⟨0, .truncated LayoutVersion.headerSize cut⟩))) ∧
    (LayoutVersion.headerSize ≤ cut →
      let whole := wholeRecords config.layoutVersion cut records
      let stop := offsetAfter config.layoutVersion whole
      ∃ scan needed available, available < needed ∧ stop + available = cut ∧
        scanInto .strict reading (bytes.take cut) visitor =
          ((Visitor.onClose (some ⟨stop, .truncated needed available⟩)
            (Visitor.fed config.layoutVersion whole visitor)).1, .ok scan) ∧
        scan.records = whole ∧ scan.failures = [⟨stop, .truncated needed available⟩] ∧
        scan.firstError = some ⟨stop, .truncated needed available⟩ ∧ scan.trustedEnd = stop ∧
        scan.recoveryInvoked = false ∧ scan.cleanlyClosed = false) := by
  obtain ⟨fill, written⟩ := closes.written
  constructor
  · intro headless
    have length := written.length_take kept
    have scanned := scan_of_short (length.symm ▸ headless) reading
    rw [length] at scanned
    rw [scanInto, scanned]
  · intro headed whole stop
    obtain ⟨needed, available, front, short, reached, laid, scanned⟩ :=
      scan_of_strict_cut written headed kept required
    have visited := scanInto_of_scan accepts scanned
    rw [firstError_stoppedScan, records_stoppedScan] at visited
    exact ⟨_, needed, available, short, reached, visited, records_stoppedScan ..,
      failures_stoppedScan .., firstError_stoppedScan .., trustedEnd_stoppedScan laid _, rfl, rfl⟩

theorem strict_scan_of_cut_inside :
    ∃ scan needed, scanInto .strict .standard
        (List.take 30 [0xFF, 0xFF, 0xFF, 0xD8,
          0x18, 0, 0, 0, 0, 0, 0, 0, 0, 0, 0, 0, 6, 8, 0x13, 0x96, 0,
          0x17, 0, 0, 0, 0, 0, 0, 0, 0, 0, 0, 0, 8, 0xC8, 0xDB, 0x6E, 0x32, 0xFF])
        Collection.empty = (⟨some .checksummed, #[⟨6, .startSegment⟩]⟩, .ok scan) ∧
      scan.firstError = some ⟨21, .truncated needed 9⟩ ∧ scan.trustedEnd = 21 := by
  have written : Written .checksummed [⟨6, .startSegment⟩, ⟨8, .endSegment⟩] 1
      [0xFF, 0xFF, 0xFF, 0xD8,
        0x18, 0, 0, 0, 0, 0, 0, 0, 0, 0, 0, 0, 6, 8, 0x13, 0x96, 0,
        0x17, 0, 0, 0, 0, 0, 0, 0, 0, 0, 0, 0, 8, 0xC8, 0xDB, 0x6E, 0x32, 0xFF] :=
    ⟨by decide, by decide, by decide +kernel⟩
  have closes : SegmentWriter.Closes .standard _ _ := .of_written rfl written
  obtain ⟨scan, needed, available, -, reached, visited, -, -, failed, trusted, -, -⟩ :=
    (@strict_scan_of_cut _ _ _ .standard rfl _ _ closes 30 (by decide) Collection.empty
      (Collection.accepts _)).2 (by decide)
  obtain rfl : available = 9 :=
    Nat.add_left_cancel (show 21 + available = 21 + 9 from reached)
  exact ⟨scan, needed, visited, failed, trusted⟩

end Segment

end Journal
