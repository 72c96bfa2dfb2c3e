import Journal.Proofs.Codec.Damage
import Journal.Proofs.Segment.Resync
import Journal.Proofs.Segment.Session
import Journal.Proofs.Visitor

set_option autoImplicit false

namespace Journal

namespace Segment

def lossyScan (version : LayoutVersion) (before after : List Record) (fault : DecodeFault)
    (start stop : Nat) (closed : Bool) : Scan :=
  ⟨.recovery, version, none, emissions version LayoutVersion.headerSize before ++
    .failed ⟨start, fault⟩ :: .skipped start stop :: emissions version stop after, closed⟩

section Lossy

variable (version : LayoutVersion) (before after : List Record) (fault : DecodeFault)
  (start stop : Nat) (closed : Bool)

theorem records_lossyScan :
    (lossyScan version before after fault start stop closed).records = before ++ after := by
  have first := emitted_emissions version LayoutVersion.headerSize before
  have second := emitted_emissions version stop after
  rw [Scan.records, lossyScan, List.filterMap_append]
  exact congrArg₂ (· ++ ·) first second

theorem skipped_lossyScan :
    (lossyScan version before after fault start stop closed).skipped = [(start, stop)] := by
  rw [Scan.skipped, lossyScan, List.filterMap_append]
  simp only [List.filterMap_cons, filterMap_emissions, implies_true, List.nil_append]

theorem firstError_lossyScan :
    (lossyScan version before after fault start stop closed).firstError = some ⟨start, fault⟩ := by
  rw [lossyScan, firstError_of_undamaged (undamaged_emissions _ _ before)]
  rfl

end Lossy

theorem trace_of_damaged {rules : ScanRules} (recovering : rules.mode = .recovery)
    (has : rules.version.hasChecksum = true) {last : Option UInt64} {record : Record}
    {after : List Record} {encoding later : List UInt8} {fill position : Nat} {byte : UInt8}
    (encoded : record.encode rules.version = .ok encoding)
    (laid : Laid rules.version last after later) (inside : position < encoding.length)
    (changed : encoding[position]? ≠ some byte) (wide : encoding.length ≤ rules.resync.window)
    {rest : Remainder}
    (stands : rest.bytes = (encoding ++ (later ++ List.replicate (fill + 1) Opcode.fillByte)).set
      position byte)
    (alone : ∀ offset, 0 < offset → offset < encoding.length → ∀ run,
      ¬ RunOf rules.version rules.resync.run last run (rest.bytes.drop offset)) (start : Nat) :
    ∃ fault, rules.Trace start last rest
      (.failed ⟨start, fault⟩ :: .skipped start (start + encoding.length) ::
        emissions rules.version (start + encoding.length) after) true := by
  have split := stands.trans (List.set_append_left _ _ inside)
  obtain ⟨refusal, undecoded⟩ := Record.decodeInput_of_damaged has encoded inside changed split
  have unfilled (count : Nat) : rest.bytes ≠ List.replicate count Opcode.fillByte := by
    rw [stands]
    exact Record.set_ne_fill encoded position byte _ count
  obtain ⟨fault, read⟩ := ScanRules.read_failure undecoded unfilled last
  obtain ⟨passed, length⟩ := Nat.exists_eq_add_of_le' (Nat.zero_lt_of_lt inside)
  rw [Nat.add_comm] at length
  have beyond : rest.bytes.drop (1 + passed) =
      later ++ List.replicate (fill + 1) Opcode.fillByte := by
    rw [split, List.drop_left' (by rw [List.length_set, length])]
  have within : passed < rules.reach rest := by
    rw [ScanRules.reach, Remainder.size_eq, stands]
    simp only [List.length_set, List.length_append, List.length_replicate]
    omega
  have run : RunOf rules.version rules.resync.run last after (rest.bytes.drop (1 + passed)) :=
    ⟨later, _, beyond, laid, .inr ⟨fill, rfl⟩⟩
  have found : rules.resume last rest = some passed :=
    ScanRules.resume_eq_some recovering within run fun fewer less =>
      alone (1 + fewer) (by omega) (by omega)
  have onward := laid.trace rfl ((Remainder.bytes_drop ..).trans beyond)
    (trace_of_fill (fun _ _ => Nat.succ_pos fill) (start + 1 + passed + later.length) _)
  have trace := ScanRules.Trace.resumed recovering read found onward
  rw [List.append_nil, Nat.add_assoc start, ← length] at trace
  exact ⟨fault, trace⟩

theorem scan_of_damaged {version : LayoutVersion} (supported : version.isSupported = true)
    (has : version.hasChecksum = true) {config : Config} {before after : List Record}
    {record : Record} {front encoding later : List UInt8} {fill position : Nat} {byte : UInt8}
    (earlier : Laid version none before front) (encoded : record.encode version = .ok encoding)
    (laid : Laid version (latest none before) after later) (inside : position < encoding.length)
    (changed : encoding[position]? ≠ some byte) (wide : encoding.length ≤ config.resync.window)
    (alone : ∀ offset, 0 < offset → offset < encoding.length → ∀ run,
      ¬ RunOf version config.resync.run (latest none before) run
        (((encoding ++ (later ++ List.replicate (fill + 1) Opcode.fillByte)).set position
          byte).drop offset)) :
    ∃ fault, Segment.scan .recovery config
        (version.header ++ front ++
          (encoding ++ (later ++ List.replicate (fill + 1) Opcode.fillByte)).set position byte) =
      .ok (lossyScan version before after fault (offsetAfter version before)
        (offsetAfter version before + encoding.length) true) := by
  obtain ⟨fault, trace⟩ := @trace_of_damaged
    ⟨.recovery, version, config.requireEndMarker, config.resync⟩ rfl has _ record after encoding
    later fill position byte encoded laid inside changed wide (.ofList _) rfl alone
    (LayoutVersion.headerSize + front.length)
  have scanned := scan_of_trace supported (earlier.trace rfl rfl trace)
  rw [← List.append_assoc, earlier.stop] at scanned
  exact ⟨fault, scanned⟩

/-- A changed byte costs the record that it stands in, if none of the places inside it is taken for the
start of a run, and the scan tells what it has skipped. -/
theorem recovery_of_damaged_byte {config reading : Config} {before after : List Record}
    {record : Record} {bytes : List UInt8}
    (closes : SegmentWriter.Closes config (before ++ record :: after) bytes)
    (checksummed : config.layoutVersion = .checksummed) {position : Nat} {byte : UInt8}
    (inside : offsetAfter .checksummed before ≤ position ∧
      position < offsetAfter .checksummed (before ++ [record]))
    (changed : bytes[position]? ≠ some byte)
    (wide : offsetAfter .checksummed (before ++ [record]) - offsetAfter .checksummed before ≤
      reading.resync.window)
    (alone : ∀ offset, offsetAfter .checksummed before < offset →
      offset < offsetAfter .checksummed (before ++ [record]) →
      confirmsRun .checksummed reading.resync.run (latest none before)
        (.ofList ((bytes.set position byte).drop offset)) = false) :
    ∃ scan fault,
      Segment.readAll .recovery reading (bytes.set position byte) = .ok (before ++ after, scan) ∧
      scan.skipped =
        [(offsetAfter .checksummed before, offsetAfter .checksummed (before ++ [record]))] ∧
      scan.firstError = some ⟨offsetAfter .checksummed before, fault⟩ ∧
      scan.recoveryInvoked = true ∧ scan.cleanlyClosed = true := by
  obtain ⟨fill, written⟩ := closes.written
  rw [checksummed] at written
  obtain ⟨front, encoding, later, earlier, encoded, others, rfl⟩ := written.around
  have start := earlier.offset
  have stop : offsetAfter .checksummed (before ++ [record]) =
      offsetAfter .checksummed before + encoding.length := by
    rw [offsetAfter, stopOf_append, Record.length_encode encoded]
    rfl
  obtain ⟨position, rfl⟩ := Nat.exists_eq_add_of_le inside.1
  rw [stop] at inside wide alone ⊢
  rw [← start] at inside wide alone changed ⊢
  rw [Nat.add_sub_cancel_left] at wide
  have short : position < encoding.length := Nat.lt_of_add_lt_add_left inside.2
  rw [List.getElem?_append_right (Nat.le_add_right ..), Nat.add_sub_cancel_left,
    List.getElem?_append_left short] at changed
  rw [List.set_append_right _ _ (Nat.le_add_right ..), Nat.add_sub_cancel_left] at alone ⊢
  obtain ⟨fault, scanned⟩ := scan_of_damaged written.supported rfl earlier encoded others short changed
    wide fun offset positive less => by
      have missed := alone _ (Nat.lt_add_of_pos_right positive) (Nat.add_lt_add_left less _)
      rw [List.drop_length_add_append] at missed
      exact confirmsRun_eq_false.mp missed
  rw [← start] at scanned
  have found := readAll_of_scan scanned
  rw [records_lossyScan] at found
  refine ⟨_, fault, found, skipped_lossyScan .., firstError_lossyScan .., ?_, rfl⟩
  rw [Scan.recoveryInvoked, firstError_lossyScan]
  rfl

theorem recovery_of_damaged_byte_opcode :
    ∃ scan fault,
      Segment.readAll .recovery .standard
        ([0xFF, 0xFF, 0xFF, 0xD8, 0x18, 0, 0, 0, 0, 0, 0, 0, 0, 0, 0, 0, 6, 8, 0x13, 0x96, 0,
          0x18, 0, 0, 0, 0, 0, 0, 0, 0, 0, 0, 0, 7, 0x7F, 0x14, 0xA6, 0x96,
          0x17, 0, 0, 0, 0, 0, 0, 0, 0, 0, 0, 0, 8, 0xC8, 0xDB, 0x6E, 0x32, 0xFF].set 21 0xFF) =
        .ok ([⟨6, .startSegment⟩, ⟨8, .endSegment⟩], scan) ∧
      scan.skipped = [(21, 38)] ∧ scan.firstError = some ⟨21, fault⟩ ∧
      scan.recoveryInvoked = true ∧ scan.cleanlyClosed = true := by
  have written : Written .checksummed
      ([⟨6, .startSegment⟩] ++ ⟨7, .startSegment⟩ :: [⟨8, .endSegment⟩]) 1
      [0xFF, 0xFF, 0xFF, 0xD8, 0x18, 0, 0, 0, 0, 0, 0, 0, 0, 0, 0, 0, 6, 8, 0x13, 0x96, 0,
        0x18, 0, 0, 0, 0, 0, 0, 0, 0, 0, 0, 0, 7, 0x7F, 0x14, 0xA6, 0x96,
        0x17, 0, 0, 0, 0, 0, 0, 0, 0, 0, 0, 0, 8, 0xC8, 0xDB, 0x6E, 0x32, 0xFF] :=
    ⟨by decide, by decide, by decide +kernel⟩
  have closes : SegmentWriter.Closes .standard _ _ := .of_written rfl written
  have alone : ∀ offset < 38, 21 < offset → confirmsRun .checksummed 2 (some 6)
      (.ofList (([0xFF, 0xFF, 0xFF, 0xD8, 0x18, 0, 0, 0, 0, 0, 0, 0, 0, 0, 0, 0, 6, 8, 0x13, 0x96, 0,
        0x18, 0, 0, 0, 0, 0, 0, 0, 0, 0, 0, 0, 7, 0x7F, 0x14, 0xA6, 0x96,
        0x17, 0, 0, 0, 0, 0, 0, 0, 0, 0, 0, 0, 8, 0xC8, 0xDB, 0x6E, 0x32, 0xFF].set 21 0xFF).drop
          offset)) = false := by decide +kernel
  exact recovery_of_damaged_byte closes rfl (by decide) (by decide) (by decide)
    fun offset more less => alone offset less more

end Segment

end Journal
