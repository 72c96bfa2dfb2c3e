import Journal.Proofs.Protocol

set_option autoImplicit false

namespace Journal

theorem LayoutVersion.ofHeader?_of_length {header : List UInt8} (length : header.length = headerSize) :
    ∃ version, ofHeader? header = some version ∧ header = version.header := by
  have found : ∃ version, ofHeader? header = some version := by
    rw [ofHeader?, List.take_of_length_le (Nat.le_of_eq length), if_pos length]
    exact ⟨_, rfl⟩
  obtain ⟨version, named⟩ := found
  have written := header_of_ofHeader? named
  rw [List.drop_eq_nil_of_le (Nat.le_of_eq length), List.append_nil] at written
  exact ⟨version, named, written⟩

namespace Visitor

def beforeClosing (calls : List Answered) : List Answered :=
  calls.filter fun
    | (.closed _, _) => false
    | _ => true

theorem beforeClosing_closed (calls : List Answered) (met : Option DecodeError)
    (answer : Except Error Unit) :
    beforeClosing (calls ++ [(.closed met, answer)]) = beforeClosing calls := by
  simp [beforeClosing]

end Visitor

theorem Recorder.beforeClosing_visit {υ : Type} [Visitor υ] {first second : RecordStream}
    (version : first.version = second.version)
    (records : first.records.map Prod.snd = second.records.map Prod.snd) (visitor : υ) :
    Visitor.beforeClosing (first.visit (Recorder.mk visitor [])).1.calls =
      Visitor.beforeClosing (second.visit (Recorder.mk visitor [])).1.calls := by
  have plain : first.records.map (fun delivery => ((none : Option DecodeError), delivery.2)) =
      second.records.map fun delivery => (none, delivery.2) := by
    have paired := congrArg (List.map fun record => ((none : Option DecodeError), record)) records
    simpa only [List.map_map, Function.comp_def] using paired
  rw [RecordStream.visit, RecordStream.visit, version]
  cases Visitor.onOpen second.version (Recorder.mk visitor []) with
  | mk opened answer =>
    cases answer with
    | error error => rfl
    | ok =>
      obtain ⟨last, taken⟩ := Visitor.deliver_plain first.records opened
      obtain ⟨last', taken'⟩ := Visitor.deliver_plain second.records opened
      rw [plain] at taken
      rcases taken with ⟨whole, same⟩ | ⟨error, met, whole, same⟩ <;>
        rcases taken' with ⟨whole', same'⟩ | ⟨error', met', whole', same'⟩ <;>
        rw [same] at same' <;> cases same'
      · simp only [whole, whole', onClose_eq, note, Visitor.beforeClosing_closed]
      · simp only [whole, whole', onClose_eq, note, Visitor.beforeClosing_closed]

namespace Segment

theorem fst_scanInto {υ : Type} [Visitor υ] {mode : ScanMode} {config : Config} {bytes : List UInt8}
    {found : Scan} (scanned : scan mode config bytes = .ok found) (visitor : υ) :
    (scanInto mode config bytes visitor).1 = (found.stream.visit visitor).1 := by
  rw [scanInto, scanned]
  simp only [Scan.visit]
  split <;> simp [*]

theorem beforeClosing_scanInto {υ : Type} [Visitor υ] {mode : ScanMode} {config : Config}
    {bytes bytes' : List UInt8} {found found' : Scan} (scanned : scan mode config bytes = .ok found)
    (scanned' : scan mode config bytes' = .ok found') (version : found.version = found'.version)
    (records : found.records = found'.records) (visitor : υ) :
    Visitor.beforeClosing (scanInto mode config bytes (Recorder.mk visitor [])).1.calls =
      Visitor.beforeClosing (scanInto mode config bytes' (Recorder.mk visitor [])).1.calls := by
  rw [fst_scanInto scanned, fst_scanInto scanned']
  apply Recorder.beforeClosing_visit version
  rw [found.records_stream, found'.records_stream, records]

theorem layout_of_unsupported {version : LayoutVersion} (unsupported : version.isSupported = false)
    (rest : List UInt8) :
    layout .recovery (.ofList (version.header ++ rest)) =
      .ok (.current, some (.unsupportedVersion version)) := by
  simp [layout, LayoutVersion.ofHeader?_append, unsupported]

theorem scan_of_unsupported {version : LayoutVersion} (unsupported : version.isSupported = false)
    {config : Config} {rest : List UInt8} {events : List ScanEvent} {marked : Bool}
    (trace : ScanRules.Trace ⟨.recovery, .current, config.requireEndMarker, config.resync⟩
      LayoutVersion.headerSize none (.ofList rest) events marked) :
    scan .recovery config (version.header ++ rest) =
      .ok ⟨.recovery, .current, some (.unsupportedVersion version), events, marked⟩ := by
  refine scan_eq_ok.mpr ⟨layout_of_unsupported unsupported rest, rfl, ?_⟩
  rw [List.length_append, version.length_header, Nat.min_eq_left (Nat.le_add_right ..),
    List.drop_left' version.length_header]
  exact trace

theorem spans_eq_nil (scan : Scan) : scan.spans = [] ↔ scan.records = [] := by
  simp only [Scan.spans, Scan.records, List.filterMap_eq_nil_iff]
  refine forall₂_congr fun event _ => ?_
  cases event <;> simp

theorem trustedEnd_of_headerFault (mode : ScanMode) (version : LayoutVersion) (fault : DecodeFault)
    (events : List ScanEvent) (marked : Bool) :
    let whole : Scan := ⟨mode, version, none, events, marked⟩
    Scan.trustedEnd ⟨mode, version, some fault, events, marked⟩ =
      if whole.records = [] then 0 else whole.trustedEnd := by
  intro whole
  have same : Scan.spans ⟨mode, version, some fault, events, marked⟩ = whole.spans := rfl
  simp only [← spans_eq_nil, Scan.trustedEnd, same]
  cases stops : whole.spans.getLast? with
  | none =>
    rw [if_pos (List.getLast?_eq_none_iff.mp stops)]
    rfl
  | some last =>
    have filled : whole.spans ≠ [] := by
      intro empty
      rw [empty] at stops
      contradiction
    rw [if_neg filled]

/-- Whatever four bytes stand for the header, and whatever stands behind them, the records behind a
header that cannot be read are those behind a header of the current layout. -/
theorem unreadable_header_costs_no_records {header : List UInt8}
    (length : header.length = LayoutVersion.headerSize)
    (unreadable : LayoutVersion.readable header = false) (config : Config) (rest : List UInt8) :
    ∃ version damaged whole, LayoutVersion.ofHeader? header = some version ∧
      scan .recovery config (header ++ rest) = .ok damaged ∧
      scan .recovery config (LayoutVersion.checksummed.header ++ rest) = .ok whole ∧
      (damaged.version = .checksummed ∧ whole.version = .checksummed) ∧
      (damaged.records = whole.records ∧ damaged.skipped = whole.skipped ∧
        damaged.lastTxid = whole.lastTxid ∧ damaged.cleanlyClosed = whole.cleanlyClosed) ∧
      (damaged.recoveryInvoked = true ∧
        damaged.firstError = some ⟨0, .unsupportedVersion version⟩) ∧
      damaged.trustedEnd = (if whole.records = [] then 0 else whole.trustedEnd) ∧
      ∀ {υ : Type} [Visitor υ] (visitor : υ),
        Visitor.beforeClosing
            (scanInto .recovery config (header ++ rest) (Recorder.mk visitor [])).1.calls =
          Visitor.beforeClosing (scanInto .recovery config
            (LayoutVersion.checksummed.header ++ rest) (Recorder.mk visitor [])).1.calls := by
  obtain ⟨version, named, rfl⟩ := LayoutVersion.ofHeader?_of_length length
  have unsupported : version.isSupported = false := by
    rwa [LayoutVersion.readable, named] at unreadable
  -- Behind the header both scans walk over the same bytes under the same rules.
  obtain ⟨events, marked, trace⟩ := ScanRules.exists_trace
    ⟨.recovery, .current, config.requireEndMarker, config.resync⟩ LayoutVersion.headerSize none
    (.ofList rest)
  have damaged := scan_of_unsupported unsupported trace
  have whole := scan_of_trace (show LayoutVersion.current.isSupported = true by decide) trace
  exact ⟨version, _, _, named, damaged, whole, ⟨rfl, rfl⟩, ⟨rfl, rfl, rfl, rfl⟩, ⟨rfl, rfl⟩,
    trustedEnd_of_headerFault .., beforeClosing_scanInto damaged whole rfl rfl⟩

theorem unreadable_header_costs_no_records_flipped :
    ∃ damaged whole,
      scan .recovery .standard
        [0xFF, 0xFF, 0xFF, 0x58, 0x18, 0, 0, 0, 0, 0, 0, 0, 0, 0, 0, 0, 2, 0x0F, 0x7E, 0x52, 0x19,
          0x63, 0xFF] = .ok damaged ∧
      scan .recovery .standard
        [0xFF, 0xFF, 0xFF, 0xD8, 0x18, 0, 0, 0, 0, 0, 0, 0, 0, 0, 0, 0, 2, 0x0F, 0x7E, 0x52, 0x19,
          0x63, 0xFF] = .ok whole ∧
      whole.records = [⟨2, .startSegment⟩] ∧ whole.skipped = [(21, 22)] ∧
      damaged.records = [⟨2, .startSegment⟩] ∧ damaged.skipped = [(21, 22)] ∧
      damaged.trustedEnd = 21 ∧
      damaged.firstError = some ⟨0, .unsupportedVersion ⟨-168⟩⟩ := by
  obtain ⟨version, damaged, whole, named, scanned, scanned', -, ⟨records, skipped, -⟩, ⟨-, error⟩,
    trusted, -⟩ := unreadable_header_costs_no_records
      (show ([0xFF, 0xFF, 0xFF, 0x58] : List UInt8).length = LayoutVersion.headerSize from rfl)
      (by decide) .standard
      [0x18, 0, 0, 0, 0, 0, 0, 0, 0, 0, 0, 0, 2, 0x0F, 0x7E, 0x52, 0x19, 0x63, 0xFF]
  have known : (scan .recovery .standard (LayoutVersion.checksummed.header ++
      [0x18, 0, 0, 0, 0, 0, 0, 0, 0, 0, 0, 0, 2, 0x0F, 0x7E, 0x52, 0x19, 0x63, 0xFF])).map
        (fun whole => (whole.records, whole.skipped, whole.trustedEnd)) =
      .ok ([⟨2, .startSegment⟩], [(21, 22)], 21) := by
    decide +kernel
  rw [scanned'] at known
  obtain ⟨records', known⟩ := Prod.mk.inj (Except.ok.inj known)
  obtain ⟨skipped', trusted'⟩ := Prod.mk.inj known
  obtain rfl : version = ⟨-168⟩ := Option.some.inj (named.symm.trans (by decide))
  rw [records', if_neg (List.cons_ne_nil _ _), trusted'] at trusted
  exact ⟨damaged, whole, scanned, scanned', records', skipped', records.trans records',
    skipped.trans skipped', trusted, error⟩

end Segment

end Journal
