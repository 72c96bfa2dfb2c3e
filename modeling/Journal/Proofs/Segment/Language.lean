import Journal.Proofs.Outcome
import Journal.Proofs.Segment.Trace
import Journal.Proofs.Visitor

set_option autoImplicit false

namespace Journal.Segment

def bytesOf (version : LayoutVersion) (records : List Record) (fill : Nat) :
    Except Error (List UInt8) := do
  let encodings ← records.mapM (·.encode version)
  return version.header ++ encodings.flatten ++ List.replicate fill Opcode.fillByte

/-- Segments as they are meant to be: of a supported layout, with ids that never descend. -/
structure Written (version : LayoutVersion) (records : List Record) (fill : Nat)
    (bytes : List UInt8) : Prop where
  supported : version.isSupported = true
  ordered : records.Pairwise (·.txid ≤ ·.txid)
  formed : bytesOf version records fill = .ok bytes

theorem exists_bytesOf {version : LayoutVersion} {records : List Record}
    (fit : ∀ record ∈ records, ∃ encoding, record.encode version = .ok encoding) (fill : Nat) :
    ∃ bytes, bytesOf version records fill = .ok bytes := by
  obtain ⟨encodings, mapped⟩ := exists_mapM_eq_ok fit
  exact ⟨_, by rw [bytesOf, mapped, ok_bind]; rfl⟩

theorem bytesOf_around {version : LayoutVersion} {before after : List Record} {record : Record}
    {fill : Nat} {bytes : List UInt8}
    (formed : bytesOf version (before ++ record :: after) fill = .ok bytes) :
    ∃ front encoding rest, bytesOf version before 0 = .ok front ∧
      record.encode version = .ok encoding ∧ bytes = front ++ (encoding ++ rest) := by
  obtain ⟨encodings, mapped, joined⟩ := bind_eq_ok.mp formed
  rw [List.mapM_append] at mapped
  obtain ⟨front, earlier, others⟩ := bind_eq_ok.mp mapped
  obtain ⟨_, mapped, both⟩ := bind_eq_ok.mp others
  obtain ⟨encoding, later, encoded, -, rfl⟩ := mapM_cons_eq_ok.mp mapped
  refine ⟨version.header ++ front.flatten, encoding,
    later.flatten ++ List.replicate fill Opcode.fillByte, ?_, encoded, ?_⟩
  · rw [bytesOf, earlier, ok_bind]
    exact congrArg Except.ok (List.append_nil _)
  · rw [← pure_eq_ok.mp joined, ← pure_eq_ok.mp both]
    simp only [List.flatten_append, List.flatten_cons, List.append_assoc]

theorem laid_iff {version : LayoutVersion} {last : Option UInt64} {records : List Record}
    {bytes : List UInt8} :
    Laid version last records bytes ↔
      (∀ record ∈ records, follows last record.txid = true) ∧
        records.Pairwise (·.txid ≤ ·.txid) ∧
        ∃ encodings, records.mapM (·.encode version) = .ok encodings ∧
          bytes = encodings.flatten := by
  induction records generalizing last bytes with
  | nil =>
    constructor
    · intro laid
      cases laid
      exact ⟨by simp, .nil, [], rfl, rfl⟩
    · rintro ⟨-, -, encodings, mapped, rfl⟩
      cases mapped
      exact .nil
  | cons record records ih =>
    constructor
    · intro laid
      cases laid with
      | cons encoded later laid =>
        obtain ⟨after, ordered, encodings, mapped, rfl⟩ := ih.mp laid
        refine ⟨?_, ?_, _ :: encodings, ?_, rfl⟩
        · intro other member
          rcases List.mem_cons.mp member with rfl | member
          · exact later
          · exact follows_trans later (after other member)
        · refine List.pairwise_cons.mpr ⟨fun other member => ?_, ordered⟩
          exact of_decide_eq_true (after other member)
        · rw [List.mapM_cons, encoded, ok_bind, mapped, ok_bind]
          rfl
    · rintro ⟨follow, ordered, encodings, mapped, rfl⟩
      obtain ⟨after, ordered⟩ := List.pairwise_cons.mp ordered
      rw [List.mapM_cons, bind_eq_ok] at mapped
      obtain ⟨encoding, encoded, joined⟩ := mapped
      obtain ⟨following, mapped, joined⟩ := bind_eq_ok.mp joined
      rw [← pure_eq_ok.mp joined]
      refine .cons encoded (follow record List.mem_cons_self) (ih.mpr ⟨?_, ordered, _, mapped, rfl⟩)
      exact fun other member => decide_eq_true (after other member)

theorem written_iff {version : LayoutVersion} {records : List Record} {fill : Nat}
    {bytes : List UInt8} :
    Written version records fill bytes ↔
      version.isSupported = true ∧ ∃ laid, Laid version none records laid ∧
        bytes = version.header ++ laid ++ List.replicate fill Opcode.fillByte := by
  constructor
  · rintro ⟨supported, ordered, formed⟩
    obtain ⟨encodings, mapped, joined⟩ := bind_eq_ok.mp formed
    refine ⟨supported, _, laid_iff.mpr ⟨fun _ _ => rfl, ordered, _, mapped, rfl⟩, ?_⟩
    exact (pure_eq_ok.mp joined).symm
  · rintro ⟨supported, bytes, laid, rfl⟩
    obtain ⟨-, ordered, encodings, mapped, rfl⟩ := laid_iff.mp laid
    refine ⟨supported, ordered, ?_⟩
    rw [bytesOf, mapped, ok_bind]
    rfl

theorem Written.around {version : LayoutVersion} {before after : List Record} {record : Record}
    {fill : Nat} {bytes : List UInt8}
    (written : Written version (before ++ record :: after) fill bytes) :
    ∃ front encoding later, Laid version none before front ∧
      record.encode version = .ok encoding ∧ Laid version (latest none before) after later ∧
      bytes = version.header ++ front ++
        (encoding ++ (later ++ List.replicate fill Opcode.fillByte)) := by
  obtain ⟨-, _, laid, rfl⟩ := written_iff.mp written
  obtain ⟨front, _, rfl, earlier, others⟩ := laid_append.mp laid
  cases others with
  | cons encoded follow onward =>
    refine ⟨front, _, _, earlier, encoded, onward.weaken fun _ => follows_trans follow, ?_⟩
    simp only [List.append_assoc]

def strictWalk (version : LayoutVersion) (config : Config) (bytes : List UInt8) :
    Array ScanEvent × Bool :=
  ScanRules.walk ⟨.strict, version, config.requireEndMarker, config.resync⟩
    LayoutVersion.headerSize none #[]
    (.ofInput (Input.drop LayoutVersion.headerSize (.ofList bytes)))

theorem scan_strict_eq_ok {config : Config} {bytes : List UInt8} {found : Scan} :
    scan .strict config bytes = .ok found ↔
      ∃ version, LayoutVersion.ofHeader? bytes = some version ∧ version.isSupported = true ∧
        found = ⟨.strict, version, none, (strictWalk version config bytes).1.toList,
          (strictWalk version config bytes).2⟩ := by
  have whole : (Input.ofList bytes).bytes = bytes := rfl
  rw [scan, layout, whole]
  cases read : LayoutVersion.ofHeader? bytes with
  | none => simp [bind, Except.bind]
  | some version =>
    by_cases supported : version.isSupported = true
    · have start : min LayoutVersion.headerSize bytes.length = LayoutVersion.headerSize := by
        have length := congrArg List.length (LayoutVersion.header_of_ofHeader? read)
        rw [List.length_append, version.length_header] at length
        omega
      simp only [supported, if_true, ok_bind, Input.ofList, start, pure_eq_ok, Option.some.injEq]
      constructor
      · intro same
        subst same
        exact ⟨version, rfl, supported, rfl⟩
      · rintro ⟨_, rfl, -, rfl⟩
        rfl
    · simp [supported, bind, Except.bind]

def cleanScan (version : LayoutVersion) (records : List Record) (fill : Nat) : Scan :=
  ⟨.strict, version, none, emissions version LayoutVersion.headerSize records, decide (1 ≤ fill)⟩

theorem scan_of_written {version : LayoutVersion} {records : List Record} {fill : Nat}
    {bytes : List UInt8} (written : Written version records fill bytes) {config : Config}
    (enough : config.requireEndMarker = true → 1 ≤ fill) :
    scan .strict config bytes = .ok (cleanScan version records fill) := by
  obtain ⟨supported, laid, stands, rfl⟩ := written_iff.mp written
  rw [List.append_assoc]
  have body : (Remainder.ofInput (Input.drop LayoutVersion.headerSize (.ofList
      (version.header ++ (laid ++ List.replicate fill Opcode.fillByte))))).bytes =
      laid ++ List.replicate fill Opcode.fillByte :=
    List.drop_left' version.length_header
  refine scan_strict_eq_ok.mpr ⟨version, LayoutVersion.ofHeader?_append .., supported, ?_⟩
  rw [strictWalk, walk_of_laid stands rfl enough body]
  simp [cleanScan]

theorem written_of_scan {config : Config} {bytes : List UInt8} {found : Scan}
    (scanned : scan .strict config bytes = .ok found) (unfailed : found.firstError = none) :
    ∃ version records fill, Written version records fill bytes ∧
      (config.requireEndMarker = true → 1 ≤ fill) := by
  obtain ⟨version, headed, supported, rfl⟩ := scan_strict_eq_ok.mp scanned
  let rules : ScanRules := ⟨.strict, version, config.requireEndMarker, config.resync⟩
  rcases laid_of_walk (show rules.mode = .strict from rfl)
    LayoutVersion.headerSize none #[]
    (.ofInput (Input.drop LayoutVersion.headerSize (.ofList bytes))) with
    ⟨error, member⟩ | ⟨records, laid, fill, stands, body, enough⟩
  · have known : error ∈ Scan.failures ⟨.strict, version, none,
        (strictWalk version config bytes).1.toList, (strictWalk version config bytes).2⟩ :=
      List.mem_filterMap.mpr ⟨_, member, rfl⟩
    have empty := List.head?_eq_none_iff.mp unfailed
    rw [empty] at known
    contradiction
  · refine ⟨version, records, fill, written_iff.mpr ⟨supported, laid, stands, ?_⟩, enough⟩
    rw [List.append_assoc, ← show bytes.drop LayoutVersion.headerSize = _ from body]
    exact LayoutVersion.header_of_ofHeader? headed

theorem scan_of_closed {version : LayoutVersion} {records : List Record} {fill : Nat}
    {bytes : List UInt8} (written : Written version records (fill + 1) bytes) (mode : ScanMode)
    (config : Config) :
    scan mode config bytes = .ok { cleanScan version records (fill + 1) with mode := mode } := by
  obtain ⟨supported, laid, stands, rfl⟩ := written_iff.mp written
  let rules : ScanRules := ⟨mode, version, config.requireEndMarker, config.resync⟩
  have trace : rules.Trace LayoutVersion.headerSize none
      (.ofList (laid ++ List.replicate (fill + 1) Opcode.fillByte))
      (emissions version LayoutVersion.headerSize records ++ []) (decide (1 ≤ fill + 1)) :=
    stands.trace rfl rfl (trace_of_fill (fun _ _ => Nat.le_add_left ..) _ _)
  rw [List.append_nil] at trace
  rw [List.append_assoc]
  exact scan_of_trace supported trace

theorem written_of_emitted {mode : ScanMode} {config : Config} {bytes : List UInt8} {found : Scan}
    (scanned : scan mode config bytes = .ok found) :
    ∃ copy, Written found.version found.records 0 copy := by
  obtain ⟨_, -, trace⟩ := trace_of_scan scanned
  obtain ⟨laid, stands⟩ := laid_emitted trace
  exact ⟨_, written_iff.mpr ⟨supported_of_scan scanned, laid, stands, rfl⟩⟩

theorem ordered_of_scan {mode : ScanMode} {config : Config} {bytes : List UInt8} {found : Scan}
    (scanned : scan mode config bytes = .ok found) :
    found.records.Pairwise (·.txid ≤ ·.txid) := by
  obtain ⟨copy, written⟩ := written_of_emitted scanned
  exact written.ordered

theorem records_cleanScan (version : LayoutVersion) (records : List Record) (fill : Nat) :
    (cleanScan version records fill).records = records :=
  emitted_emissions version LayoutVersion.headerSize records

theorem written_of_unfailed {config : Config} {bytes : List UInt8} {found : Scan}
    (scanned : scan .strict config bytes = .ok found) (unfailed : found.firstError = none) :
    ∃ fill, Written found.version found.records fill bytes ∧
      (config.requireEndMarker = true → 1 ≤ fill) ∧
      found = cleanScan found.version found.records fill := by
  obtain ⟨version, records, fill, written, enough⟩ := written_of_scan scanned unfailed
  obtain rfl : cleanScan version records fill = found :=
    Except.ok.inj ((scan_of_written written enough).symm.trans scanned)
  rw [records_cleanScan]
  exact ⟨fill, written, enough, rfl⟩

theorem firstError_cleanScan (version : LayoutVersion) (records : List Record) (fill : Nat) :
    (cleanScan version records fill).firstError = none := by
  have unfailed : (cleanScan version records fill).failures = [] :=
    filterMap_emissions (fun _ _ _ => rfl) version LayoutVersion.headerSize records
  rw [Scan.firstError, unfailed]
  rfl

theorem end_of_spans {version : LayoutVersion} {last : Option UInt64} {records : List Record}
    {bytes : List UInt8} (laid : Laid version last records bytes) (start : Nat) (closed : Bool) :
    ((Scan.spans ⟨.strict, version, none, emissions version start records, closed⟩).getLast?.map
      Prod.snd).getD start = start + bytes.length := by
  induction laid generalizing start with
  | nil => rfl
  | @cons _ record records _ _ encoded _ _ ih =>
    let stop := start + Record.encodedLength record.operation.body.length version
    have first : Scan.spans ⟨.strict, version, none, emissions version start (record :: records),
        closed⟩ = (start, stop) ::
          Scan.spans ⟨.strict, version, none, emissions version stop records, closed⟩ := rfl
    rw [List.length_append, Record.length_encode encoded, ← Nat.add_assoc, ← ih, first,
      List.getLast?_cons]
    cases List.getLast? _ <;> rfl

theorem trustedEnd_cleanScan {version : LayoutVersion} {records : List Record}
    {bytes : List UInt8} (laid : Laid version none records bytes) (fill : Nat) :
    (cleanScan version records fill).trustedEnd = LayoutVersion.headerSize + bytes.length := by
  rw [← end_of_spans laid _ (decide (1 ≤ fill)), Scan.trustedEnd, cleanScan]
  cases Scan.spans _ |>.getLast? <;> rfl

def stoppedScan (version : LayoutVersion) (records : List Record) (fault : DecodeFault) : Scan :=
  ⟨.strict, version, none, emissions version LayoutVersion.headerSize records ++
    [.failed ⟨offsetAfter version records, fault⟩], false⟩

section Stopped

variable (version : LayoutVersion) (records : List Record) (fault : DecodeFault)

theorem records_stoppedScan : (stoppedScan version records fault).records = records := by
  have taken := emitted_emissions version LayoutVersion.headerSize records
  rw [Scan.records, stoppedScan, List.filterMap_append]
  exact (List.append_nil _).trans taken

theorem failures_stoppedScan :
    (stoppedScan version records fault).failures = [⟨offsetAfter version records, fault⟩] := by
  rw [Scan.failures, stoppedScan, List.filterMap_append]
  simp only [filterMap_emissions, implies_true, List.nil_append]
  rfl

theorem firstError_stoppedScan :
    (stoppedScan version records fault).firstError = some ⟨offsetAfter version records, fault⟩ := by
  rw [Scan.firstError, failures_stoppedScan]
  rfl

theorem trustedEnd_stoppedScan {version : LayoutVersion} {records : List Record}
    {bytes : List UInt8} (laid : Laid version none records bytes) (fault : DecodeFault) :
    (stoppedScan version records fault).trustedEnd = offsetAfter version records := by
  have spans : (stoppedScan version records fault).spans = (cleanScan version records 0).spans := by
    rw [Scan.spans, stoppedScan, List.filterMap_append]
    exact List.append_nil _
  have trusted := trustedEnd_cleanScan laid 0
  rw [← version.length_header, ← List.length_append, laid.offset] at trusted
  rw [← trusted, Scan.trustedEnd, Scan.trustedEnd, spans]
  rfl

end Stopped

theorem scan_of_failure {version : LayoutVersion} (supported : version.isSupported = true)
    {records : List Record} {front tail : List UInt8} (laid : Laid version none records front)
    {config : Config} {fault : DecodeFault}
    (read : ScanRules.read ⟨.strict, version, config.requireEndMarker, config.resync⟩
      (latest none records) (.ofList tail) = .failure fault) :
    scan .strict config (version.header ++ front ++ tail) =
      .ok (stoppedScan version records fault) := by
  have stop := @ScanRules.Trace.stopped ⟨.strict, version, config.requireEndMarker, config.resync⟩
    (LayoutVersion.headerSize + front.length) _ _ _ rfl read
  have scanned := scan_of_trace supported (laid.trace rfl rfl stop)
  rwa [← List.append_assoc, laid.stop] at scanned

theorem Written.length {version : LayoutVersion} {records : List Record} {fill : Nat}
    {bytes : List UInt8} (written : Written version records fill bytes) :
    (cleanScan version records fill).trustedEnd + fill = bytes.length := by
  obtain ⟨-, laid, stands, rfl⟩ := written_iff.mp written
  rw [trustedEnd_cleanScan stands, List.length_append, List.length_append, version.length_header,
    List.length_replicate]

theorem Written.length_eq {version : LayoutVersion} {records : List Record} {fill : Nat}
    {bytes : List UInt8} (written : Written version records fill bytes) :
    bytes.length = offsetAfter version records + fill := by
  obtain ⟨-, laid, stands, rfl⟩ := written_iff.mp written
  rw [List.length_append, stands.offset, List.length_replicate]

theorem Written.trustedEnd {version : LayoutVersion} {records : List Record} {fill : Nat}
    {bytes : List UInt8} (written : Written version records fill bytes) :
    (cleanScan version records fill).trustedEnd = offsetAfter version records :=
  Nat.add_right_cancel (written.length.trans written.length_eq)

theorem Written.take {version : LayoutVersion} {before after : List Record} {fill : Nat}
    {bytes : List UInt8} (written : Written version (before ++ after) fill bytes) :
    Written version before 0 (bytes.take (offsetAfter version before)) := by
  obtain ⟨supported, _, laid, rfl⟩ := written_iff.mp written
  obtain ⟨front, back, rfl, earlier, -⟩ := laid_append.mp laid
  refine written_iff.mpr ⟨supported, front, earlier, ?_⟩
  rw [← earlier.offset, ← List.append_assoc, List.append_assoc, List.take_left]
  exact (List.append_nil _).symm

theorem Written.unique {version version' : LayoutVersion} {records records' : List Record}
    {fill fill' : Nat} {bytes : List UInt8} (written : Written version records fill bytes)
    (again : Written version' records' fill' bytes) :
    version' = version ∧ records' = records ∧ fill' = fill := by
  let free : Config := { Config.standard with requireEndMarker := false }
  have same : cleanScan version' records' fill' = cleanScan version records fill := by
    have required : free.requireEndMarker ≠ true := by simp [free]
    have scanned := scan_of_written written fun marked => absurd marked required
    rw [scan_of_written again fun marked => absurd marked required] at scanned
    exact Except.ok.inj scanned
  refine ⟨congrArg Scan.version same, ?_, ?_⟩
  · have records := congrArg Scan.records same
    rwa [records_cleanScan, records_cleanScan] at records
  · have trusted := congrArg Scan.trustedEnd same
    have := written.length
    have := again.length
    omega

theorem stream_cleanScan (version : LayoutVersion) (records : List Record) (fill : Nat) :
    (cleanScan version records fill).stream = ⟨version, records.map (none, ·), none⟩ := by
  have deliveries (start : Nat) :
      Scan.deliveries none (emissions version start records) = records.map (none, ·) := by
    induction records generalizing start with
    | nil => rfl
    | cons record records ih => rw [emissions, Scan.deliveries, ih, List.map_cons]
  rw [Scan.stream, firstError_cleanScan, ← deliveries]
  rfl

theorem scanInto_of_written {υ : Type} [Visitor υ] {visitor : υ} (accepts : Visitor.Accepts visitor)
    {version : LayoutVersion} {records : List Record} {fill : Nat} {bytes : List UInt8}
    (written : Written version records fill bytes) {config : Config}
    (enough : config.requireEndMarker = true → 1 ≤ fill) :
    scanInto .strict config bytes visitor =
      ((Visitor.onClose none (Visitor.fed version records visitor)).1,
        .ok (cleanScan version records fill)) := by
  have visited := scanInto_of_scan accepts (scan_of_written written enough)
  rwa [firstError_cleanScan, records_cleanScan] at visited

theorem readAll_of_written {version : LayoutVersion} {records : List Record} {fill : Nat}
    {bytes : List UInt8} (written : Written version records fill bytes) {config : Config}
    (enough : config.requireEndMarker = true → 1 ≤ fill) :
    readAll .strict config bytes = .ok (records, cleanScan version records fill) := by
  rw [readAll_of_scan (scan_of_written written enough), records_cleanScan]

/-- A visitor that never fails is handed the records of a written segment, and no other byte string
is scanned without a failure. -/
theorem strict_scan_exact {υ : Type} [Visitor υ] (config : Config) (bytes : List UInt8)
    (visitor : υ) (accepts : Visitor.Accepts visitor) :
    ((∃ scan, (scanInto .strict config bytes visitor).2 = .ok scan ∧ scan.firstError = none) ↔
      ∃ version records fill, Written version records fill bytes ∧
        (config.requireEndMarker = true → 1 ≤ fill)) ∧
    ∀ version records fill, Written version records fill bytes →
      (config.requireEndMarker = true → 1 ≤ fill) →
        (∀ version' records' fill', Written version' records' fill' bytes →
          version' = version ∧ records' = records ∧ fill' = fill) ∧
        ∃ scan, scanInto .strict config bytes visitor =
            ((Visitor.onClose none (Visitor.fed version records visitor)).1, .ok scan) ∧
          scan.firstError = none ∧ scan.version = version ∧ scan.records = records ∧
          scan.trustedEnd = bytes.length - fill ∧
          scan.lastTxid = records.getLast?.map (·.txid) ∧
          (scan.cleanlyClosed = true ↔ 1 ≤ fill) := by
  constructor
  · constructor
    · rintro ⟨found, taken, unfailed⟩
      rw [scanInto] at taken
      cases scanned : scan .strict config bytes with
      | error error => rw [scanned] at taken; contradiction
      | ok known =>
        rw [scanned] at taken
        have same := Scan.visit_eq_ok taken
        subst same
        exact written_of_scan scanned unfailed
    · rintro ⟨version, records, fill, written, enough⟩
      exact ⟨_, congrArg Prod.snd (scanInto_of_written accepts written enough),
        firstError_cleanScan ..⟩
  · intro version records fill written enough
    refine ⟨fun _ _ _ again => written.unique again, cleanScan version records fill,
      scanInto_of_written accepts written enough, firstError_cleanScan .., rfl,
      records_cleanScan .., ?_, ?_, decide_eq_true_iff⟩
    · have := written.length
      omega
    · rw [Scan.lastTxid, records_cleanScan]

theorem strict_scan_exact_boundary :
    ∃ scan, scanInto .strict .standard
        [0xFF, 0xFF, 0xFF, 0xDA, 0x18, 0, 0, 0, 0, 0, 0, 0, 0, 0, 0, 0, 7, 0xFF, 0xFF]
        Collection.empty =
      (⟨some .unchecksummed, #[⟨7, .startSegment⟩]⟩, .ok scan) ∧
        scan.trustedEnd = 17 ∧ scan.cleanlyClosed = true := by
  have written : Written .unchecksummed [⟨7, .startSegment⟩] 2
      [0xFF, 0xFF, 0xFF, 0xDA, 0x18, 0, 0, 0, 0, 0, 0, 0, 0, 0, 0, 0, 7, 0xFF, 0xFF] :=
    ⟨by decide, by simp, rfl⟩
  obtain ⟨-, scan, scanned, -, -, -, trusted, -, closed⟩ :=
    (strict_scan_exact .standard _ Collection.empty (Collection.accepts _)).2 _ _ _ written
      (by decide)
  exact ⟨scan, scanned, trusted, closed.mpr (by decide)⟩

end Journal.Segment
