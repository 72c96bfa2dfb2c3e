import Journal.Proofs.Segment.Trace
import Journal.Visitor

set_option autoImplicit false

namespace Journal

namespace Visitor

variable {υ : Type} [Visitor υ]

def Accepts (visitor : υ) : Prop := ∀ stream : RecordStream, (stream.visit visitor).2 = .ok ()

def fed (version : LayoutVersion) (records : List Record) (visitor : υ) : υ :=
  records.foldl (fun visitor record => (consume record visitor).1) (onOpen version visitor).1

theorem deliver_none {deliveries : List (Option DecodeError × Record)} {visitor : υ}
    (taken : (RecordStream.deliver deliveries visitor).2 = none) :
    (RecordStream.deliver deliveries visitor).1 =
      (deliveries.map Prod.snd).foldl (fun visitor record => (consume record visitor).1) visitor := by
  induction deliveries generalizing visitor with
  | nil => rfl
  | cons delivery rest ih =>
    obtain ⟨met, record⟩ := delivery
    rw [RecordStream.deliver] at taken ⊢
    cases consumed : consume record visitor with
    | mk next outcome =>
      rw [consumed] at taken
      cases outcome with
      | error error => contradiction
      | ok => simpa [consumed] using ih taken

theorem visit_eq_ok {stream : RecordStream} {visitor : υ}
    (taken : (stream.visit visitor).2 = .ok ()) :
    (stream.visit visitor).1 =
      (onClose stream.firstError (fed stream.version (stream.records.map Prod.snd) visitor)).1 := by
  rw [RecordStream.visit] at taken ⊢
  cases opened : onOpen stream.version visitor with
  | mk next outcome =>
    rw [opened] at taken
    cases outcome with
    | error error => contradiction
    | ok =>
      simp only at taken ⊢
      cases delivered : RecordStream.deliver stream.records next with
      | mk last refusal =>
        rw [delivered] at taken
        cases refusal with
        | some refusal => contradiction
        | none =>
          have folded := deliver_none (congrArg Prod.snd delivered)
          rw [delivered] at folded
          rw [fed, opened, ← folded]

theorem Accepts.visit {visitor : υ} (accepts : Accepts visitor) (stream : RecordStream) :
    stream.visit visitor =
      ((onClose stream.firstError (fed stream.version (stream.records.map Prod.snd) visitor)).1,
        .ok ()) :=
  Prod.ext (visit_eq_ok (accepts stream)) (accepts stream)

theorem accepts_of_ok (opens : ∀ version (visitor : υ), (onOpen version visitor).2 = .ok ())
    (consumes : ∀ record (visitor : υ), (consume record visitor).2 = .ok ())
    (closes : ∀ met (visitor : υ), (onClose met visitor).2 = .ok ()) (visitor : υ) :
    Accepts visitor := by
  have taken (deliveries : List (Option DecodeError × Record)) (opened : υ) :
      (RecordStream.deliver deliveries opened).2 = none := by
    induction deliveries generalizing opened with
    | nil => rfl
    | cons delivery rest ih =>
      obtain ⟨met, record⟩ := delivery
      have consumed := consumes record opened
      rw [RecordStream.deliver]
      split
      · exact ih _
      · next refused =>
        rw [refused] at consumed
        contradiction
  intro stream
  have opened := opens stream.version visitor
  rw [RecordStream.visit]
  split
  · next refused =>
    rw [refused] at opened
    contradiction
  · next opened _ =>
    have unrefused := taken stream.records opened
    split
    · exact closes ..
    · next refused =>
      rw [refused] at unrefused
      contradiction

def Heedless (υ : Type) [Visitor υ] : Prop :=
  ∀ (met met' : Option DecodeError) (visitor : υ), onClose met visitor = onClose met' visitor

theorem deliver_plain (deliveries : List (Option DecodeError × Record)) (visitor : υ) :
    ∃ after, (RecordStream.deliver deliveries visitor = (after, none) ∧
        RecordStream.deliver (deliveries.map fun delivery => (none, delivery.2)) visitor =
          (after, none)) ∨
      ∃ error met, RecordStream.deliver deliveries visitor = (after, some (error, met)) ∧
        RecordStream.deliver (deliveries.map fun delivery => (none, delivery.2)) visitor =
          (after, some (error, none)) := by
  induction deliveries generalizing visitor with
  | nil => exact ⟨visitor, .inl ⟨rfl, rfl⟩⟩
  | cons delivery rest ih =>
    obtain ⟨met, record⟩ := delivery
    rw [List.map_cons, RecordStream.deliver, RecordStream.deliver]
    cases consume record visitor with
    | mk next outcome =>
      cases outcome with
      | error error => exact ⟨next, .inr ⟨error, met, rfl, rfl⟩⟩
      | ok => exact ih next

theorem visit_plain (heedless : Heedless υ) (stream : RecordStream) (visitor : υ) :
    stream.visit visitor =
      RecordStream.visit
        ⟨stream.version, stream.records.map fun delivery => (none, delivery.2), none⟩ visitor := by
  rw [RecordStream.visit, RecordStream.visit]
  cases onOpen stream.version visitor with
  | mk opened outcome =>
    cases outcome with
    | error error => rfl
    | ok =>
      obtain ⟨last, ⟨whole, plain⟩ | ⟨error, met, whole, plain⟩⟩ :=
        deliver_plain stream.records opened
      · simp only [whole, plain]
        exact heedless ..
      · simp only [whole, plain, heedless met none]

end Visitor

theorem Scan.visit_eq_ok {υ : Type} [Visitor υ] {scan found : Scan} {visitor : υ}
    (taken : (scan.visit visitor).2 = .ok found) : scan = found := by
  rw [visit] at taken
  split at taken
  · exact Except.ok.inj taken
  · contradiction

theorem Collection.accepts (collection : Collection) : Visitor.Accepts collection :=
  Visitor.accepts_of_ok (fun _ _ => rfl) (fun _ _ => rfl) (fun _ _ => rfl) collection

theorem Collection.records_fed (version : LayoutVersion) (records : List Record)
    (met : Option DecodeError) :
    Collection.records (Visitor.onClose met (Visitor.fed version records Collection.empty)).1 =
      records := by
  have pushed (start : Collection) :
      (records.foldl (fun collection record => (Visitor.consume record collection).1) start).records =
        start.records ++ records := by
    induction records generalizing start with
    | nil => exact (List.append_nil _).symm
    | cons record records ih =>
      rw [List.foldl_cons, ih, Collection.records, Collection.records]
      simp [Visitor.consume]
  exact pushed _

theorem Scan.records_stream (scan : Scan) : scan.stream.records.map Prod.snd = scan.records := by
  have delivered (known : Option DecodeError) (events : List ScanEvent) :
      (deliveries known events).map Prod.snd = Segment.emitted events := by
    induction events generalizing known with
    | nil => rfl
    | cons event events ih =>
      cases event with
      | emitted start stop record => exact congrArg (record :: ·) (ih known)
      | failed error => exact ih _
      | skipped start stop => exact ih known
  exact delivered _ scan.events

theorem Scan.visit_plain {υ : Type} [Visitor υ] (heedless : Visitor.Heedless υ) (scan : Scan)
    (visitor : υ) :
    scan.stream.visit visitor =
      RecordStream.visit ⟨scan.version, scan.records.map (none, ·), none⟩ visitor := by
  rw [← Scan.records_stream, List.map_map]
  exact Visitor.visit_plain heedless scan.stream visitor

theorem Segment.scanInto_of_scan {υ : Type} [Visitor υ] {visitor : υ}
    (accepts : Visitor.Accepts visitor) {mode : ScanMode} {config : Config} {bytes : List UInt8}
    {found : Scan} (scanned : scan mode config bytes = .ok found) :
    scanInto mode config bytes visitor =
      ((Visitor.onClose found.firstError (Visitor.fed found.version found.records visitor)).1,
        .ok found) := by
  rw [scanInto, scanned]
  change found.visit visitor = _
  rw [Scan.visit, accepts.visit, Scan.records_stream]
  rfl

theorem Segment.scan_of_scanInto {υ : Type} [Visitor υ] {mode : ScanMode} {config : Config}
    {bytes : List UInt8} {visitor after : υ} {found : Scan}
    (taken : scanInto mode config bytes visitor = (after, .ok found)) :
    scan mode config bytes = .ok found := by
  rw [scanInto] at taken
  cases scanned : scan mode config bytes with
  | error error =>
    rw [scanned] at taken
    exact absurd (Prod.mk.inj taken).2 nofun
  | ok known =>
    rw [scanned] at taken
    exact congrArg Except.ok (Scan.visit_eq_ok (congrArg Prod.snd taken))

theorem Segment.readAll_of_scan {mode : ScanMode} {config : Config} {bytes : List UInt8}
    {found : Scan} (scanned : scan mode config bytes = .ok found) :
    readAll mode config bytes = .ok (found.records, found) := by
  have visited := scanInto_of_scan (Collection.accepts Collection.empty) scanned
  rw [scanInto, scanned] at visited
  rw [readAll, scanned]
  change found.readAll = _
  rw [Scan.readAll, show found.visit Collection.empty = _ from visited]
  simp only [Collection.records_fed]

end Journal
