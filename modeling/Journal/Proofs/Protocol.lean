import Journal.Proofs.Document
import Journal.Proofs.Segment.Language
import Journal.Segment.Emitter

set_option autoImplicit false

namespace Journal

namespace Visitor

inductive Call
  | opened (version : LayoutVersion)
  | consumed (record : Record)
  | closed (met : Option DecodeError)

abbrev Answered := Call × Except Error Unit

/-- The answered calls that a visitor gets while it takes in a stream, and what comes of it. -/
inductive Session (stream : RecordStream) : List Answered → Except Error Unit → Prop
  | unopened (error : Error) :
      Session stream [(.opened stream.version, .error error)] (.error error)
  -- How the visitor closes after a refusal does not matter.
  | refused {front rest : List (Option DecodeError × Record)} {met : Option DecodeError}
      {record : Record} (split : stream.records = front ++ (met, record) :: rest) (error : Error)
      (answer : Except Error Unit) :
      Session stream
        ((.opened stream.version, .ok ()) :: front.map (fun given => (.consumed given.2, .ok ())) ++
          [(.consumed record, .error error), (.closed met, answer)]) (.error error)
  | whole (answer : Except Error Unit) :
      Session stream
        ((.opened stream.version, .ok ()) ::
          stream.records.map (fun given => (.consumed given.2, .ok ())) ++
          [(.closed stream.firstError, answer)]) answer

def consumed (calls : List Answered) : List Record :=
  calls.filterMap fun
    | (.consumed record, _) => some record
    | _ => none

theorem consumed_accepted (given : List (Option DecodeError × Record)) :
    consumed (given.map fun given => (.consumed given.2, .ok ())) = given.map Prod.snd := by
  induction given with
  | nil => rfl
  | cons first rest ih => exact congrArg (first.2 :: ·) ih

theorem consumed_append (calls others : List Answered) :
    consumed (calls ++ others) = consumed calls ++ consumed others := List.filterMap_append

theorem Session.consumed_prefix {stream : RecordStream} {calls : List Answered}
    {outcome : Except Error Unit} (session : Session stream calls outcome) :
    consumed calls <+: stream.records.map Prod.snd := by
  have opened (answered : List Answered) (answer : Except Error Unit) :
      consumed ((.opened stream.version, answer) :: answered) = consumed answered := rfl
  cases session with
  | unopened error => exact List.nil_prefix
  | @refused front rest met record split error answer =>
    rw [List.cons_append, opened, consumed_append, consumed_accepted, split, List.map_append]
    exact (List.prefix_append_right_inj _).mpr (List.prefix_append [record] (rest.map Prod.snd))
  | whole answer =>
    rw [List.cons_append, opened, consumed_append, consumed_accepted]
    exact (List.append_nil _).symm ▸ List.prefix_refl _

theorem Session.ascending {stream : RecordStream} {calls : List Answered}
    {outcome : Except Error Unit} (session : Session stream calls outcome)
    (ordered : (stream.records.map Prod.snd).Pairwise (·.txid ≤ ·.txid)) :
    (consumed calls).Pairwise (·.txid ≤ ·.txid) :=
  ordered.sublist session.consumed_prefix.sublist

end Visitor

structure Recorder (υ : Type) where
  visitor : υ
  calls : List Visitor.Answered

namespace Recorder

variable {υ : Type} [Visitor υ]

def note (recorder : Recorder υ) (call : Visitor.Call) (reply : υ × Except Error Unit) :
    Recorder υ × Except Error Unit :=
  (⟨reply.1, recorder.calls ++ [(call, reply.2)]⟩, reply.2)

instance : Visitor (Recorder υ) where
  onOpen version recorder :=
    recorder.note (.opened version) (Visitor.onOpen version recorder.visitor)
  consume record recorder :=
    recorder.note (.consumed record) (Visitor.consume record recorder.visitor)
  onClose met recorder := recorder.note (.closed met) (Visitor.onClose met recorder.visitor)

theorem onOpen_eq (version : LayoutVersion) (recorder : Recorder υ) :
    Visitor.onOpen version recorder =
      recorder.note (.opened version) (Visitor.onOpen version recorder.visitor) := rfl

theorem consume_eq (record : Record) (recorder : Recorder υ) :
    Visitor.consume record recorder =
      recorder.note (.consumed record) (Visitor.consume record recorder.visitor) := rfl

theorem onClose_eq (met : Option DecodeError) (recorder : Recorder υ) :
    Visitor.onClose met recorder =
      recorder.note (.closed met) (Visitor.onClose met recorder.visitor) := rfl

theorem deliver_cases (deliveries : List (Option DecodeError × Record)) (visitor : υ)
    (calls : List Visitor.Answered) :
    (∃ after, RecordStream.deliver deliveries visitor = (after, none) ∧
        RecordStream.deliver deliveries (Recorder.mk visitor calls) =
          (⟨after, calls ++ deliveries.map fun given => (.consumed given.2, .ok ())⟩, none)) ∨
      ∃ front met record rest error after, deliveries = front ++ (met, record) :: rest ∧
        RecordStream.deliver deliveries visitor = (after, some (error, met)) ∧
        RecordStream.deliver deliveries (Recorder.mk visitor calls) =
          (⟨after, calls ++ front.map (fun given => (.consumed given.2, .ok ())) ++
            [(.consumed record, .error error)]⟩, some (error, met)) := by
  induction deliveries generalizing visitor calls with
  | nil => exact .inl ⟨visitor, rfl, by simp [RecordStream.deliver]⟩
  | cons delivery rest ih =>
    obtain ⟨met, record⟩ := delivery
    rw [RecordStream.deliver, RecordStream.deliver, consume_eq, note]
    cases Visitor.consume record visitor with
    | mk next answer =>
      cases answer with
      | error error =>
        exact .inr ⟨[], met, record, rest, error, next, rfl, rfl, by simp⟩
      | ok =>
        rcases ih next (calls ++ [(.consumed record, .ok ())]) with
          ⟨after, taken, recorded⟩ | ⟨front, met', record', rest', error, after, rfl, taken, recorded⟩
        · exact .inl ⟨after, taken, by simpa using recorded⟩
        · exact .inr ⟨(met, record) :: front, met', record', rest', error, after, rfl, taken,
            by simpa using recorded⟩

theorem visit_session (stream : RecordStream) (visitor : υ) :
    ∃ after calls outcome, stream.visit visitor = (after, outcome) ∧
      stream.visit (Recorder.mk visitor []) = (⟨after, calls⟩, outcome) ∧
      Visitor.Session stream calls outcome := by
  rw [RecordStream.visit, RecordStream.visit, onOpen_eq, note]
  cases Visitor.onOpen stream.version visitor with
  | mk opened answer =>
    cases answer with
    | error error => exact ⟨opened, _, _, rfl, rfl, .unopened error⟩
    | ok =>
      rcases deliver_cases stream.records opened [(.opened stream.version, .ok ())] with
        ⟨last, taken, recorded⟩ | ⟨front, met, record, rest, error, last, split, taken, recorded⟩
      · refine ⟨_, _, _, by simp only [taken]; rfl, ?_, .whole (Visitor.onClose _ last).2⟩
        simp only [List.nil_append, recorded, onClose_eq, note]
        rfl
      · refine ⟨_, _, _, by simp only [taken]; rfl, ?_,
          .refused split error (Visitor.onClose met last).2⟩
        simp only [List.nil_append, recorded, onClose_eq, note, List.append_assoc]
        rfl

end Recorder

namespace Scan

structure Streams (scan : Scan) (stream : RecordStream) : Prop where
  version : stream.version = scan.version
  firstError : stream.firstError = scan.firstError
  records : stream.records.map Prod.snd = scan.records
  met {front rest : List (Option DecodeError × Record)} {met : Option DecodeError} {record : Record}
    (split : stream.records = front ++ (met, record) :: rest) :
    ∃ before start stop after, scan.events = before ++ .emitted start stop record :: after ∧
      { scan with events := before }.records = front.map Prod.snd ∧
      met = { scan with events := before }.firstError

theorem deliveries_split {known : Option DecodeError} {events : List ScanEvent}
    {front rest : List (Option DecodeError × Record)} {met : Option DecodeError} {record : Record}
    (split : deliveries known events = front ++ (met, record) :: rest) (scan : Scan) :
    ∃ before start stop after, events = before ++ .emitted start stop record :: after ∧
      { scan with events := before }.records = front.map Prod.snd ∧
      met = (known <|> { scan with events := before }.failures.head?) := by
  induction events generalizing known front with
  | nil => exact absurd split (by simp [deliveries])
  | cons event events ih =>
    cases event with
    | emitted start stop first =>
      cases front with
      | nil =>
        obtain ⟨given, -⟩ := List.cons.inj split
        cases given
        refine ⟨[], start, stop, events, rfl, rfl, ?_⟩
        cases met <;> rfl
      | cons delivery front =>
        obtain ⟨rfl, onward⟩ := List.cons.inj split
        obtain ⟨before, start', stop', after, rfl, same, known⟩ := ih onward
        exact ⟨.emitted start stop first :: before, start', stop', after, rfl,
          congrArg (first :: ·) same, known⟩
    | failed error =>
      obtain ⟨before, start, stop, after, rfl, same, rfl⟩ := ih split
      refine ⟨.failed error :: before, start, stop, after, rfl, same, ?_⟩
      cases known <;> rfl
    | skipped start stop =>
      obtain ⟨before, start', stop', after, rfl, same, known⟩ := ih split
      exact ⟨.skipped start stop :: before, start', stop', after, rfl, same, known⟩

theorem streams (scan : Scan) : scan.Streams scan.stream where
  version := rfl
  firstError := rfl
  records := scan.records_stream
  met split := deliveries_split split scan

end Scan

def LayoutVersion.readable (bytes : List UInt8) : Bool := (ofHeader? bytes).any (·.isSupported)

theorem Segment.scan_cases (mode : ScanMode) (config : Config) (bytes : List UInt8) :
    if mode = .strict ∧ LayoutVersion.readable bytes = false then
      ∃ error, scan mode config bytes = .error error
    else ∃ found, scan mode config bytes = .ok found := by
  have whole : (Input.ofList bytes).bytes = bytes := rfl
  rw [scan, layout, whole, LayoutVersion.readable]
  cases LayoutVersion.ofHeader? bytes with
  | none => cases mode <;> exact ⟨_, rfl⟩
  | some version =>
    by_cases supported : version.isSupported = true
    · simp only [supported, Option.any_some, Bool.true_eq_false, and_false, if_false, if_true]
      exact ⟨_, rfl⟩
    · cases mode <;> simp only [supported, Option.any_some] <;> exact ⟨_, rfl⟩

/-- Whatever is scanned or fed into a visitor, it is called as a session says, with records in
ascending order. A strict scan that cannot read the header does not call it. -/
theorem Visitor.calls_in_session {υ : Type} [Visitor υ] (visitor : υ) :
    (∀ mode config bytes, ∃ after calls result,
      Segment.scanInto mode config bytes visitor = (after, result) ∧
      Segment.scanInto mode config bytes (Recorder.mk visitor []) = (⟨after, calls⟩, result) ∧
      if mode = .strict ∧ LayoutVersion.readable bytes = false then
        calls = [] ∧ ∃ error, result = .error error
      else ∃ found stream outcome, Segment.scan mode config bytes = .ok found ∧
        found.Streams stream ∧ Session stream calls outcome ∧
        (consumed calls).Pairwise (·.txid ≤ ·.txid) ∧ result = outcome.map fun _ => found) ∧
    ∀ text document, Document.read text = .ok document → ∃ after calls outcome,
      document.feed visitor = (after, outcome.map fun _ => document.records.length) ∧
      document.feed (Recorder.mk visitor []) =
        (⟨after, calls⟩, outcome.map fun _ => document.records.length) ∧
      Session ⟨document.version, document.records.map (none, ·), none⟩ calls outcome ∧
      (consumed calls).Pairwise (·.txid ≤ ·.txid) := by
  constructor
  · intro mode config bytes
    have scanned := Segment.scan_cases mode config bytes
    rw [Segment.scanInto, Segment.scanInto]
    split at scanned
    · next unread =>
      obtain ⟨error, failed⟩ := scanned
      rw [failed]
      exact ⟨visitor, [], .error error, rfl, rfl, by rw [if_pos unread]; exact ⟨rfl, error, rfl⟩⟩
    · next read =>
      obtain ⟨found, scanned⟩ := scanned
      obtain ⟨after, calls, outcome, visited, recorded, session⟩ :=
        Recorder.visit_session found.stream visitor
      have ordered := session.ascending (found.records_stream ▸ Segment.ordered_of_scan scanned)
      rw [scanned]
      simp only [Scan.visit, visited, recorded]
      refine ⟨after, calls, outcome.map fun _ => found, ?_, ?_, ?_⟩
      · cases outcome <;> rfl
      · cases outcome <;> rfl
      · rw [if_neg read]
        exact ⟨found, found.stream, outcome, rfl, found.streams, session, ordered, rfl⟩
  · intro text document parsed
    obtain ⟨after, calls, outcome, visited, recorded, session⟩ :=
      Recorder.visit_session document.stream visitor
    have given : document.stream.records.map Prod.snd = document.records := by
      simp [Document.stream, Function.comp_def]
    have ordered := session.ascending (given ▸ Document.ordered_of_read parsed)
    refine ⟨after, calls, outcome, ?_, ?_, session, ordered⟩
    · rw [Document.feed, visited]
      cases outcome <;> rfl
    · rw [Document.feed, recorded]
      cases outcome <;> rfl

def straySegment : List UInt8 :=
  [0xFF, 0xFF, 0xFF, 0xDA, 0x63, 0x18, 0, 0, 0, 0, 0, 0, 0, 0, 0, 0, 0, 7,
    0x17, 0, 0, 0, 0, 0, 0, 0, 0, 0, 0, 0, 8, 0xFF]

def narrowEmitter : SegmentEmitter BoundedBuffer :=
  .onto .standard ⟨.empty, some 20, false, false, none, 0⟩

theorem Visitor.calls_in_session_refused :
    (∃ after calls error, ∃ (found : Scan) (stream : RecordStream),
      Segment.scanInto .recovery .standard straySegment (Recorder.mk narrowEmitter []) =
        (⟨after, calls⟩, .error error) ∧
      found.skipped = [(4, 5)] ∧ found.Streams stream ∧ Session stream calls (.error error) ∧
      consumed calls = [⟨7, .startSegment⟩, ⟨8, .endSegment⟩] ∧
      calls.map (fun call => call.2.toOption.isSome) = [true, true, false, true]) ∧
    ∃ after calls outcome,
      Document.feed ⟨.current, [⟨7, .startSegment⟩, ⟨8, ⟨.delete, ⟨"/a", 9⟩⟩⟩]⟩
        (Recorder.mk Collection.empty []) = (⟨after, calls⟩, outcome.map fun _ => 2) ∧
      Session ⟨.current, [(none, ⟨7, .startSegment⟩), (none, ⟨8, ⟨.delete, ⟨"/a", 9⟩⟩⟩)], none⟩
        calls outcome := by
  constructor
  · have skipped : (Segment.scan .recovery .standard straySegment).map (·.skipped) =
        .ok [(4, 5)] := by decide +kernel
    have seen :
        let given := Segment.scanInto .recovery .standard straySegment (Recorder.mk narrowEmitter [])
        given.2.toOption.isNone ∧
          consumed given.1.calls = [⟨7, .startSegment⟩, ⟨8, .endSegment⟩] ∧
          given.1.calls.map (fun call => call.2.toOption.isSome) = [true, true, false, true] := by
      decide +kernel
    obtain ⟨after, calls, result, -, taken, told⟩ :=
      (calls_in_session narrowEmitter).1 .recovery .standard straySegment
    rw [if_neg (by decide)] at told
    obtain ⟨found, stream, outcome, scanned, streams, session, -, rfl⟩ := told
    rw [scanned] at skipped
    rw [taken] at seen
    obtain ⟨failed, records, answers⟩ := seen
    cases outcome with
    | ok => contradiction
    | error error =>
      exact ⟨after, calls, error, found, stream, taken, Except.ok.inj skipped, streams, session,
        records, answers⟩
  · have parsed : Document.read
        (Document.written .current [⟨7, .startSegment⟩, ⟨8, ⟨.delete, ⟨"/a", 9⟩⟩⟩]).toByteArray =
          .ok ⟨.current, [⟨7, .startSegment⟩, ⟨8, ⟨.delete, ⟨"/a", 9⟩⟩⟩]⟩ :=
      Document.read_written (by decide) (by simp) (Packed.toList_toByteArray _)
    obtain ⟨after, calls, outcome, -, fed, session, -⟩ :=
      (calls_in_session Collection.empty).2 _ _ parsed
    exact ⟨after, calls, outcome, fed, session⟩

end Journal
