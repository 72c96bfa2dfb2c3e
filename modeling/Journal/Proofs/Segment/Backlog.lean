import Journal.Proofs.Segment.History

set_option autoImplicit false

namespace Journal

def ScanEvent.beyond (offset : Nat) : ScanEvent → Option Record
  | .emitted _ stop record => if offset < stop then some record else none
  | _ => none

namespace Segment

def recordsBeyond (version : LayoutVersion) (offset : Nat) (records : List Record) : List Record :=
  (emissions version LayoutVersion.headerSize records).filterMap (·.beyond offset)

theorem start_lt_stop (version : LayoutVersion) (start : Nat) (record : Record) :
    start < start + Record.encodedLength record.operation.body.length version := by
  have header : Record.headerSize = 13 := rfl
  rw [Record.encodedLength]
  omega

theorem le_stopOf (version : LayoutVersion) (start : Nat) (records : List Record) :
    start ≤ stopOf version start records := by
  induction records generalizing start with
  | nil => exact Nat.le_refl start
  | cons record records ih =>
    exact Nat.le_trans (Nat.le_of_lt (start_lt_stop version start record)) (ih _)

theorem filterMap_beyond {version : LayoutVersion} {offset start : Nat} (before : offset ≤ start)
    (records : List Record) :
    (emissions version start records).filterMap (·.beyond offset) = records := by
  induction records generalizing start with
  | nil => rfl
  | cons record records ih =>
    let stop := start + Record.encodedLength record.operation.body.length version
    have ends : offset < stop := Nat.lt_of_le_of_lt before (start_lt_stop version start record)
    have kept : ScanEvent.beyond offset (.emitted start stop record) = some record := if_pos ends
    rw [emissions, List.filterMap_cons_some kept, ih (Nat.le_of_lt ends)]

theorem recordsBeyond_append (version : LayoutVersion) (before after : List Record) :
    recordsBeyond version (offsetAfter version before) (before ++ after) = after := by
  rw [recordsBeyond, offsetAfter]
  generalize LayoutVersion.headerSize = start
  induction before generalizing start with
  | nil => exact filterMap_beyond (Nat.le_refl start) after
  | cons record before ih =>
    let stop := start + Record.encodedLength record.operation.body.length version
    have within := le_stopOf version stop before
    have passed : ScanEvent.beyond (stopOf version start (record :: before))
        (.emitted start stop record) = none := if_neg (Nat.not_lt.mpr within)
    rw [List.cons_append, emissions, List.filterMap_cons_none passed]
    exact ih stop

end Segment

def SyncPolicy.Allows : SyncPolicy → (waiting : Nat) → Prop
  | .everyWrite, waiting => waiting = 0
  | .everyRecords count, waiting => waiting < max 1 count

theorem SyncPolicy.allows_zero (policy : SyncPolicy) : policy.Allows 0 := by
  cases policy with
  | everyWrite => rfl
  | everyRecords count => exact Nat.lt_of_lt_of_le Nat.one_pos (Nat.le_max_left 1 count)

theorem SyncPolicy.allows_of_undue {policy : SyncPolicy} {waiting : Nat}
    (undue : policy.isDue waiting = false) : policy.Allows waiting := by
  cases policy with
  | everyWrite => contradiction
  | everyRecords count =>
    simp only [isDue, decide_eq_false_iff_not, Allows] at undue ⊢
    omega

theorem SyncPolicy.isDue_succ {policy : SyncPolicy} {waiting : Nat}
    (due : policy.isDue waiting = true) : policy.isDue (waiting + 1) = true := by
  cases policy with
  | everyWrite => rfl
  | everyRecords count =>
    simp only [isDue, decide_eq_true_eq] at due ⊢
    omega

namespace SegmentWriter

variable {σ : Type} [Sink σ]

def Fate.sync? : Fate → Option Bool
  | .synced => some true
  | .unsynced => some false
  | _ => none

namespace Call

def result (writer : SegmentWriter σ) : Call → Except Error Unit
  | .append operation => (writer.append operation).2.map fun _ => ()
  | .appendRecord record => (writer.appendRecord record).2
  | .flush => writer.flush.2

def sync? (writer : SegmentWriter σ) : Call → Option Bool
  | .append operation => (writer.fate ⟨writer.nextTxid, operation⟩).sync?
  | .appendRecord record => (writer.fate record).sync?
  | .flush => some writer.flush.2.toBool

end Call

theorem map_snd_append (writer : SegmentWriter σ) (operation : Operation) :
    (writer.append operation).2.map (fun _ => ()) =
      (writer.appendRecord ⟨writer.nextTxid, operation⟩).2 := by
  rw [append]
  split <;> next appended => rw [appended]; rfl

namespace History

variable {history : History σ}

def backlog (history : History σ) : List Record :=
  Segment.recordsBeyond history.writer.version history.writer.flushedOffset history.written

def syncs (history : History σ) : List Call → Bool
  | [] => false
  | call :: calls => call.sync? history.writer = some true || (history.call call).syncs calls

inductive Effect (before : History σ) :
    Call → (sync : Option Bool) → Except Error Unit → History σ → Prop
  | declined {call : Call} {sink : σ} {error : Error} (appends : call ≠ .flush) :
      Effect before call none (.error error)
        ⟨{ before.writer with sink := sink }, before.written, before.synced⟩
  | written {call : Call} {record : Record} {size : Nat} {sink : σ} (appends : call ≠ .flush)
      (undue : before.writer.sync.isDue (before.writer.unsynced + 1) = false) :
      Effect before call none (.ok ())
        ⟨before.writer.recorded record size sink, before.written ++ [record], before.synced⟩
  | synced {call : Call} {record : Record} {size : Nat} {sink : σ} (appends : call ≠ .flush) :
      Effect before call (some true) (.ok ())
        ⟨{ before.writer.recorded record size sink with
            flushedOffset := before.writer.offset + size, unsynced := 0 },
          before.written ++ [record], before.written ++ [record]⟩
  | overdue {call : Call} {record : Record} {size : Nat} {sink : σ} {error : Error}
      (appends : call ≠ .flush)
      (due : before.writer.sync.isDue (before.writer.unsynced + 1) = true) :
      Effect before call (some false) (.error error)
        ⟨before.writer.recorded record size sink, before.written ++ [record], before.synced⟩
  | flushed {sink : σ} :
      Effect before .flush (some true) (.ok ())
        ⟨{ before.writer with
            sink := sink, flushedOffset := before.writer.offset, unsynced := 0 },
          before.written, before.written⟩
  | unflushed {sink : σ} {error : Error} :
      Effect before .flush (some false) (.error error)
        ⟨{ before.writer with sink := sink }, before.written, before.synced⟩

theorem effect_took (history : History σ) {call : Call} (appends : call ≠ .flush) (record : Record) :
    Effect history call (history.writer.fate record).sync? (history.writer.appendRecord record).2
      (history.took record (history.writer.appendRecord record).1) := by
  have cases := history.writer.appends record
  rw [took]
  generalize history.writer.fate record = fate, history.writer.appendRecord record = result
    at cases ⊢
  cases cases with
  | rejected => exact .declined appends
  | refused => exact .declined appends
  | written _ undue => exact .written appends undue
  | synced => exact .synced appends
  | unsynced _ due => exact .overdue appends due

theorem effect (history : History σ) (call : Call) :
    Effect history call (call.sync? history.writer) (call.result history.writer)
      (history.call call) := by
  cases call with
  | append operation =>
    have appends : Call.append operation ≠ .flush := by simp
    rw [History.call, fst_append, Call.result, map_snd_append]
    exact history.effect_took appends _
  | appendRecord record =>
    have appends : Call.appendRecord record ≠ .flush := by simp
    exact history.effect_took appends record
  | flush =>
    rw [History.call, Call.sync?, Call.result, flush]
    cases Sink.sync history.writer.sink with
    | mk after outcome =>
      cases outcome with
      | ok => exact .flushed
      | error fault => exact .unflushed

structure Paced (config : Config) (history : History σ) : Prop where
  policy : history.writer.sync = config.sync
  counted : history.synced.length + history.writer.unsynced = history.written.length

theorem paced_of_start {config : Config} {sink : σ} {writer : SegmentWriter σ}
    (started : SegmentWriter.start config sink = .ok writer) :
    Paced config ⟨writer, [], []⟩ := by
  obtain ⟨-, headed, synced, -, -, rfl⟩ := of_start_eq_ok started
  exact ⟨rfl, rfl⟩

omit [Sink σ] in
theorem Effect.paced {config : Config} {call : Call} {sync : Option Bool}
    {result : Except Error Unit} {after : History σ} (effect : Effect history call sync result after)
    (paced : Paced config history) : Paced config after := by
  obtain ⟨policy, counted⟩ := paced
  cases effect with
  | declined | unflushed => exact ⟨policy, counted⟩
  | written | overdue =>
    refine ⟨policy, ?_⟩
    rw [List.length_append, ← counted]
    rfl
  | synced | flushed => exact ⟨policy, rfl⟩

theorem Reached.paced {config : Config} {sink : σ} (reached : Reached config sink history) :
    Paced config history := by
  induction reached with
  | start started => exact paced_of_start started
  | startingAt _ _ ih => exact ⟨ih.policy, ih.counted⟩
  | call _ call ih => exact (effect _ call).paced ih

omit [Sink σ] in
theorem length_backlog {holds : σ → List UInt8 → Prop} {config : Config}
    (sound : Sound holds config history) (paced : Paced config history) :
    history.backlog.length = history.writer.unsynced := by
  obtain ⟨rest, stands⟩ := sound.kept
  have counted := paced.counted
  rw [backlog, sound.flushed, sound.version, ← stands, Segment.recordsBeyond_append]
  rw [← stands, List.length_append] at counted
  omega

section Effects

variable {call : Call} {sync : Option Bool} {result : Except Error Unit} {after : History σ}

omit [Sink σ]

theorem Effect.allows {config : Config} (effect : Effect history call sync (.ok ()) after)
    (paced : Paced config history) (appends : call ≠ .flush) :
    config.sync.Allows after.writer.unsynced := by
  cases effect with
  | written _ undue =>
    rw [paced.policy] at undue
    exact SyncPolicy.allows_of_undue undue
  | synced => exact config.sync.allows_zero
  | flushed => exact absurd rfl appends

theorem Effect.unsynced_of_flush (effect : Effect history .flush sync (.ok ()) after) :
    after.writer.unsynced = 0 := by
  cases effect with
  | written appends | synced appends => exact absurd rfl appends
  | flushed => rfl

theorem Effect.flushedOffset_le (effect : Effect history call sync result after)
    (within : history.writer.flushedOffset ≤ history.writer.offset) :
    history.writer.flushedOffset ≤ after.writer.flushedOffset := by
  cases effect with
  | declined | written | overdue | unflushed => exact Nat.le_refl _
  | synced => exact Nat.le_add_right_of_le within
  | flushed => exact within

theorem Effect.flushedOffset_of_failed (effect : Effect history call (some false) result after) :
    after.writer.flushedOffset = history.writer.flushedOffset := by
  cases effect with
  | overdue | unflushed => rfl

def Overdue (history : History σ) : Prop :=
  history.writer.sync.isDue history.writer.unsynced = true

theorem Effect.overdue_of_failed (effect : Effect history call (some false) result after)
    (appends : call ≠ .flush) : after.Overdue := by
  cases effect with
  | overdue _ due => exact due
  | unflushed => exact absurd rfl appends

theorem Effect.fails_or_syncs (effect : Effect history call sync result after)
    (overdue : history.Overdue) : sync = some true ∨ result ≠ .ok () ∧ after.Overdue := by
  cases effect with
  | synced | flushed => exact .inl rfl
  | declined | unflushed => exact .inr ⟨nofun, overdue⟩
  | written _ undue =>
    rw [SyncPolicy.isDue_succ overdue] at undue
    contradiction
  | overdue _ due => exact .inr ⟨nofun, due⟩

end Effects

theorem syncs_of_ok (overdue : history.Overdue) {calls : List Call} {next : Call}
    (succeeded : next.result (history.run calls).writer = .ok ()) :
    history.syncs (calls ++ [next]) = true := by
  induction calls generalizing history with
  | nil =>
    rcases (history.effect next).fails_or_syncs overdue with synced | ⟨failed, -⟩
    · simp [syncs, synced]
    · exact absurd succeeded failed
  | cons call calls ih =>
    rcases (history.effect call).fails_or_syncs overdue with synced | ⟨-, still⟩
    · simp [syncs, synced]
    · rw [List.cons_append, syncs, ih still succeeded, Bool.or_true]

/-- A sync policy bounds how many records a crash can take from a segment. Whatever calls have failed
before, an append that succeeds leaves no more of them waiting than the policy allows and a flush none,
durable bytes stay durable, and after a sync that was due has failed nothing succeeds without another. -/
theorem sync_policy_bounds_backlog {holds : σ → List UInt8 → Prop} (atomic : Sink.Atomic holds)
    {config : Config} {sink : σ} (empty : holds sink []) (reached : Reached config sink history)
    (call : Call) :
    let after := history.call call
    (∃ bytes, Segment.bytesOf config.layoutVersion after.written 0 = .ok bytes ∧
      holds after.writer.sink bytes) ∧
    (call.result history.writer = .ok () →
      (call ≠ .flush → config.sync.Allows after.backlog.length) ∧
      (call = .flush → after.backlog = [])) ∧
    history.writer.flushedOffset ≤ after.writer.flushedOffset ∧
    (call.sync? history.writer = some false →
      after.writer.flushedOffset = history.writer.flushedOffset ∧
      (call ≠ .flush → ∀ calls next, next.result (after.run calls).writer = .ok () →
        after.syncs (calls ++ [next]) = true)) := by
  intro after
  have effect := history.effect call
  have sound := (reached.call call).sound atomic empty
  have counted : after.backlog.length = after.writer.unsynced :=
    length_backlog sound (reached.call call).paced
  have within := (reached.sound atomic empty).flushed_le
  refine ⟨?_, fun succeeded => ⟨fun appends => ?_, fun flushes => ?_⟩,
    effect.flushedOffset_le within, fun failed => ?_⟩
  · obtain ⟨bytes, wrote, written⟩ := sound.logged
    rw [sound.version] at written
    exact ⟨bytes, written.formed, wrote.held⟩
  · rw [succeeded] at effect
    rw [counted]
    exact effect.allows reached.paced appends
  · subst flushes
    rw [succeeded] at effect
    exact List.length_eq_zero_iff.mp (counted.trans effect.unsynced_of_flush)
  · rw [failed] at effect
    refine ⟨effect.flushedOffset_of_failed, fun appends calls next succeeded => ?_⟩
    exact syncs_of_ok (effect.overdue_of_failed appends) succeeded

theorem sync_policy_bounds_backlog_failed :
    ∃ history : History BoundedBuffer,
      Reached { Config.standard with sync := .everyRecords 2 }
        ⟨.empty, none, false, false, some 1, 0⟩ history ∧
      history.written = [⟨1, .startSegment⟩] ∧ history.backlog.length < 2 ∧
      let after := history.call (.append .startSegment)
      after.writer.flushedOffset = history.writer.flushedOffset ∧
      (Call.append .endSegment).result (after.run [.flush]).writer ≠ .ok () := by
  obtain ⟨fresh, started, written, appended, failed, unsynced⟩ : ∃ fresh,
      SegmentWriter.start { Config.standard with sync := .everyRecords 2 }
        (⟨.empty, none, false, false, some 1, 0⟩ : BoundedBuffer) = .ok fresh ∧
      let before := History.call ⟨fresh, [], []⟩ (.append .startSegment)
      before.written = [⟨1, .startSegment⟩] ∧
      (Call.append .startSegment).result fresh = .ok () ∧
      (Call.append .startSegment).sync? before.writer = some false ∧
      (before.call (.append .startSegment)).syncs [.flush, .append .endSegment] = false :=
    ⟨_, rfl, by decide +kernel, by decide +kernel, by decide +kernel, by decide +kernel⟩
  have appends : Call.append .startSegment ≠ .flush := nofun
  have reached := Reached.start started
  obtain ⟨-, bounded, -⟩ :=
    sync_policy_bounds_backlog BoundedBuffer.atomic rfl reached (.append .startSegment)
  obtain ⟨-, -, -, stuck⟩ := sync_policy_bounds_backlog BoundedBuffer.atomic rfl
    (reached.call (.append .startSegment)) (.append .startSegment)
  obtain ⟨unchanged, refused⟩ := stuck failed
  refine ⟨_, reached.call (.append .startSegment), written, (bounded appended).1 appends, unchanged,
    fun succeeded => ?_⟩
  have synced := refused appends [.flush] (.append .endSegment) succeeded
  exact absurd synced (by rw [List.cons_append, List.nil_append, unsynced]; decide)

end History

end SegmentWriter

end Journal
