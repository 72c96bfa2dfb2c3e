import Journal.Conversion
import Journal.Proofs.Sink
import Journal.Proofs.Visitor

set_option autoImplicit false

namespace Journal

def Agree {α β ε : Type} (related : α → β → Prop) (first : α × ε) (second : β × ε) : Prop :=
  ∃ after after' outcome, first = (after, outcome) ∧ second = (after', outcome) ∧
    related after after'

theorem Agree.of_related {α β ε : Type} {related : α → β → Prop} {after : α} {after' : β}
    (both : related after after') (outcome : ε) :
    Agree related (after, outcome) (after', outcome) :=
  ⟨after, after', outcome, rfl, rfl, both⟩

namespace Sink

structure Alike {σ τ : Type} [Sink σ] [Sink τ] (related : σ → τ → Prop) : Prop where
  write : ∀ {sink : σ} {other : τ} (chunk : ByteArray), related sink other →
    Agree related (Sink.write chunk sink) (Sink.write chunk other)
  flush : ∀ {sink : σ} {other : τ}, related sink other →
    Agree related (Sink.flush sink) (Sink.flush other)
  sync : ∀ {sink : σ} {other : τ}, related sink other →
    Agree related (Sink.sync sink) (Sink.sync other)

variable {σ τ : Type} [Sink σ] [Sink τ] {related : σ → τ → Prop} {sink : σ} {other : τ}

theorem Keeps.alike {holds : σ → List UInt8 → Prop} {holds' : τ → List UInt8 → Prop}
    (keeps : Keeps holds) (keeps' : Keeps holds') :
    Alike fun sink other => ∃ bytes, holds sink bytes ∧ holds' other bytes where
  write chunk both := by
    obtain ⟨bytes, held, held'⟩ := both
    obtain ⟨after, wrote, held⟩ := keeps.write chunk held
    obtain ⟨after', wrote', held'⟩ := keeps'.write chunk held'
    exact ⟨_, _, _, wrote, wrote', _, held, held'⟩
  flush both := by
    obtain ⟨bytes, held, held'⟩ := both
    obtain ⟨after, flushed, held⟩ := keeps.flush held
    obtain ⟨after', flushed', held'⟩ := keeps'.flush held'
    exact ⟨_, _, _, flushed, flushed', _, held, held'⟩
  sync both := by
    obtain ⟨bytes, held, held'⟩ := both
    obtain ⟨after, synced, held⟩ := keeps.sync held
    obtain ⟨after', synced', held'⟩ := keeps'.sync held'
    exact ⟨_, _, _, synced, synced', _, held, held'⟩

theorem Alike.writeAll (alike : Alike related) (pieces : List String) (both : related sink other) :
    Agree related (Sink.writeAll pieces sink) (Sink.writeAll pieces other) := by
  induction pieces generalizing sink other with
  | nil => exact .of_related both _
  | cons piece pieces ih =>
    obtain ⟨_, _, outcome, wrote, wrote', both⟩ := alike.write piece.toByteArray both
    rw [Sink.writeAll, Sink.writeAll, wrote, wrote']
    cases outcome with
    | ok => exact ih both
    | error => exact .of_related both _

end Sink

namespace Visitor

structure Alike {υ φ : Type} [Visitor υ] [Visitor φ] (related : υ → φ → Prop) : Prop where
  onOpen : ∀ {visitor : υ} {other : φ} (version : LayoutVersion), related visitor other →
    Agree related (Visitor.onOpen version visitor) (Visitor.onOpen version other)
  consume : ∀ {visitor : υ} {other : φ} (record : Record), related visitor other →
    Agree related (Visitor.consume record visitor) (Visitor.consume record other)
  onClose : ∀ {visitor : υ} {other : φ} (met : Option DecodeError), related visitor other →
    Agree related (Visitor.onClose met visitor) (Visitor.onClose met other)

namespace Alike

variable {υ φ : Type} [Visitor υ] [Visitor φ] {related : υ → φ → Prop} {visitor : υ} {other : φ}

theorem deliver (alike : Alike related) (deliveries : List (Option DecodeError × Record))
    (both : related visitor other) :
    Agree related (RecordStream.deliver deliveries visitor)
      (RecordStream.deliver deliveries other) := by
  induction deliveries generalizing visitor other with
  | nil => exact .of_related both _
  | cons delivery rest ih =>
    obtain ⟨met, record⟩ := delivery
    obtain ⟨_, _, outcome, consumed, consumed', both⟩ := alike.consume record both
    rw [RecordStream.deliver, RecordStream.deliver, consumed, consumed']
    cases outcome with
    | ok => exact ih both
    | error => exact .of_related both _

theorem visit (alike : Alike related) (stream : RecordStream) (both : related visitor other) :
    Agree related (stream.visit visitor) (stream.visit other) := by
  obtain ⟨_, _, outcome, opened, opened', both⟩ := alike.onOpen stream.version both
  rw [RecordStream.visit, RecordStream.visit, opened, opened']
  cases outcome with
  | error => exact .of_related both _
  | ok =>
    obtain ⟨_, _, refusal, delivered, delivered', both⟩ := alike.deliver stream.records both
    simp only [delivered, delivered']
    cases refusal with
    | none => exact alike.onClose stream.firstError both
    | some refusal =>
      obtain ⟨error, met⟩ := refusal
      obtain ⟨_, _, _, closed, closed', both⟩ := alike.onClose met both
      simp only [closed, closed']
      exact .of_related both _

end Alike

end Visitor

variable {σ τ : Type} [Sink σ] [Sink τ] {related : σ → τ → Prop}

namespace SegmentWriter

inductive Paired (related : σ → τ → Prop) : SegmentWriter σ → SegmentWriter τ → Prop
  | intro (writer : SegmentWriter σ) {other : τ} (both : related writer.sink other) :
      Paired related writer (writer.withSink other)

variable {writer : SegmentWriter σ} {other : SegmentWriter τ}

omit [Sink σ] [Sink τ] in
theorem Paired.sinks (paired : Paired related writer other) : related writer.sink other.sink := by
  cases paired with
  | intro both => exact both

theorem write_alike (alike : Sink.Alike related) (paired : Paired related writer other)
    (chunk : ByteArray) : Agree (Paired related) (writer.write chunk) (other.write chunk) := by
  cases paired with
  | intro both =>
    obtain ⟨_, _, outcome, wrote, wrote', both⟩ := alike.write chunk both
    simp only [write, withSink, wrote, wrote']
    cases outcome <;> exact .of_related (.intro _ both) _

theorem flush_alike (alike : Sink.Alike related) (paired : Paired related writer other) :
    Agree (Paired related) writer.flush other.flush := by
  cases paired with
  | intro both =>
    obtain ⟨_, _, outcome, synced, synced', both⟩ := alike.sync both
    simp only [flush, withSink, synced, synced']
    cases outcome <;> exact .of_related (.intro _ both) _

theorem start_alike (alike : Sink.Alike related) (config : Config) {sink : σ} {other : τ}
    (both : related sink other) :
    (∃ writer writer', start config sink = .ok writer ∧ start config other = .ok writer' ∧
      Paired related writer writer') ∨
    ∃ error after after', start config sink = .error (error, after) ∧
      start config other = .error (error, after') ∧ related after after' := by
  rw [start, start]
  cases checkConfig config with
  | error error => exact .inr ⟨error, sink, other, rfl, rfl, both⟩
  | ok =>
    have blank : Paired related (blank config sink) (blank config other) := .intro _ both
    obtain ⟨_, _, outcome, wrote, wrote', paired⟩ :=
      write_alike alike blank config.layoutVersion.header.toByteArray
    simp only [wrote, wrote']
    cases outcome with
    | error error => exact .inr ⟨_, _, _, rfl, rfl, paired.sinks⟩
    | ok =>
      obtain ⟨_, _, outcome, flushed, flushed', paired⟩ := flush_alike alike paired
      simp only [flushed, flushed']
      cases outcome with
      | error error => exact .inr ⟨_, _, _, rfl, rfl, paired.sinks⟩
      | ok => exact .inl ⟨_, _, rfl, rfl, paired⟩

theorem appendRecord_alike (alike : Sink.Alike related) (paired : Paired related writer other)
    (record : Record) :
    Agree (Paired related) (writer.appendRecord record) (other.appendRecord record) := by
  have same : other.checkOrder record.txid = writer.checkOrder record.txid ∧
      other.version = writer.version := by
    cases paired with
    | intro both => exact ⟨rfl, rfl⟩
  rw [appendRecord, appendRecord, same.1, same.2]
  cases writer.checkOrder record.txid with
  | error => exact .of_related paired _
  | ok =>
    cases record.packed writer.version with
    | error => exact .of_related paired _
    | ok chunk =>
      obtain ⟨after, _, outcome, wrote, wrote', paired⟩ := write_alike alike paired chunk
      simp only [wrote, wrote']
      cases outcome with
      | error => exact .of_related paired _
      | ok =>
        obtain ⟨both⟩ := paired
        have advanced := Paired.intro (after.advance record.txid) both
        -- Whether a sync is due has nothing to do with the sink.
        change Agree _ (if after.sync.isDue (after.unsynced + 1) then _ else _)
          (if after.sync.isDue (after.unsynced + 1) then _ else _)
        split
        · exact flush_alike alike advanced
        · exact .of_related advanced _

theorem close_alike (alike : Sink.Alike related) (paired : Paired related writer other) :
    Agree related writer.close other.close := by
  have trailer : other.trailer = writer.trailer := by
    cases paired with
    | intro both => rfl
  obtain ⟨_, _, outcome, wrote, wrote', paired⟩ :=
    write_alike alike paired writer.trailer.toByteArray
  rw [close, close, trailer]
  simp only [wrote, wrote']
  cases outcome with
  | error => exact .of_related paired.sinks _
  | ok =>
    obtain ⟨_, _, outcome, flushed, flushed', paired⟩ := flush_alike alike paired
    simp only [flushed, flushed']
    exact .of_related paired.sinks _

end SegmentWriter

inductive EmitterStage.Paired (related : σ → τ → Prop) : EmitterStage σ → EmitterStage τ → Prop
  | pending {sink : σ} {other : τ} (both : related sink other) :
      Paired related (.pending sink) (.pending other)
  | writing {writer : SegmentWriter σ} {other : SegmentWriter τ}
      (paired : SegmentWriter.Paired related writer other) :
      Paired related (.writing writer) (.writing other)
  | closed {sink : σ} {other : τ} (both : related sink other) :
      Paired related (.closed sink) (.closed other)
  | spoiled {sink : σ} {other : τ} (both : related sink other) :
      Paired related (.spoiled sink) (.spoiled other)

omit [Sink σ] [Sink τ] in
theorem EmitterStage.Paired.sinks {stage : EmitterStage σ} {other : EmitterStage τ}
    (paired : Paired related stage other) : related stage.sink other.sink := by
  cases paired with
  | pending both | closed both | spoiled both => exact both
  | writing paired => exact paired.sinks

namespace SegmentEmitter

inductive Paired (related : σ → τ → Prop) : SegmentEmitter σ → SegmentEmitter τ → Prop
  | intro (config : Config) (count : Nat) {stage : EmitterStage σ} {other : EmitterStage τ}
      (paired : EmitterStage.Paired related stage other) :
      Paired related ⟨config, stage, count⟩ ⟨config, other, count⟩

omit [Sink σ] [Sink τ] in
theorem Paired.sinks {emitter : SegmentEmitter σ} {other : SegmentEmitter τ}
    (paired : Paired related emitter other) : related emitter.stage.sink other.stage.sink := by
  cases paired with
  | intro _ _ paired => exact paired.sinks

omit [Sink σ] [Sink τ] in
theorem Paired.finished {emitter : SegmentEmitter σ} {other : SegmentEmitter τ}
    (paired : Paired related emitter other) {sink : σ} (staged : emitter.stage = .closed sink) :
    ∃ sink', other.finished? = some sink' ∧ related sink sink' := by
  cases paired with
  | intro _ _ paired =>
    subst staged
    cases paired with
    | closed both => exact ⟨_, rfl, both⟩

theorem alike (alike : Sink.Alike related) : Visitor.Alike (Paired related) where
  onOpen version paired := by
    obtain @⟨config, count, stage, other, paired⟩ := paired
    simp only [Visitor.onOpen, onOpen]
    cases paired with
    | pending both =>
      rcases SegmentWriter.start_alike alike { config with layoutVersion := version } both with
        ⟨_, _, started, started', paired⟩ | ⟨_, _, _, failed, failed', both⟩
      · simp only [started, started']
        exact .of_related (.intro _ _ (.writing paired)) _
      · simp only [failed, failed']
        exact .of_related (.intro _ _ (.spoiled both)) _
    | writing paired => exact .of_related (.intro _ _ (.spoiled paired.sinks)) _
    | closed both | spoiled both => exact .of_related (.intro _ _ (.spoiled both)) _
  consume record paired := by
    obtain @⟨config, count, stage, other, paired⟩ := paired
    simp only [Visitor.consume, consume]
    cases paired with
    | writing paired =>
      obtain ⟨_, _, outcome, appended, appended', paired⟩ :=
        SegmentWriter.appendRecord_alike alike paired record
      simp only [appended, appended']
      cases outcome <;> exact .of_related (.intro _ _ (.writing paired)) _
    | pending both => exact .of_related (.intro _ _ (.pending both)) _
    | closed both => exact .of_related (.intro _ _ (.closed both)) _
    | spoiled both => exact .of_related (.intro _ _ (.spoiled both)) _
  onClose met paired := by
    obtain @⟨config, count, stage, other, paired⟩ := paired
    simp only [Visitor.onClose, onClose]
    cases paired with
    | writing paired =>
      obtain ⟨_, _, outcome, closed, closed', both⟩ := SegmentWriter.close_alike alike paired
      simp only [closed, closed']
      cases outcome with
      | ok => exact .of_related (.intro _ _ (.closed both)) _
      | error => exact .of_related (.intro _ _ (.spoiled both)) _
    | pending both => exact .of_related (.intro _ _ (.pending both)) _
    | closed both => exact .of_related (.intro _ _ (.closed both)) _
    | spoiled both => exact .of_related (.intro _ _ (.spoiled both)) _

end SegmentEmitter

namespace DocumentEmitter

inductive Paired (related : σ → τ → Prop) : DocumentEmitter σ → DocumentEmitter τ → Prop
  | intro (count : Nat) (isOpen : Bool) {sink : σ} {other : τ} (both : related sink other) :
      Paired related ⟨sink, count, isOpen⟩ ⟨other, count, isOpen⟩

omit [Sink σ] [Sink τ] in
theorem Paired.sinks {emitter : DocumentEmitter σ} {other : DocumentEmitter τ}
    (paired : Paired related emitter other) : related emitter.sink other.sink := by
  cases paired with
  | intro _ _ both => exact both

theorem alike (alike : Sink.Alike related) : Visitor.Alike (Paired related) where
  onOpen version paired := by
    obtain @⟨count, isOpen, sink, other, both⟩ := paired
    obtain ⟨_, _, outcome, wrote, wrote', both⟩ := alike.writeAll (opening version) both
    simp only [Visitor.onOpen, onOpen, wrote, wrote']
    cases outcome <;> exact .of_related (.intro _ _ both) _
  consume record paired := by
    obtain @⟨count, isOpen, sink, other, both⟩ := paired
    obtain ⟨_, _, outcome, wrote, wrote', both⟩ :=
      alike.write (separator count).toByteArray both
    simp only [Visitor.consume, consume, wrote, wrote', Sink.writeTokens_eq]
    cases outcome with
    | error => exact .of_related (.intro _ _ both) _
    | ok =>
      obtain ⟨_, _, outcome, wrote, wrote', both⟩ :=
        alike.writeAll (record.toJson.tokens.flatMap Token.pieces) both
      simp only [wrote, wrote']
      cases outcome <;> exact .of_related (.intro _ _ both) _
  onClose met paired := by
    obtain @⟨count, isOpen, sink, other, both⟩ := paired
    simp only [Visitor.onClose, onClose]
    cases isOpen with
    | false => exact .of_related (.intro _ _ both) _
    | true =>
      obtain ⟨_, _, outcome, wrote, wrote', both⟩ := alike.writeAll (closing count) both
      simp only [if_true, wrote, wrote']
      cases outcome with
      | error => exact .of_related (.intro _ _ both) _
      | ok =>
        obtain ⟨_, _, outcome, flushed, flushed', both⟩ := alike.flush both
        simp only [flushed, flushed']
        cases outcome <;> exact .of_related (.intro _ _ both) _

end DocumentEmitter

end Journal
