import Journal.Proofs.Text.Utf8
import Journal.Sink

set_option autoImplicit false

namespace Journal

/-- Every call succeeds, and what `holds` grows by exactly what is written. -/
structure Sink.Keeps {σ : Type} [Sink σ] (holds : σ → List UInt8 → Prop) : Prop where
  write : ∀ {sink : σ} {bytes : List UInt8} (chunk : ByteArray), holds sink bytes →
    ∃ after, Sink.write chunk sink = (after, .ok ()) ∧ holds after (bytes ++ Packed.toList chunk)
  flush : ∀ {sink : σ} {bytes : List UInt8}, holds sink bytes →
    ∃ after, Sink.flush sink = (after, .ok ()) ∧ holds after bytes
  sync : ∀ {sink : σ} {bytes : List UInt8}, holds sink bytes →
    ∃ after, Sink.sync sink = (after, .ok ()) ∧ holds after bytes

theorem Buffer.keeps : Sink.Keeps fun (buffer : Buffer) bytes => buffer.bytes = bytes where
  write chunk held := ⟨_, rfl, by rw [Buffer.bytes_push, held]⟩
  flush held := ⟨_, rfl, held⟩
  sync held := ⟨_, rfl, held⟩

/-- Any call may fail. A write takes its chunk as a whole or not at all, and no sync changes what the
sink `holds`. -/
structure Sink.Atomic {σ : Type} [Sink σ] (holds : σ → List UInt8 → Prop) : Prop where
  wrote : ∀ {sink after : σ} {bytes : List UInt8} {chunk : ByteArray}, holds sink bytes →
    Sink.write chunk sink = (after, .ok ()) → holds after (bytes ++ Packed.toList chunk)
  refused : ∀ {sink after : σ} {bytes : List UInt8} {chunk : ByteArray} {fault : IoFault},
    holds sink bytes → Sink.write chunk sink = (after, .error fault) → holds after bytes
  synced : ∀ {sink after : σ} {bytes : List UInt8} {outcome : Except IoFault Unit},
    holds sink bytes → Sink.sync sink = (after, outcome) → holds after bytes

theorem BoundedBuffer.atomic :
    Sink.Atomic fun (bounded : BoundedBuffer) bytes => bounded.bytes = bytes where
  wrote {sink after bytes chunk} held wrote := by
    simp only [Sink.write] at wrote
    split at wrote
    · obtain ⟨rfl, -⟩ := Prod.mk.inj wrote
      rw [← held]
      exact Buffer.bytes_push ..
    · simp at wrote
  refused {sink after bytes chunk fault} held refused := by
    simp only [Sink.write] at refused
    split at refused
    · simp at refused
    · obtain ⟨rfl, -⟩ := Prod.mk.inj refused
      exact held
  synced {sink after bytes outcome} held synced := by
    simp only [Sink.sync] at synced
    split at synced <;> obtain ⟨rfl, -⟩ := Prod.mk.inj synced <;> exact held

namespace Sink

variable {σ : Type} [Sink σ] {holds : σ → List UInt8 → Prop}

theorem Keeps.atomic (keeps : Keeps holds) : Atomic holds where
  wrote {_ _ _ chunk} held wrote := by
    obtain ⟨next, again, held⟩ := keeps.write chunk held
    rw [wrote] at again
    obtain ⟨rfl, -⟩ := Prod.mk.inj again
    exact held
  refused {_ _ _ chunk _} held refused := by
    obtain ⟨next, wrote, -⟩ := keeps.write chunk held
    rw [refused] at wrote
    simp at wrote
  synced held synced := by
    obtain ⟨next, again, held⟩ := keeps.sync held
    rw [synced] at again
    obtain ⟨rfl, -⟩ := Prod.mk.inj again
    exact held

theorem Keeps.writeAll (keeps : Keeps holds) (pieces : List String) {sink : σ}
    {bytes : List UInt8} (held : holds sink bytes) :
    ∃ after, Sink.writeAll pieces sink = (after, .ok ()) ∧
      holds after (bytes ++ pieces.flatMap Utf8.encode) := by
  induction pieces generalizing sink bytes with
  | nil => exact ⟨sink, rfl, by rwa [List.flatMap_nil, List.append_nil]⟩
  | cons piece pieces ih =>
    obtain ⟨next, wrote, held⟩ := keeps.write piece.toByteArray held
    obtain ⟨after, rest, held⟩ := ih held
    refine ⟨after, ?_, ?_⟩
    · rw [Sink.writeAll, wrote]
      exact rest
    · rwa [List.flatMap_cons, ← List.append_assoc]

end Sink

end Journal
