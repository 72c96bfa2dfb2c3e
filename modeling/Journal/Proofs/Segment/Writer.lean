import Journal.Proofs.Segment.Append
import Journal.Proofs.Segment.Walk
import Mathlib.Order.Bounds.Defs

set_option autoImplicit false

namespace Journal

theorem Txid.toNat_succ {txid : UInt64} (room : txid.toNat + 1 < 2 ^ 64) :
    (txid + 1).toNat = txid.toNat + 1 := by
  rw [UInt64.toNat_add]
  exact Nat.mod_eq_of_lt room

theorem Txid.lt_succ {txid : UInt64} (room : txid.toNat + 1 < 2 ^ 64) : txid < txid + 1 := by
  rw [UInt64.lt_iff_toNat_lt, toNat_succ room]
  exact Nat.lt_succ_self _

theorem Txid.max_succ {txid : UInt64} (room : txid.toNat + 1 < 2 ^ 64) :
    max txid (txid + 1) = txid + 1 :=
  if_pos (UInt64.le_of_lt (lt_succ room))

theorem Txid.lt_max_succ {txid : UInt64} (room : txid.toNat + 1 < 2 ^ 64) (next : UInt64) :
    txid < max next (txid + 1) := by
  by_cases below : next ≤ txid + 1
  · rw [show max next (txid + 1) = txid + 1 from if_pos below]
    exact lt_succ room
  · rw [show max next (txid + 1) = next from if_neg below]
    exact UInt64.lt_trans (lt_succ room) (UInt64.not_le.mp below)

namespace SegmentWriter

variable {σ : Type} [Sink σ] {holds : σ → List UInt8 → Prop}

structure Wrote (holds : σ → List UInt8 → Prop) (writer : SegmentWriter σ) (bytes : List UInt8)
    (last : Option UInt64) : Prop where
  held : holds writer.sink bytes
  offset : writer.offset = bytes.length
  last : writer.lastTxid = last

theorem checkConfig_eq_ok {config : Config} :
    checkConfig config = .ok () ↔
      config.layoutVersion.isSupported = true ∧ config.preallocation ≠ some 0 := by
  rw [checkConfig]
  by_cases supported : config.layoutVersion.isSupported = true
  · by_cases zero : config.preallocation = some 0 <;> simp [supported, zero]
  · simp [supported]

theorem of_write_eq_ok {writer after : SegmentWriter σ} {chunk : ByteArray}
    (written : writer.write chunk = (after, .ok ())) :
    ∃ sink, Sink.write chunk writer.sink = (sink, .ok ()) ∧
      after = { writer with sink := sink, offset := writer.offset + chunk.size } := by
  rw [write] at written
  split at written
  · next sink taken => exact ⟨sink, taken, (Prod.mk.inj written).1.symm⟩
  · simp at written

theorem of_flush_eq_ok {writer after : SegmentWriter σ} (flushed : writer.flush = (after, .ok ())) :
    ∃ sink, Sink.sync writer.sink = (sink, .ok ()) ∧
      after = { writer with sink := sink, flushedOffset := writer.offset, unsynced := 0 } := by
  rw [flush] at flushed
  split at flushed
  · next sink synced => exact ⟨sink, synced, (Prod.mk.inj flushed).1.symm⟩
  · simp at flushed

theorem of_start_eq_ok {config : Config} {sink : σ} {writer : SegmentWriter σ}
    (started : start config sink = .ok writer) :
    checkConfig config = .ok () ∧ ∃ headed synced,
      Sink.write config.layoutVersion.header.toByteArray sink = (headed, .ok ()) ∧
      Sink.sync headed = (synced, .ok ()) ∧
      writer = { blank config synced with
        offset := config.layoutVersion.header.length
        flushedOffset := config.layoutVersion.header.length } := by
  have size : 0 + config.layoutVersion.header.toByteArray.size =
      config.layoutVersion.header.length := by
    rw [Nat.zero_add, ← Packed.length_toList, Packed.toList_toByteArray]
  rw [start] at started
  split at started
  · contradiction
  · next checked =>
    split at started
    · contradiction
    · next after written =>
      obtain ⟨headed, wrote, rfl⟩ := of_write_eq_ok written
      split at started
      · contradiction
      · next after flushed =>
        obtain ⟨synced, kept, rfl⟩ := of_flush_eq_ok flushed
        obtain rfl := Except.ok.inj started
        refine ⟨checked, headed, synced, wrote, kept, ?_⟩
        rw [← size]
        rfl

theorem Wrote.write_ok (atomic : Sink.Atomic holds) {writer after : SegmentWriter σ}
    {bytes : List UInt8} {last : Option UInt64} (wrote : writer.Wrote holds bytes last)
    {chunk : ByteArray} (written : writer.write chunk = (after, .ok ())) :
    ∃ sink, after = { writer with sink := sink, offset := writer.offset + chunk.size } ∧
      after.Wrote holds (bytes ++ Packed.toList chunk) last := by
  obtain ⟨sink, taken, rfl⟩ := of_write_eq_ok written
  refine ⟨sink, rfl, atomic.wrote wrote.held taken, ?_, wrote.last⟩
  rw [List.length_append, Packed.length_toList, ← wrote.offset]

theorem Wrote.flush_ok (atomic : Sink.Atomic holds) {writer after : SegmentWriter σ}
    {bytes : List UInt8} {last : Option UInt64} (wrote : writer.Wrote holds bytes last)
    (flushed : writer.flush = (after, .ok ())) :
    ∃ sink, after = { writer with sink := sink, flushedOffset := writer.offset, unsynced := 0 } ∧
      after.Wrote holds bytes last := by
  obtain ⟨sink, synced, rfl⟩ := of_flush_eq_ok flushed
  exact ⟨sink, rfl, atomic.synced wrote.held synced, wrote.offset, wrote.last⟩

theorem Wrote.write (keeps : Sink.Keeps holds) {writer : SegmentWriter σ} {bytes : List UInt8}
    {last : Option UInt64} (wrote : writer.Wrote holds bytes last) (chunk : ByteArray) :
    ∃ sink, writer.write chunk =
        ({ writer with sink := sink, offset := writer.offset + chunk.size }, .ok ()) ∧
      Wrote holds { writer with sink := sink, offset := writer.offset + chunk.size }
        (bytes ++ Packed.toList chunk) last := by
  obtain ⟨sink, taken, -⟩ := keeps.write chunk wrote.held
  have written : writer.write chunk =
      ({ writer with sink := sink, offset := writer.offset + chunk.size }, .ok ()) := by
    rw [SegmentWriter.write, taken]
  obtain ⟨_, -, kept⟩ := wrote.write_ok keeps.atomic written
  exact ⟨sink, written, kept⟩

theorem Wrote.flush (keeps : Sink.Keeps holds) {writer : SegmentWriter σ} {bytes : List UInt8}
    {last : Option UInt64} (wrote : writer.Wrote holds bytes last) :
    ∃ sink, writer.flush =
        ({ writer with sink := sink, flushedOffset := writer.offset, unsynced := 0 }, .ok ()) ∧
      Wrote holds { writer with sink := sink, flushedOffset := writer.offset, unsynced := 0 }
        bytes last := by
  obtain ⟨sink, synced, -⟩ := keeps.sync wrote.held
  have flushed : writer.flush =
      ({ writer with sink := sink, flushedOffset := writer.offset, unsynced := 0 }, .ok ()) := by
    rw [SegmentWriter.flush, synced]
  obtain ⟨_, -, kept⟩ := wrote.flush_ok keeps.atomic flushed
  exact ⟨sink, flushed, kept⟩

structure SameSetup (writer other : SegmentWriter σ) : Prop where
  version : other.version = writer.version
  sync : other.sync = writer.sync
  preallocation : other.preallocation = writer.preallocation

theorem start_ok (atomic : Sink.Atomic holds) {config : Config} {sink : σ} (empty : holds sink [])
    {writer : SegmentWriter σ} (started : start config sink = .ok writer) :
    writer.Wrote holds config.layoutVersion.header none ∧ writer.flushedOffset = writer.offset ∧
      SameSetup (blank config sink) writer ∧ writer.nextTxid = 1 := by
  obtain ⟨-, headed, synced, wrote, flushed, rfl⟩ := of_start_eq_ok started
  have held := atomic.synced (atomic.wrote empty wrote) flushed
  rw [Packed.toList_toByteArray, List.nil_append] at held
  exact ⟨⟨held, rfl, rfl⟩, rfl, ⟨rfl, rfl, rfl⟩, rfl⟩

theorem start_of_keeps (keeps : Sink.Keeps holds) {config : Config}
    (checked : checkConfig config = .ok ()) {sink : σ} (empty : holds sink []) :
    ∃ writer, start config sink = .ok writer ∧
      writer.Wrote holds config.layoutVersion.header none ∧
      SameSetup (blank config sink) writer ∧ writer.nextTxid = 1 := by
  have blank : (blank config sink).Wrote holds [] none := ⟨empty, rfl, rfl⟩
  obtain ⟨headed, wrote, kept⟩ := blank.write keeps config.layoutVersion.header.toByteArray
  obtain ⟨synced, flushed, -⟩ := kept.flush keeps
  obtain ⟨writer, started⟩ : ∃ writer, start config sink = .ok writer := by
    rw [start, checked]
    simp only [wrote, flushed]
    exact ⟨_, rfl⟩
  obtain ⟨kept, -, rest⟩ := start_ok keeps.atomic empty started
  exact ⟨writer, started, kept, rest⟩

theorem Wrote.recorded (atomic : Sink.Atomic holds) {writer : SegmentWriter σ} {bytes : List UInt8}
    {last : Option UInt64} (wrote : writer.Wrote holds bytes last) {record : Record}
    {chunk : ByteArray} {sink : σ} (takes : Takes writer record chunk sink) :
    (writer.recorded record chunk.size sink).Wrote holds (bytes ++ Packed.toList chunk)
      (some record.txid) := by
  refine ⟨atomic.wrote wrote.held takes.wrote, ?_, rfl⟩
  rw [List.length_append, Packed.length_toList, ← wrote.offset]
  rfl

theorem appendRecord_of_keeps (keeps : Sink.Keeps holds) {writer : SegmentWriter σ}
    {bytes encoding : List UInt8} {last : Option UInt64} (wrote : writer.Wrote holds bytes last)
    {record : Record} (later : follows last record.txid = true)
    (encoded : record.encode writer.version = .ok encoding) :
    ∃ after, writer.appendRecord record = (after, .ok ()) ∧
      after.Wrote holds (bytes ++ encoding) (some record.txid) ∧ SameSetup writer after ∧
      after.nextTxid = max writer.nextTxid (record.txid + 1) := by
  have taken {chunk : ByteArray} {sink : σ} (takes : Takes writer record chunk sink) :
      (writer.recorded record chunk.size sink).Wrote holds (bytes ++ encoding)
        (some record.txid) := by
    obtain rfl : encoding = Packed.toList chunk := Except.ok.inj (encoded ▸ takes.encoded)
    exact wrote.recorded keeps.atomic takes
  have appends := writer.appends record
  generalize writer.fate record = fate, writer.appendRecord record = result at appends ⊢
  cases appends with
  | rejected unfit =>
    rcases unfit with early | ⟨error, large⟩
    · rw [wrote.last, later] at early
      contradiction
    · rw [encoded] at large
      contradiction
  | @refused chunk _ _ _ refused =>
    obtain ⟨sink, written, -⟩ := keeps.write chunk wrote.held
    exact absurd (refused.symm.trans written) (by simp)
  | written takes => exact ⟨_, rfl, taken takes, ⟨rfl, rfl, rfl⟩, rfl⟩
  | synced takes _ synced =>
    have held := keeps.atomic.synced (taken takes).held synced
    exact ⟨_, rfl, ⟨held, (taken takes).offset, rfl⟩, ⟨rfl, rfl, rfl⟩, rfl⟩
  | unsynced takes _ lost =>
    obtain ⟨sink, synced, -⟩ := keeps.sync (taken takes).held
    exact absurd (lost.symm.trans synced) (by simp)

theorem appendRecord_refused {writer : SegmentWriter σ} {record : Record}
    (refused : follows writer.lastTxid record.txid = false ∨
      ∃ error, record.encode writer.version = .error error) :
    ∃ error, writer.appendRecord record = (writer, .error error) := by
  have unfit {chunk : ByteArray} (fits : Fits writer record chunk) : False := by
    rcases refused with early | ⟨error, large⟩
    · rw [fits.later] at early
      contradiction
    · rw [fits.encoded] at large
      contradiction
  have appends := writer.appends record
  generalize writer.fate record = fate, writer.appendRecord record = result at appends ⊢
  cases appends with
  | rejected => exact ⟨_, rfl⟩
  | refused fits => exact (unfit fits).elim
  | written takes => exact (unfit takes.toFits).elim
  | synced takes => exact (unfit takes.toFits).elim
  | unsynced takes => exact (unfit takes.toFits).elim

theorem appendRecord_early {writer : SegmentWriter σ} {last : UInt64}
    (known : writer.lastTxid = some last) {record : Record} (early : record.txid < last) :
    writer.appendRecord record = (writer, .error (.write (.outOfOrder record.txid last))) := by
  simp only [appendRecord, checkOrder, known, if_pos early]

omit [Sink σ] in
theorem trailer_eq {writer : SegmentWriter σ} (chunked : writer.preallocation ≠ some 0) :
    ∃ fill, writer.trailer = List.replicate (fill + 1) Opcode.fillByte ∧
      (writer.preallocation = none → fill = 0) := by
  rw [trailer]
  cases setup : writer.preallocation with
  | none => exact ⟨0, by simp, fun _ => rfl⟩
  | some chunk =>
    have positive : 0 < chunk := by
      apply Nat.pos_of_ne_zero
      intro same
      subst same
      exact chunked setup
    have parts := Nat.div_add_mod (writer.offset + 1 + chunk - 1) chunk
    have small := Nat.mod_lt (writer.offset + 1 + chunk - 1) positive
    rw [Nat.mul_comm] at parts
    obtain ⟨fill, length⟩ : ∃ fill, (writer.offset + 1 + chunk - 1) / chunk * chunk -
        writer.offset = fill + 1 := Nat.exists_eq_add_of_le' (by omega)
    exact ⟨fill, by rw [length], nofun⟩

omit [Sink σ] in
theorem stop_trailer {writer : SegmentWriter σ} {chunk : Nat}
    (chunked : writer.preallocation = some chunk) (positive : 0 < chunk) :
    IsLeast {stop | chunk ∣ stop ∧ writer.offset < stop} (writer.offset + writer.trailer.length) := by
  have above : writer.offset < (writer.offset / chunk + 1) * chunk := by
    rw [Nat.add_one_mul]
    exact Nat.lt_div_mul_add positive
  have stop : writer.offset + writer.trailer.length = (writer.offset / chunk + 1) * chunk := by
    have marked : writer.offset + 1 + chunk - 1 = writer.offset + chunk := by omega
    rw [trailer, chunked, List.length_replicate]
    simp only
    rw [marked, Nat.add_div_right _ positive]
    exact Nat.add_sub_cancel' (Nat.le_of_lt above)
  rw [stop]
  refine ⟨⟨Nat.dvd_mul_left .., above⟩, ?_⟩
  rintro _ ⟨⟨count, rfl⟩, beyond⟩
  rw [Nat.mul_comm chunk] at beyond ⊢
  exact Nat.mul_le_mul_right chunk (Nat.div_lt_of_lt_mul (Nat.mul_comm .. ▸ beyond))

omit [Sink σ] in
theorem trailer_fills {writer : SegmentWriter σ} (chunked : writer.preallocation ≠ some 0) :
    ∃ fill, writer.trailer = List.replicate (fill + 1) Opcode.fillByte ∧
      (writer.preallocation = none → fill = 0) ∧
      ∀ chunk, writer.preallocation = some chunk →
        IsLeast {stop | chunk ∣ stop ∧ writer.offset < stop} (writer.offset + (fill + 1)) := by
  obtain ⟨fill, trailer, unpadded⟩ := trailer_eq chunked
  refine ⟨fill, trailer, unpadded, fun chunk setup => ?_⟩
  have positive : 0 < chunk := Nat.pos_of_ne_zero fun zero => chunked (zero ▸ setup)
  have stop := stop_trailer setup positive
  rwa [trailer, List.length_replicate] at stop

theorem Wrote.close (atomic : Sink.Atomic holds) {writer : SegmentWriter σ} {bytes : List UInt8}
    {last : Option UInt64} (wrote : writer.Wrote holds bytes last) {after : σ}
    (closed : writer.close = (after, .ok ())) : holds after (bytes ++ writer.trailer) := by
  rw [SegmentWriter.close] at closed
  split at closed
  · simp at closed
  · next ended written =>
    obtain ⟨sink, rfl, wrote⟩ := wrote.write_ok atomic written
    obtain ⟨left, succeeded⟩ := Prod.mk.inj closed
    obtain ⟨_, same, wrote⟩ := wrote.flush_ok atomic (Prod.ext rfl succeeded)
    have held := wrote.held
    rw [Packed.toList_toByteArray] at held
    exact left ▸ held

theorem close_of_keeps (keeps : Sink.Keeps holds) {writer : SegmentWriter σ} {bytes : List UInt8}
    {last : Option UInt64} (wrote : writer.Wrote holds bytes last) :
    ∃ sink, writer.close = (sink, .ok ()) ∧ holds sink (bytes ++ writer.trailer) := by
  obtain ⟨_, written, kept⟩ := wrote.write keeps writer.trailer.toByteArray
  obtain ⟨sink, flushed, -⟩ := kept.flush keeps
  have closed : writer.close = (sink, .ok ()) := by
    rw [close, written]
    simp only [flushed]
  exact ⟨sink, closed, wrote.close keeps.atomic closed⟩

end SegmentWriter

end Journal
