import Journal.Bytes.Crc32

set_option autoImplicit false

namespace Journal

namespace Crc32

theorem low_bit (register : UInt32) :
    decide (register &&& 1 = 1) = register.toBitVec.getLsbD 0 := by
  have value : (register &&& 1).toNat = register.toNat % 2 := by
    rw [UInt32.toNat_and]
    exact Nat.and_one_is_mod _
  have bit : register.toBitVec.getLsbD 0 = decide (register.toNat % 2 = 1) := by
    rw [BitVec.getLsbD, UInt32.toNat_toBitVec, Nat.testBit_zero]
  rw [bit, decide_eq_decide, ← UInt32.toNat_inj, value]
  rfl

theorem getLsbD_shift (register : UInt32) (i : Nat) :
    (shift register).toBitVec.getLsbD i =
      (register.toBitVec.getLsbD (i + 1) ^^
        (register.toBitVec.getLsbD 0 && polynomial.toBitVec.getLsbD i)) := by
  -- Every bit moves down; the lowest is kept in those of the polynomial.
  rw [← low_bit, shift]
  by_cases odd : register &&& 1 = 1 <;>
    simp [odd, Nat.add_comm]

theorem shift_injective {first second : UInt32} (same : shift first = shift second) :
    first = second := by
  have bits (i : Nat) := congrArg (fun register => register.toBitVec.getLsbD i) same
  simp only [getLsbD_shift] at bits
  -- The polynomial has the highest bit, which nothing is moved into.
  have lowest : first.toBitVec.getLsbD 0 = second.toBitVec.getLsbD 0 := by
    have top := bits 31
    have out (register : UInt32) : register.toBitVec.getLsbD 32 = false :=
      BitVec.getLsbD_of_ge _ _ (Nat.le_refl 32)
    have set : polynomial.toBitVec.getLsbD 31 = true := by decide
    simpa only [out, set, Bool.false_xor, Bool.and_true] using top
  apply UInt32.toBitVec_inj.mp
  apply BitVec.eq_of_getLsbD_eq
  intro i _
  cases i with
  | zero => exact lowest
  | succ i =>
    have moved := bits i
    rw [lowest] at moved
    exact Bool.xor_left_inj.mp moved

theorem absorb_injective {first second : UInt32} {byte other : UInt8}
    (same : absorb first byte = absorb second other) :
    first ^^^ byte.toUInt32 = second ^^^ other.toUInt32 := by
  unfold absorb at same
  exact shift_injective (shift_injective (shift_injective (shift_injective (shift_injective
    (shift_injective (shift_injective (shift_injective same)))))))

theorem foldl_absorb_injective (bytes : List UInt8) {first second : UInt32}
    (same : bytes.foldl absorb first = bytes.foldl absorb second) : first = second := by
  induction bytes generalizing first second with
  | nil => exact same
  | cons byte bytes ih =>
    have kept := absorb_injective (ih same)
    exact (UInt32.xor_left_inj _).mp kept

theorem checksum_ne_of_byte_ne (front back : List UInt8) {byte other : UInt8}
    (different : byte ≠ other) :
    checksum (front ++ byte :: back) ≠ checksum (front ++ other :: back) := by
  intro same
  have registers := (UInt32.xor_left_inj _).mp same
  rw [List.foldl_append, List.foldl_append, List.foldl_cons, List.foldl_cons] at registers
  have words := absorb_injective (foldl_absorb_injective back registers)
  have bytes : byte.toUInt32 = other.toUInt32 := (UInt32.xor_right_inj _).mp words
  apply different
  rw [← UInt8.toUInt8_toUInt32 byte, bytes, UInt8.toUInt8_toUInt32]

theorem checksum_set_ne {bytes : List UInt8} {position : Nat} (inside : position < bytes.length)
    {byte : UInt8} (changed : bytes[position] ≠ byte) :
    checksum (bytes.set position byte) ≠ checksum bytes := by
  have whole : bytes = bytes.take position ++ bytes[position] :: bytes.drop (position + 1) := by
    rw [List.getElem_cons_drop, List.take_append_drop]
  rw [List.set_eq_take_append_cons_drop, if_pos inside]
  conv => rhs; rw [whole]
  exact checksum_ne_of_byte_ne _ _ changed.symm

end Crc32

end Journal
