import Mathlib.Algebra.Group.Nat.Defs
import Mathlib.Data.List.Induction
import Journal.Bytes.BigEndian

set_option autoImplicit false

namespace Journal.BigEndian

theorem decode_append_singleton (bytes : List UInt8) (byte : UInt8) :
    decode (bytes ++ [byte]) = decode bytes * 256 + byte.toNat := by
  simp [decode]

theorem decode_encode (width n : Nat) : decode (encode width n) = n % 256 ^ width := by
  induction width generalizing n with
  | zero => simp [encode, decode, Nat.mod_one]
  | succ width ih =>
    have digits : n % (256 * 256 ^ width) = n % 256 + 256 * (n / 256 % 256 ^ width) :=
      Nat.mod_mul ..
    rw [encode, decode_append_singleton, ih, Nat.pow_succ', digits, UInt8.toNat_ofNat']
    omega

theorem decode_encode_of_lt {width n : Nat} (fits : n < 256 ^ width) :
    decode (encode width n) = n := by
  rw [decode_encode, Nat.mod_eq_of_lt fits]

theorem decode_lt (bytes : List UInt8) : decode bytes < 256 ^ bytes.length := by
  induction bytes using List.reverseRecOn with
  | nil => simp [decode]
  | append_singleton bytes byte ih =>
    have small := byte.toNat_lt
    rw [decode_append_singleton, List.length_append, List.length_singleton, Nat.pow_succ]
    omega

theorem encode_decode (bytes : List UInt8) : encode bytes.length (decode bytes) = bytes := by
  induction bytes using List.reverseRecOn with
  | nil => rfl
  | append_singleton bytes byte ih =>
    have small := byte.toNat_lt
    have high : (decode bytes * 256 + byte.toNat) / 256 = decode bytes := by omega
    have low : UInt8.ofNat (decode bytes * 256 + byte.toNat) = byte := by
      apply UInt8.toNat_inj.mp
      rw [UInt8.toNat_ofNat']
      omega
    rw [decode_append_singleton, List.length_append, List.length_singleton, encode, high, ih, low]

theorem toNat_front {width : Nat} (narrow : width ≤ 8) (bytes : List UInt8) :
    (front width bytes).toNat = decode (bytes.take width) := by
  have short : (bytes.take width).length ≤ 8 := by
    rw [List.length_take]
    omega
  have wide : decode (bytes.take width) < 2 ^ 64 :=
    Nat.lt_of_lt_of_le (decode_lt _) (Nat.pow_le_pow_right (by omega) short : _ ≤ 256 ^ 8)
  rw [front_eq, UInt64.toNat_ofNat', Nat.mod_eq_of_lt wide]

theorem toNat_front_lt {width : Nat} (narrow : width ≤ 8) (bytes : List UInt8) :
    (front width bytes).toNat < 256 ^ width := by
  have short : (bytes.take width).length ≤ width := by
    rw [List.length_take]
    omega
  rw [toNat_front narrow]
  exact Nat.lt_of_lt_of_le (decode_lt _) (Nat.pow_le_pow_right (by omega) short)

theorem encode_front {width : Nat} (narrow : width ≤ 8) {bytes : List UInt8}
    (enough : width ≤ bytes.length) : encode width (front width bytes).toNat = bytes.take width := by
  have written := encode_decode (bytes.take width)
  rwa [List.length_take, Nat.min_eq_left enough, ← toNat_front narrow] at written

theorem front_append {width n : Nat} (fits : n < 256 ^ width) (rest : List UInt8) :
    front width (encode width n ++ rest) = UInt64.ofNat n := by
  rw [front_eq, List.take_left' (length_encode width n), decode_encode_of_lt fits]

end Journal.BigEndian
