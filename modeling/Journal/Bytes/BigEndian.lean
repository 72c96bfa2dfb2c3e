import Journal.Bytes.Packed

set_option autoImplicit false

namespace Journal.BigEndian

def encode : (width n : Nat) → List UInt8
  | 0, _ => []
  | width + 1, n => encode width (n / 256) ++ [UInt8.ofNat n]

def decode (bytes : List UInt8) : Nat :=
  bytes.foldl (fun n byte => n * 256 + byte.toNat) 0

def prepend : (width : Nat) → (word : UInt64) → (rest : List UInt8) → List UInt8
  | 0, _, rest => rest
  | width + 1, word, rest => prepend width (word / 256) (word.toUInt8 :: rest)

def push (target : ByteArray) (width : Nat) (word : UInt64) : ByteArray :=
  (prepend width word []).foldl ByteArray.push target

def extend : (width : Nat) → (bytes : List UInt8) → (word : UInt64) → UInt64
  | width + 1, byte :: rest, word => extend width rest (word * 256 + byte.toUInt64)
  | _, _, word => word

def front (width : Nat) (bytes : List UInt8) : UInt64 := extend width bytes 0

@[simp] theorem length_encode (width n : Nat) : (encode width n).length = width := by
  induction width generalizing n with
  | zero => rfl
  | succ width ih => simp [encode, ih]

theorem encode_mod (width n : Nat) : encode width (n % Nat.pow 256 width) = encode width n := by
  -- What does not fit into `width` bytes does not count.
  induction width generalizing n with
  | zero => rfl
  | succ width ih =>
    have low : UInt8.ofNat (n % (256 * Nat.pow 256 width)) = UInt8.ofNat n :=
      UInt8.toNat_inj.mp (Nat.mod_mul_right_mod ..)
    have parts : Nat.pow 256 (width + 1) = 256 * Nat.pow 256 width := Nat.pow_succ'
    rw [encode, encode, parts, low, Nat.mod_mul_right_div_self, ih]

theorem prepend_eq (width : Nat) (word : UInt64) (rest : List UInt8) :
    prepend width word rest = encode width word.toNat ++ rest := by
  induction width generalizing word rest with
  | zero => rfl
  | succ width ih =>
    have low : UInt8.ofNat word.toNat = word.toUInt8 := rfl
    rw [prepend, ih, encode, low, UInt64.toNat_div, List.append_assoc]
    rfl

theorem toList_push (target : ByteArray) (width : Nat) (word : UInt64) :
    Packed.toList (push target width word) = Packed.toList target ++ encode width word.toNat := by
  rw [push, Packed.toList_foldl_push, prepend_eq, List.append_nil]

theorem extend_eq (width : Nat) (bytes : List UInt8) (n : Nat) :
    extend width bytes (UInt64.ofNat n) =
      UInt64.ofNat ((bytes.take width).foldl (fun n byte => n * 256 + byte.toNat) n) := by
  induction width generalizing bytes n with
  | zero => simp [extend]
  | succ width ih =>
    cases bytes with
    | nil => simp [extend]
    | cons byte rest =>
      have next : UInt64.ofNat n * 256 + byte.toUInt64 = UInt64.ofNat (n * 256 + byte.toNat) := by
        simp [UInt64.ofNat_add, UInt64.ofNat_mul]
      rw [extend, next, ih, List.take_succ_cons, List.foldl_cons]

theorem front_eq (width : Nat) (bytes : List UInt8) :
    front width bytes = UInt64.ofNat (decode (bytes.take width)) := extend_eq width bytes 0

end Journal.BigEndian
