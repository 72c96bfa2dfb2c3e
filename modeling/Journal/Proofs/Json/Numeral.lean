import Mathlib.Algebra.Group.Nat.Defs
import Journal.Json.Numeral
import Journal.Proofs.Text.Utf8

set_option autoImplicit false

namespace Journal

def Numeral.extendAll? (numeral : Numeral) (bytes : List UInt8) : Option Numeral :=
  bytes.foldlM Numeral.extend numeral

theorem Numeral.extendAll?_append (numeral : Numeral) (first second : List UInt8) :
    numeral.extendAll? (first ++ second) =
      (numeral.extendAll? first).bind (·.extendAll? second) :=
  List.foldlM_append

def digitBytes (n : Nat) : List UInt8 := Utf8.encode (toString n)

def digitByte (d : Nat) : UInt8 := UInt8.ofNat (0x30 + d)

theorem digitBytes_of_lt {d : Nat} (small : d < 10) : digitBytes d = [digitByte d] := by
  have ascii : d.digitChar.toNat = 0x30 + d := Nat.toNat_digitChar_of_lt_ten small
  rw [digitBytes, Nat.toString_eq_ofList_toDigits, Nat.toDigits_of_lt_base small,
    Utf8.encode_ofList, List.flatMap_singleton, Utf8.encodeChar_of_ascii (by omega), ascii]
  rfl

theorem digitBytes_of_le {n : Nat} (large : 10 ≤ n) :
    digitBytes n = digitBytes (n / 10) ++ [digitByte (n % 10)] := by
  have small : n % 10 < 10 := Nat.mod_lt _ (by decide)
  rw [← digitBytes_of_lt small, digitBytes, digitBytes, digitBytes,
    ← Utf8.encode_append]
  congr 1
  exact Nat.repr_eq_repr_append_repr large

theorem digitBytes_eq_cons (n : Nat) : ∃ d < 10, ∃ rest, digitBytes n = digitByte d :: rest := by
  induction n using Nat.strongRecOn with
  | ind n ih =>
    by_cases small : n < 10
    · exact ⟨n, small, [], digitBytes_of_lt small⟩
    · obtain ⟨d, digit, rest, first⟩ := ih (n / 10) (by omega)
      exact ⟨d, digit, rest ++ [digitByte (n % 10)], by rw [digitBytes_of_le (by omega), first]; rfl⟩

namespace Numeral

theorem digit?_digitByte {d : Nat} (small : d < 10) : digit? (digitByte d) = some d := by
  have all : ∀ d < 10, digit? (digitByte d) = some d := by decide
  exact all d small

theorem extend_whole {numeral : Numeral} (inside : numeral.place = .whole) {d : Nat}
    (small : d < 10) :
    numeral.extend (digitByte d) = some { numeral with whole := d :: numeral.whole } := by
  have others : ∀ d < 10, digitByte d ≠ 0x2E ∧ isMark (digitByte d) = false := by decide
  obtain ⟨noPoint, noMark⟩ := others d small
  simp only [extend, inside, if_neg noPoint, noMark, Bool.false_eq_true, if_false, pushWhole,
    digit?_digitByte small, Option.map_some]

theorem extend_first (negative : Bool) {d : Nat} (positive : 0 < d) (small : d < 10) :
    (empty negative).extend (digitByte d) = some ⟨.whole, negative, [d], [], false, 0⟩ := by
  have other : ∀ d < 10, 0 < d → digitByte d ≠ 0x30 := by decide
  simp only [extend, empty, if_neg (other d small positive), pushWhole, digit?_digitByte small,
    Option.map_some]

theorem ofDigits_append (digits : List Nat) (d : Nat) :
    ofDigits (digits ++ [d]) = ofDigits digits * 10 + d := by
  rw [ofDigits, List.foldl_append]
  rfl

theorem extendAll?_positive (negative : Bool) {n : Nat} (positive : 0 < n) :
    ∃ whole, (empty negative).extendAll? (digitBytes n) =
        some ⟨.whole, negative, whole, [], false, 0⟩ ∧
      ofDigits whole.reverse = n ∧ whole.length = (digitBytes n).length := by
  induction n using Nat.strongRecOn with
  | ind n ih =>
    by_cases small : n < 10
    · refine ⟨[n], ?_, ?_, by rw [digitBytes_of_lt small]; rfl⟩
      · rw [digitBytes_of_lt small, extendAll?, List.foldlM_cons, extend_first negative positive small]
        rfl
      · simp [ofDigits]
    · have fewer : n / 10 < n := by omega
      obtain ⟨whole, read, value, length⟩ := ih (n / 10) fewer (by omega)
      have last : n % 10 < 10 := Nat.mod_lt _ (by decide)
      refine ⟨n % 10 :: whole, ?_, ?_, ?_⟩
      · rw [digitBytes_of_le (by omega), extendAll?_append, read, Option.bind_some, extendAll?,
          List.foldlM_cons, extend_whole rfl last]
        rfl
      · rw [List.reverse_cons, ofDigits_append, value]
        omega
      · rw [digitBytes_of_le (by omega), List.length_cons, length, List.length_append,
          List.length_singleton]

end Numeral

theorem length_digitBytes_le {n k : Nat} (within : n < 10 ^ (k + 1)) :
    (digitBytes n).length ≤ k + 1 := by
  induction k generalizing n with
  | zero =>
    rw [digitBytes_of_lt (by simpa using within)]
    exact Nat.le_refl 1
  | succ k ih =>
    by_cases small : n < 10
    · rw [digitBytes_of_lt small, List.length_singleton]
      omega
    · have fewer : n / 10 < 10 ^ (k + 1) := by
        rw [Nat.div_lt_iff_lt_mul (by decide), ← Nat.pow_succ]
        exact within
      have shorter := ih fewer
      rw [digitBytes_of_le (by omega), List.length_append, List.length_singleton]
      omega

namespace Numeral

theorem literal_of_digits {negative : Bool} {place : NumeralPlace} {whole : List Nat} {n : Nat}
    (plain : place = .zero ∨ place = .whole) (value : ofDigits whole.reverse = n)
    (short : whole.length ≤ safeDigits) (signed : negative = true → 0 < n) :
    literal ⟨place, negative, whole, [], false, 0⟩ = .int (if negative then -n else n) := by
  have isPlain : isPlain ⟨place, negative, whole, [], false, 0⟩ = true := by
    rcases plain with rfl | rfl <;> rfl
  have finite : isFinite ⟨place, negative, whole, [], false, 0⟩ = true := by
    rw [isFinite, isPlain]
    simp [short]
  simp only [literal, finite, isPlain, value]
  cases negative with
  | false => rfl
  | true => simp [Nat.ne_of_gt (signed rfl)]

theorem extendAll?_digitBytes {n : Nat} (small : n < 2 ^ 64) :
    ∃ numeral, (empty false).extendAll? (digitBytes n) = some numeral ∧
      numeral.isPlain = true ∧ numeral.literal = .int n := by
  by_cases positive : 0 < n
  · obtain ⟨whole, read, value, length⟩ := extendAll?_positive false positive
    have short : whole.length ≤ safeDigits := by
      rw [length]
      exact length_digitBytes_le (Nat.lt_of_lt_of_le small (by decide +kernel))
    exact ⟨_, read, rfl, literal_of_digits (.inr rfl) value short nofun⟩
  · have zero : n = 0 := by omega
    subst zero
    exact ⟨⟨.zero, false, [0], [], false, 0⟩, by rw [digitBytes_of_lt (by decide)]; rfl, rfl,
      literal_of_digits (.inl rfl) rfl (by decide) nofun⟩

theorem extendAll?_negative {n : Nat} (positive : 0 < n) (small : n < 2 ^ 64) :
    ∃ numeral, (empty true).extendAll? (digitBytes n) = some numeral ∧
      numeral.isPlain = true ∧ numeral.literal = .int (-n) := by
  obtain ⟨whole, read, value, length⟩ := extendAll?_positive true positive
  have short : whole.length ≤ safeDigits := by
    rw [length]
    exact length_digitBytes_le (Nat.lt_of_lt_of_le small (by decide +kernel))
  exact ⟨_, read, rfl, literal_of_digits (.inr rfl) value short fun _ => positive⟩

end Numeral

end Journal
