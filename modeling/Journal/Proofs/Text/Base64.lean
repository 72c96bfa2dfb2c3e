import Journal.Text.Base64

set_option autoImplicit false

namespace Journal.Base64

theorem value?_symbol {n : Nat} (small : n < 64) : value? (symbol n) = some n := by
  have all : ∀ n < 64, value? (symbol n) = some n := by decide +kernel
  exact all n small

theorem symbol_ne_pad {n : Nat} (small : n < 64) : symbol n ≠ '=' := by
  intro same
  have found := value?_symbol small
  rw [same, show value? '=' = none by decide] at found
  contradiction

theorem group?_symbols {n : Nat} (small : n < 16777216) :
    group? (symbol (n / 262144)) (symbol (n / 4096 % 64)) (symbol (n / 64 % 64)) (symbol (n % 64)) =
      some [UInt8.ofNat (n / 65536), UInt8.ofNat (n / 256), UInt8.ofNat n] := by
  have whole : (((n / 262144) * 64 + n / 4096 % 64) * 64 + n / 64 % 64) * 64 + n % 64 = n := by
    omega
  simp only [group?, value?_symbol (show n / 262144 < 64 by omega),
    value?_symbol (show n / 4096 % 64 < 64 by omega), value?_symbol (show n / 64 % 64 < 64 by omega),
    value?_symbol (show n % 64 < 64 by omega), Option.bind_eq_bind, Option.bind_some, whole]

theorem ofNat_eq {n : Nat} {byte : UInt8} (same : n % 256 = byte.toNat) : UInt8.ofNat n = byte := by
  apply UInt8.toNat_inj.mp
  rw [UInt8.toNat_ofNat', ← same]

theorem lastGroup?_eq_group? {a b c d : Char} (full : d ≠ '=') :
    lastGroup? a b c d = group? a b c d := by
  rw [lastGroup?, if_pos full]

theorem decode?_group {a b c d : Char} (full : d ≠ '=') (rest : List Char) :
    decode? (a :: b :: c :: d :: rest) =
      (do return (← group? a b c d) ++ (← decode? rest)) := by
  cases rest with
  | nil =>
    rw [show decode? [a, b, c, d] = lastGroup? a b c d from rfl, lastGroup?_eq_group? full]
    cases group? a b c d <;> simp [decode?]
  | cons e rest => rw [decode?]; simp

theorem decode?_encode (bytes : List UInt8) : decode? (encode bytes) = some bytes := by
  fun_induction encode bytes with
  | case1 a b c rest n ih =>
    have small := a.toNat_lt
    have small' := b.toNat_lt
    have small'' := c.toNat_lt
    have first : UInt8.ofNat (n / 65536) = a := ofNat_eq (by omega)
    have second : UInt8.ofNat (n / 256) = b := ofNat_eq (by omega)
    have third : UInt8.ofNat n = c := ofNat_eq (by omega)
    rw [decode?_group (symbol_ne_pad (by omega)), group?_symbols (by omega), ih, first, second, third]
    rfl
  | case2 a b n =>
    have small := a.toNat_lt
    have small' := b.toNat_lt
    have whole : (n / 4096 * 64 + n / 64 % 64) * 64 + n % 64 = n := by omega
    have first : UInt8.ofNat (n / 1024) = a := ofNat_eq (by omega)
    have second : UInt8.ofNat (n / 4) = b := ofNat_eq (by omega)
    have unused : n % 4 = 0 := by omega
    simp only [decode?, lastGroup?, value?_symbol (show n / 4096 < 64 by omega),
      value?_symbol (show n / 64 % 64 < 64 by omega), value?_symbol (show n % 64 < 64 by omega),
      Option.bind_eq_bind, Option.bind_some, whole, first, second, unused, if_true,
      if_pos (symbol_ne_pad (show n % 64 < 64 by omega)), ne_eq, not_true, if_false]
  | case3 a n =>
    have small := a.toNat_lt
    have whole : n / 64 * 64 + n % 64 = n := by omega
    have only : UInt8.ofNat (n / 16) = a := ofNat_eq (by omega)
    have unused : n % 16 = 0 := by omega
    simp only [decode?, lastGroup?, value?_symbol (show n / 64 < 64 by omega),
      value?_symbol (show n % 64 < 64 by omega), Option.bind_eq_bind, Option.bind_some, whole, only,
      unused, if_true, ne_eq, not_true, if_false]
  | case4 => rfl

end Journal.Base64
