import Journal.Bytes.Input
import Journal.Opcode

/-!
The fill after the end marker of a segment carries nothing. While a segment is read, the length of the
fill at its end is known, so that telling an end marker from damage takes no search.
-/

set_option autoImplicit false

namespace Journal

def isFill (bytes : List UInt8) : Bool := bytes.all (· == Opcode.fillByte)

def equalIgnoringFill (a b : List UInt8) : Bool :=
  -- One starts with the other, and all that the longer one adds is fill.
  let (small, large) := if a.length ≤ b.length then (a, b) else (b, a)
  small.isPrefixOf large && isFill (large.drop small.length)

def trailingFill (bytes : List UInt8) : Nat :=
  bytes.foldl (fun run byte => if byte == Opcode.fillByte then run + 1 else 0) 0

theorem trailingFill_eq (bytes : List UInt8) :
    trailingFill bytes = (bytes.reverse.takeWhile (· == Opcode.fillByte)).length := by
  rw [trailingFill, List.foldl_eq_foldr_reverse]
  induction bytes.reverse with
  | nil => rfl
  | cons byte rest ih =>
    rw [List.foldr_cons, ih, List.takeWhile_cons]
    split <;> rfl

theorem trailingFill_drop (count : Nat) (bytes : List UInt8) :
    trailingFill (bytes.drop count) = min (bytes.length - count) (trailingFill bytes) := by
  simp [trailingFill_eq, List.reverse_drop, ← List.take_takeWhile]

theorem length_le_length_takeWhile_iff {p : UInt8 → Bool} {bytes : List UInt8} :
    bytes.length ≤ (bytes.takeWhile p).length ↔ bytes.all p = true := by
  induction bytes with
  | nil => simp
  | cons byte rest ih => by_cases h : p byte = true <;> simp_all

theorem isFill_eq_decide (bytes : List UInt8) :
    isFill bytes = decide (bytes.length ≤ trailingFill bytes) := by
  rw [Bool.eq_iff_iff, decide_eq_true_iff, trailingFill_eq, ← List.length_reverse,
    length_le_length_takeWhile_iff, List.all_reverse, isFill]

structure Remainder where
  input : Input
  fill : Nat
  fill_eq : fill = trailingFill input.bytes

namespace Remainder

def ofInput (input : Input) : Remainder := ⟨input, trailingFill input.bytes, rfl⟩

def drop (count : Nat) (rest : Remainder) : Remainder where
  input := rest.input.drop count
  fill := min (rest.input.size - count) rest.fill
  fill_eq := by simp [trailingFill_drop, rest.fill_eq, rest.input.size_eq]

def bytes (rest : Remainder) : List UInt8 := rest.input.bytes

def size (rest : Remainder) : Nat := rest.input.size

def isFill (rest : Remainder) : Bool := rest.size ≤ rest.fill

@[simp] theorem bytes_drop (count : Nat) (rest : Remainder) :
    (rest.drop count).bytes = rest.bytes.drop count := rfl

@[simp] theorem size_drop (count : Nat) (rest : Remainder) :
    (rest.drop count).size = rest.size - count := rfl

@[simp] theorem isFill_eq (rest : Remainder) : rest.isFill = Journal.isFill rest.bytes := by
  simp [isFill, isFill_eq_decide, rest.fill_eq, size, bytes, rest.input.size_eq]

end Remainder

end Journal
