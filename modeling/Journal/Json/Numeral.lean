import Journal.Json.Value

set_option autoImplicit false

namespace Journal

inductive NumeralPlace
  | sign | zero | whole | point | fraction | mark | markSign | exponent
deriving DecidableEq, Repr

/-- A number literal; the digits before its exponent are kept from last to first. -/
structure Numeral where
  place : NumeralPlace
  negative : Bool
  whole : List Nat
  fraction : List Nat
  exponentNegative : Bool
  exponent : Nat

namespace Numeral

@[inline] def digit? (byte : UInt8) : Option Nat :=
  if 0x30 ≤ byte ∧ byte ≤ 0x39 then some (byte.toNat - 0x30) else none

def empty (negative : Bool) : Numeral := ⟨.sign, negative, [], [], false, 0⟩

def isMark (byte : UInt8) : Bool := byte == 0x65 || byte == 0x45

@[inline] def pushWhole (numeral : Numeral) (byte : UInt8) : Option Numeral :=
  (digit? byte).map fun d => { numeral with place := .whole, whole := d :: numeral.whole }

@[inline] def pushFraction (numeral : Numeral) (byte : UInt8) : Option Numeral :=
  (digit? byte).map fun d => { numeral with place := .fraction, fraction := d :: numeral.fraction }

/-- An exponent that no digits before it make up for; a larger one is no different. -/
def maxExponent : Nat := 0x80000000

@[inline] def pushExponent (numeral : Numeral) (byte : UInt8) : Option Numeral :=
  (digit? byte).map fun d =>
    { numeral with place := .exponent, exponent := min (numeral.exponent * 10 + d) maxExponent }

@[inline] def enter (numeral : Numeral) (place : NumeralPlace) : Option Numeral :=
  some { numeral with place := place }

@[inline] def extend (numeral : Numeral) (byte : UInt8) : Option Numeral :=
  -- `none` when the byte cannot continue the literal. A zero takes no further digit.
  match numeral.place with
  | .sign =>
    if byte = 0x30 then some { numeral with place := .zero, whole := [0] }
    else numeral.pushWhole byte
  | .zero =>
    if byte = 0x2E then numeral.enter .point
    else if isMark byte then numeral.enter .mark
    else none
  | .whole =>
    if byte = 0x2E then numeral.enter .point
    else if isMark byte then numeral.enter .mark
    else numeral.pushWhole byte
  | .point => numeral.pushFraction byte
  | .fraction => if isMark byte then numeral.enter .mark else numeral.pushFraction byte
  | .mark =>
    if byte = 0x2B then numeral.enter .markSign
    else if byte = 0x2D then some { numeral with place := .markSign, exponentNegative := true }
    else numeral.pushExponent byte
  | .markSign => numeral.pushExponent byte
  | .exponent => numeral.pushExponent byte

def isComplete (numeral : Numeral) : Bool :=
  match numeral.place with
  | .zero | .whole | .fraction | .exponent => true
  | _ => false

def ofDigits (digits : List Nat) : Nat := digits.foldl (fun n d => n * 10 + d) 0

def isPlain (numeral : Numeral) : Bool := numeral.place = .zero || numeral.place = .whole

structure Significand where
  value : Nat
  exponent : Int
  full : Bool

def Significand.pushWhole (s : Significand) (d : Nat) : Significand :=
  if !s.full && s.value * 10 + d < UInt64.size then { s with value := s.value * 10 + d }
  else { s with exponent := s.exponent + 1, full := true }

def Significand.pushFraction (s : Significand) (d : Nat) : Significand :=
  if !s.full && s.value * 10 + d < UInt64.size then
    { s with value := s.value * 10 + d, exponent := s.exponent - 1 }
  else { s with full := true }

def significand (numeral : Numeral) : Significand :=
  let whole := numeral.whole.reverse.foldl Significand.pushWhole ⟨0, 0, false⟩
  let both := numeral.fraction.reverse.foldl Significand.pushFraction { whole with full := false }
  let exponent : Int := numeral.exponent
  { both with exponent := both.exponent + if numeral.exponentNegative then -exponent else exponent }

/-- So many digits before the point, and no exponent, are within the range of a double. -/
def safeDigits : Nat := 308

def isFinite (numeral : Numeral) : Bool :=
  if numeral.isPlain && numeral.whole.length ≤ safeDigits then true
  else
    let s := numeral.significand
    if s.value = 0 || s.exponent ≤ 0 then true
    else if s.exponent > 308 then false
    else !((UInt64.ofNat s.value).toFloat * Float.ofScientific 1 false s.exponent.toNat).isInf

def literal (numeral : Numeral) : Literal :=
  if !numeral.isFinite then .real false
  else if numeral.isPlain then
    let n := ofDigits numeral.whole.reverse
    if numeral.negative then
      if n = 0 then .real true else .int (-n)
    else .int n
  else .real true

end Numeral

end Journal
