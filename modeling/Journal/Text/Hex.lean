set_option autoImplicit false

namespace Journal.Hex

def digit (n : Nat) : Char :=
  if n < 10 then Char.ofNat (48 + n) else Char.ofNat (87 + n)

def digits : (width n : Nat) → List Char
  | 0, _ => []
  | width + 1, n => digit (n / 16 ^ width % 16) :: digits width n

def padded (width n : Nat) : String := String.ofList (digits width n)

def ofByte (byte : UInt8) : String := padded 2 byte.toNat

def shortest (n : Nat) : String := String.ofList (Nat.toDigits 16 n)

end Journal.Hex
