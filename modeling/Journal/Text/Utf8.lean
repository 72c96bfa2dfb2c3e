import Journal.Bytes.Packed

set_option autoImplicit false

namespace Journal.Utf8

inductive Fault
  | invalid (length index : Nat)
  | incomplete (index : Nat)
deriving DecidableEq, Repr

def Fault.message : Fault → String
  | .invalid length index => s!"invalid utf-8 sequence of {length} bytes from index {index}"
  | .incomplete index => s!"incomplete utf-8 byte sequence from index {index}"

structure ByteRange where
  low : UInt8
  high : UInt8

def continuation : ByteRange := ⟨0x80, 0xBF⟩

/-- The ranges of the bytes that follow a first byte; `none` for a byte that starts no sequence. -/
def followers (first : UInt8) : Option (List ByteRange) :=
  if first < 0x80 then some []
  else if first < 0xC2 then none
  else if first ≤ 0xDF then some [continuation]
  else if first = 0xE0 then some [⟨0xA0, 0xBF⟩, continuation]
  else if first = 0xED then some [⟨0x80, 0x9F⟩, continuation]
  else if first ≤ 0xEF then some [continuation, continuation]
  else if first = 0xF0 then some [⟨0x90, 0xBF⟩, continuation, continuation]
  else if first ≤ 0xF3 then some [continuation, continuation, continuation]
  else if first = 0xF4 then some [⟨0x80, 0x8F⟩, continuation, continuation]
  else none

def sequenceFault (index sound : Nat) : List ByteRange → List UInt8 → Option Fault
  | [], _ => none
  | _ :: _, [] => some (.incomplete index)
  | range :: ranges, byte :: rest =>
    if range.low ≤ byte ∧ byte ≤ range.high then sequenceFault index (sound + 1) ranges rest
    else some (.invalid sound index)

def firstFault (index : Nat) : List UInt8 → Option Fault
  | [] => none
  | byte :: rest =>
    match followers byte with
    | none => some (.invalid 1 index)
    | some ranges =>
      match sequenceFault index 1 ranges rest with
      | some fault => some fault
      | none => firstFault (index + 1 + ranges.length) (rest.drop ranges.length)
termination_by bytes => bytes.length
decreasing_by simp only [List.length_drop, List.length_cons]; omega

def encode (text : String) : List UInt8 := Packed.toList text.toByteArray

def decode? (bytes : List UInt8) : Option String := String.fromUTF8? bytes.toByteArray

def decode (bytes : List UInt8) : Except Fault String :=
  match decode? bytes with
  | some text => .ok text
  | none => .error ((firstFault 0 bytes).getD (.incomplete bytes.length))

theorem encode_eq (text : String) : encode text = text.toByteArray.data.toList :=
  Packed.toList_eq _

@[simp] theorem decode?_encode (text : String) : decode? (encode text) = some text := by
  have same : text.toByteArray.data.toList.toByteArray = text.toByteArray :=
    ByteArray.ext (by simp)
  simp [decode?, encode_eq, same, String.fromUTF8?, String.fromUTF8, text.isValidUTF8]

end Journal.Utf8
