import Journal.Text.Hex
import Journal.Text.Printable

set_option autoImplicit false

namespace Journal.Quoted

def encodeChar (c : Char) : List Char :=
  if c = Char.ofNat 0x22 ∨ c = Char.ofNat 0x5C then [Char.ofNat 0x5C, c]
  else if c = '\n' then "\\n".toList
  else if c = '\r' then "\\r".toList
  else if c = '\t' then "\\t".toList
  else if c = Char.ofNat 0 then "\\0".toList
  else if isPrintable c then [c]
  else "\\u\x7b".toList ++ (Hex.shortest c.toNat).toList ++ "\x7d".toList

def encode (text : String) : String :=
  "\"" ++ String.ofList (text.toList.flatMap encodeChar) ++ "\""

end Journal.Quoted
