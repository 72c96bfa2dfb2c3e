import Journal.Bytes.Packed

set_option autoImplicit false

namespace Journal.Crc32

def polynomial : UInt32 := 0xEDB88320

def shift (register : UInt32) : UInt32 :=
  if register &&& 1 = 1 then (register >>> 1) ^^^ polynomial else register >>> 1

def absorb (register : UInt32) (byte : UInt8) : UInt32 :=
  shift (shift (shift (shift (shift (shift (shift (shift (register ^^^ byte.toUInt32))))))))

def checksum (bytes : List UInt8) : UInt32 :=
  bytes.foldl absorb 0xFFFFFFFF ^^^ 0xFFFFFFFF

def ofPacked (bytes : ByteArray) : UInt32 :=
  Packed.foldFrom absorb bytes 0 0xFFFFFFFF ^^^ 0xFFFFFFFF

theorem ofPacked_eq (bytes : ByteArray) : ofPacked bytes = checksum (Packed.toList bytes) := by
  rw [ofPacked, Packed.foldFrom_eq, List.drop_zero, checksum]

end Journal.Crc32
