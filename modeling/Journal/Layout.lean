import Journal.Bytes.BigEndian

set_option autoImplicit false

namespace Journal

structure LayoutVersion where
  number : Int32
deriving DecidableEq

namespace LayoutVersion

def unchecksummed : LayoutVersion := ⟨-38⟩

def checksummed : LayoutVersion := ⟨-40⟩

def current : LayoutVersion := checksummed

def supported : List LayoutVersion := [unchecksummed, checksummed]

def isSupported (version : LayoutVersion) : Bool := supported.contains version

def hasChecksum (version : LayoutVersion) : Bool := version.number ≤ checksummed.number

def headerSize : Nat := 4

def header (version : LayoutVersion) : List UInt8 :=
  BigEndian.encode headerSize version.number.toUInt32.toNat

def ofHeader? (bytes : List UInt8) : Option LayoutVersion :=
  let header := bytes.take headerSize
  if header.length = headerSize then some ⟨(UInt32.ofNat (BigEndian.decode header)).toInt32⟩
  else none

def text (version : LayoutVersion) : String := toString version.number.toInt

end LayoutVersion

end Journal
