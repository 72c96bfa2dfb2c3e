import Journal.Bytes.Crc32
import Journal.Error

set_option autoImplicit false

namespace Journal

structure Package where
  name : String
  length : Nat
  crc : UInt32
  body : List UInt8
deriving DecidableEq

inductive Damage
  | truncated (file : String)
  | corruptedByte (file : String)
deriving DecidableEq, Repr

namespace Package

def ofFile (name : String) (bytes : List UInt8) : Package :=
  ⟨name, bytes.length, Crc32.checksum bytes, bytes⟩

def truncate (package : Package) : Package :=
  { package with body := package.body.take (package.body.length / 2) }

def corrupt (package : Package) : Package :=
  { package with body := package.body.modify (package.body.length / 2) (· ^^^ 0xFF) }

def send (name : String) (bytes : List UInt8) (truncates corrupts : Bool) :
    Package × Option Damage :=
  let package := ofFile name bytes
  if bytes.isEmpty then (package, none)
  else if truncates then (package.truncate, some (.truncated name))
  else if corrupts then (package.corrupt, some (.corruptedByte name))
  else (package, none)

def receive (package : Package) : Except TransferFault (String × List UInt8) :=
  if package.body.length ≠ package.length then
    .error (.shortFile package.name package.length package.body.length)
  else if Crc32.checksum package.body ≠ package.crc then .error (.corruptedByte package.name)
  else .ok (package.name, package.body)

end Package

end Journal
