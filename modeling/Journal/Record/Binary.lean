import Journal.Bytes.Crc32
import Journal.Error
import Journal.Record.Operation

/-!
The binary form of a record: opcode, body length, transaction id, body, and in checksummed layouts the
CRC-32 of all that precedes it.
-/

set_option autoImplicit false

namespace Journal.Record

/-- Opcode, body length and transaction id. -/
def headerSize : Nat := 13

def checksumSize : Nat := 4

/-- A longer body is taken for corruption. -/
def maxBodyLength : Nat := 16 * 1024 * 1024

def encodedLength (bodyLength : Nat) (version : LayoutVersion) : Nat :=
  headerSize + bodyLength + if version.hasChecksum then checksumSize else 0

def unchecked (record : Record) (body : List UInt8) : List UInt8 :=
  record.opcode.toByte :: BigEndian.encode 4 body.length ++ BigEndian.encode 8 record.txid.toNat ++
    body

def withChecksum (version : LayoutVersion) (bytes : List UInt8) : List UInt8 :=
  if version.hasChecksum then
    bytes ++ BigEndian.encode checksumSize (Crc32.checksum bytes).toNat
  else bytes

def encode (record : Record) (version : LayoutVersion) : Except Error (List UInt8) :=
  let body := record.operation.body
  if maxBodyLength < body.length then
    .error (.write (.bodyTooLarge record.opcode body.length maxBodyLength))
  else .ok (withChecksum version (record.unchecked body))

def packed (record : Record) (version : LayoutVersion) : Except Error ByteArray :=
  let body := record.operation.packedBody
  if maxBodyLength < body.size then
    .error (.write (.bodyTooLarge record.opcode body.size maxBodyLength))
  else
    let opened := ByteArray.empty.push record.opcode.toByte
    let headed := BigEndian.push (Schema.pushCount opened body.size) 8 record.txid
    let unchecked := headed ++ body
    .ok (if version.hasChecksum then
      BigEndian.push unchecked checksumSize (Crc32.ofPacked unchecked).toUInt64
    else unchecked)

theorem packed_map_toList (record : Record) (version : LayoutVersion) :
    (record.packed version).map Packed.toList = record.encode version := by
  simp only [packed, encode, Operation.size_packedBody]
  split
  · rfl
  · simp only [Except.map, withChecksum, unchecked]
    split <;>
      simp [BigEndian.toList_push, Schema.toList_pushCount, Crc32.ofPacked_eq]

def decodeBody (opcode : Opcode) (body : Window) : Except DecodeFault opcode.Payload :=
  match opcode.schema.get body with
  | .error fault => .error (.malformed (.field opcode fault))
  | .ok (payload, rest) =>
    if rest.size ≠ 0 then .error (.malformed (.unreadBytes opcode rest.size)) else .ok payload

def checkTrailer (input : Input) (length : Nat) (version : LayoutVersion) : Except DecodeFault Unit :=
  if version.hasChecksum then
    let expected := (BigEndian.front checksumSize (input.bytes.drop length)).toUInt32
    let actual := Crc32.checksum (input.bytes.take length)
    if expected ≠ actual then .error (.checksumMismatch expected actual) else .ok ()
  else .ok ()

def decodeOf (opcode : Opcode) (input : Input) (version : LayoutVersion) :
    Except DecodeFault (Record × Nat) := do
  if input.size < headerSize then throw (.truncated headerSize input.size)
  let bodyLength := (BigEndian.front 4 (input.bytes.drop 1)).toNat
  let txid := BigEndian.front 8 (input.bytes.drop 5)
  if maxBodyLength < bodyLength then throw (.malformed (.oversizedBody bodyLength maxBodyLength))
  let total := encodedLength bodyLength version
  if input.size < total then throw (.truncated total input.size)
  let payload ← decodeBody opcode ((input.drop headerSize).window bodyLength)
  checkTrailer input (headerSize + bodyLength) version
  return (⟨txid, opcode, payload⟩, total)

def decodeInput (input : Input) (version : LayoutVersion) : Except DecodeFault (Record × Nat) :=
  match input.bytes with
  | [] => .error (.truncated 1 0)
  | code :: _ =>
    match Opcode.ofByte? code with
    | none => .error (.unknownOpcode code)
    | some .invalid => .error (.malformed .noRecord)
    | some opcode => decodeOf opcode input version

def decode (bytes : List UInt8) (offset : Nat) (version : LayoutVersion) :
    Except DecodeError (Record × Nat) :=
  -- Reads a record; `offset` is where `bytes` start, and only locates a failure.
  (decodeInput (.ofList bytes) version).mapError (⟨offset, ·⟩)

theorem size_of_decodeOf {opcode : Opcode} {input : Input} {version : LayoutVersion}
    {record : Record} {size : Nat} (decoded : decodeOf opcode input version = .ok (record, size)) :
    headerSize ≤ size ∧ size ≤ input.size := by
  simp only [decodeOf, bind, Except.bind, pure, Except.pure, throw, throwThe, MonadExcept.throw,
    MonadExceptOf.throw] at decoded
  split at decoded
  · contradiction
  · split at decoded
    · contradiction
    · split at decoded
      · contradiction
      · rename_i fits
        split at decoded
        · contradiction
        · split at decoded
          · contradiction
          · simp only [Except.ok.injEq, Prod.mk.injEq] at decoded
            obtain ⟨-, rfl⟩ := decoded
            exact ⟨by simp only [encodedLength]; omega, by omega⟩

theorem size_of_decodeInput {input : Input} {version : LayoutVersion} {record : Record} {size : Nat}
    (decoded : decodeInput input version = .ok (record, size)) :
    headerSize ≤ size ∧ size ≤ input.size := by
  unfold decodeInput at decoded
  split at decoded
  · contradiction
  · split at decoded
    · contradiction
    · contradiction
    · exact size_of_decodeOf decoded

end Journal.Record
