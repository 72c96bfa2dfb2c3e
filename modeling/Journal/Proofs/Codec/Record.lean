import Journal.Proofs.Codec.Payload
import Journal.Record.Binary

set_option autoImplicit false

namespace Journal

theorem Opcode.toByte_of_ofByte? {byte : UInt8} {opcode : Opcode}
    (found : ofByte? byte = some opcode) : opcode.toByte = byte := by
  simpa using List.find?_some found

namespace Record

theorem opcode_ne_invalid (record : Record) : record.opcode ≠ .invalid := by
  obtain ⟨txid, opcode, payload⟩ := record
  intro same
  subst same
  exact nomatch payload

theorem toByte_ne_fillByte (record : Record) : record.opcode.toByte ≠ Opcode.fillByte := by
  intro same
  have found : Opcode.ofByte? record.opcode.toByte = Opcode.ofByte? Opcode.fillByte :=
    congrArg Opcode.ofByte? same
  rw [Opcode.ofByte?_toByte] at found
  exact record.opcode_ne_invalid (Option.some.inj found)

theorem decodeBody_eq_ok {opcode : Opcode} {window : Window} {payload : opcode.Payload} :
    decodeBody opcode window = .ok payload ↔
      ∃ rest, opcode.schema.get window = .ok (payload, rest) ∧ rest.size = 0 := by
  unfold decodeBody
  split
  · next failed => simp [failed]
  · next other rest got =>
    split
    · next unread => simp [got, unread]
    · next read => simp_all

theorem decodeBody_put {opcode : Opcode} {window : Window} {payload : opcode.Payload}
    (short : (opcode.schema.put payload).length < 2 ^ 32)
    (filled : window.contents = opcode.schema.put payload) :
    decodeBody opcode window = .ok payload := by
  refine decodeBody_eq_ok.mpr ⟨_, opcode.composed.lawful.reads_put payload short window [] ?_, ?_⟩
  · rw [filled, List.append_nil]
  · rw [Window.size_drop, ← Window.length_contents, filled, Nat.sub_self]

theorem put_of_decodeBody {opcode : Opcode} {window : Window} {payload : opcode.Payload}
    (decoded : decodeBody opcode window = .ok payload) :
    opcode.schema.put payload = window.contents := by
  obtain ⟨rest, got, read⟩ := decodeBody_eq_ok.mp decoded
  have empty : rest.contents = [] := by
    rw [← List.length_eq_zero_iff, Window.length_contents, read]
  rw [(opcode.composed.lawful.window_eq got).1, empty, List.append_nil]

theorem decodeOf_eq_ok {opcode : Opcode} {input : Input} {version : LayoutVersion}
    {record : Record} {size : Nat} :
    decodeOf opcode input version = .ok (record, size) ↔
      let bodyLength := (BigEndian.front 4 (input.bytes.drop 1)).toNat
      headerSize ≤ input.size ∧ bodyLength ≤ maxBodyLength ∧
      encodedLength bodyLength version ≤ input.size ∧
      checkTrailer input (headerSize + bodyLength) version = .ok () ∧
      size = encodedLength bodyLength version ∧
      ∃ payload, decodeBody opcode ((input.drop headerSize).window bodyLength) = .ok payload ∧
        record = ⟨BigEndian.front 8 (input.bytes.drop 5), opcode, payload⟩ := by
  simp only [decodeOf, bind, Except.bind, pure, Except.pure, throw, throwThe, MonadExcept.throw,
    MonadExceptOf.throw]
  generalize (BigEndian.front 4 (input.bytes.drop 1)).toNat = bodyLength
  by_cases headed : input.size < headerSize
  · simp only [if_pos headed, reduceCtorEq, false_iff]
    rintro ⟨enough, -⟩
    omega
  by_cases long : maxBodyLength < bodyLength
  · simp only [if_neg headed, if_pos long, reduceCtorEq, false_iff]
    rintro ⟨-, short, -⟩
    omega
  by_cases cut : input.size < encodedLength bodyLength version
  · simp only [if_neg headed, if_neg long, if_pos cut, reduceCtorEq, false_iff]
    rintro ⟨-, -, enough, -⟩
    omega
  simp only [if_neg headed, if_neg long, if_neg cut, Nat.not_lt.mp headed, Nat.not_lt.mp long,
    Nat.not_lt.mp cut, true_and]
  cases decodeBody opcode ((input.drop headerSize).window bodyLength) with
  | error fault => simp
  | ok payload =>
    cases checkTrailer input (headerSize + bodyLength) version with
    | error fault => simp
    | ok checked => simp [and_comm, eq_comm]

theorem decodeInput_eq_ok {input : Input} {version : LayoutVersion} {record : Record} {size : Nat} :
    decodeInput input version = .ok (record, size) ↔
      input.bytes.head? = some record.opcode.toByte ∧
        decodeOf record.opcode input version = .ok (record, size) := by
  unfold decodeInput
  split
  · next empty => simp [empty]
  · next code rest filled =>
    split
    · next unknown =>
      simp only [filled, List.head?_cons, Option.some.injEq, reduceCtorEq, false_iff]
      rintro ⟨rfl, -⟩
      rw [Opcode.ofByte?_toByte] at unknown
      contradiction
    · next invalid =>
      simp only [filled, List.head?_cons, Option.some.injEq, reduceCtorEq, false_iff]
      rintro ⟨rfl, -⟩
      rw [Opcode.ofByte?_toByte, Option.some.injEq] at invalid
      exact record.opcode_ne_invalid invalid
    · next opcode _ found =>
      simp only [filled, List.head?_cons, Option.some.injEq]
      constructor
      · intro decoded
        obtain ⟨-, -, -, -, -, payload, -, rfl⟩ := decodeOf_eq_ok.mp decoded
        exact ⟨(Opcode.toByte_of_ofByte? found).symm, decoded⟩
      · rintro ⟨rfl, decoded⟩
        rw [Opcode.ofByte?_toByte, Option.some.injEq] at found
        rwa [← found]

theorem length_withChecksum (version : LayoutVersion) (bytes : List UInt8) :
    (withChecksum version bytes).length =
      bytes.length + if version.hasChecksum then checksumSize else 0 := by
  unfold withChecksum
  split <;> simp

theorem length_unchecked (record : Record) (body : List UInt8) :
    (record.unchecked body).length = headerSize + body.length := by
  simp only [unchecked, List.length_cons, List.length_append, BigEndian.length_encode, headerSize,
    Nat.add_comm]

theorem encode_eq_ok {record : Record} {version : LayoutVersion} {bytes : List UInt8} :
    record.encode version = .ok bytes ↔
      record.operation.body.length ≤ maxBodyLength ∧
        bytes = withChecksum version (record.unchecked record.operation.body) := by
  unfold encode
  by_cases long : maxBodyLength < record.operation.body.length
  · simp only [if_pos long, reduceCtorEq, false_iff]
    omega
  · simp [if_neg long, Nat.not_lt.mp long, eq_comm]

theorem exists_encode {record : Record} (fits : record.operation.body.length ≤ maxBodyLength)
    (version : LayoutVersion) : ∃ bytes, record.encode version = .ok bytes :=
  ⟨_, encode_eq_ok.mpr ⟨fits, rfl⟩⟩

theorem length_encode {record : Record} {version : LayoutVersion} {bytes : List UInt8}
    (encoded : record.encode version = .ok bytes) :
    bytes.length = encodedLength record.operation.body.length version := by
  obtain ⟨-, rfl⟩ := encode_eq_ok.mp encoded
  rw [length_withChecksum, length_unchecked, encodedLength]

theorem checkTrailer_append {input : Input} {version : LayoutVersion} {bytes rest : List UInt8}
    (starts : input.bytes = withChecksum version bytes ++ rest) :
    checkTrailer input bytes.length version = .ok () := by
  unfold checkTrailer
  split
  · next checked =>
    rw [withChecksum, if_pos checked, List.append_assoc] at starts
    have front : BigEndian.front checksumSize (input.bytes.drop bytes.length) =
        UInt64.ofNat (Crc32.checksum bytes).toNat := by
      rw [starts, List.drop_left, BigEndian.front_append (Crc32.checksum bytes).toNat_lt]
    have word : (UInt64.ofNat (Crc32.checksum bytes).toNat).toUInt32 = Crc32.checksum bytes := by
      apply UInt32.toNat_inj.mp
      have := (Crc32.checksum bytes).toNat_lt
      simp only [UInt64.toNat_toUInt32, UInt64.toNat_ofNat']
      omega
    rw [front, word, starts, List.take_left]
    simp
  · rfl

theorem take_of_checkTrailer {input : Input} {version : LayoutVersion} {length : Nat}
    (checked : checkTrailer input length version = .ok ())
    (fits : (length + if version.hasChecksum then checksumSize else 0) ≤ input.size) :
    input.bytes.take (length + if version.hasChecksum then checksumSize else 0) =
      withChecksum version (input.bytes.take length) := by
  -- What passes the checksum is its first part with the checksum that belongs to it.
  unfold checkTrailer at checked
  unfold withChecksum
  split at checked
  · next has =>
    rw [if_pos has] at fits ⊢
    rw [if_pos has]
    have enough : checksumSize ≤ (input.bytes.drop length).length := by
      rw [List.length_drop, ← input.size_eq]
      omega
    have same : (BigEndian.front checksumSize (input.bytes.drop length)).toUInt32 =
        Crc32.checksum (input.bytes.take length) := by
      by_contra other
      simp [other] at checked
    have small : _ < 2 ^ 32 :=
      BigEndian.toNat_front_lt (by decide : checksumSize ≤ 8) (input.bytes.drop length)
    have value := congrArg UInt32.toNat same
    rw [UInt64.toNat_toUInt32, Nat.mod_eq_of_lt small] at value
    rw [← value, BigEndian.encode_front (by decide) enough, List.take_add]
  · next lacks => rw [if_neg lacks, if_neg lacks, Nat.add_zero]

theorem withChecksum_unchecked (record : Record) (version : LayoutVersion) (body : List UInt8) :
    ∃ trailer, withChecksum version (record.unchecked body) =
      record.opcode.toByte :: (BigEndian.encode 4 body.length ++
        (BigEndian.encode 8 record.txid.toNat ++ (body ++ trailer))) := by
  unfold withChecksum unchecked
  split
  · exact ⟨_, by simp only [List.cons_append, List.append_assoc]; rfl⟩
  · exact ⟨[], by simp only [List.cons_append, List.append_assoc, List.append_nil]⟩

section Encoded

variable {record : Record} {version : LayoutVersion} {bytes : List UInt8}
  (encoded : record.encode version = .ok bytes)

include encoded

theorem length_body_lt : record.operation.body.length < 2 ^ 32 := by
  have short := (encode_eq_ok.mp encoded).1
  have : maxBodyLength = 16777216 := rfl
  omega

theorem fields_encode :
    ∃ trailer, bytes = record.opcode.toByte :: (BigEndian.encode 4 record.operation.body.length ++
      (BigEndian.encode 8 record.txid.toNat ++ (record.operation.body ++ trailer))) := by
  obtain ⟨-, rfl⟩ := encode_eq_ok.mp encoded
  exact record.withChecksum_unchecked version record.operation.body

theorem head_encode (rest : List UInt8) :
    (bytes ++ rest).head? = some record.opcode.toByte := by
  obtain ⟨trailer, rfl⟩ := fields_encode encoded
  rw [List.cons_append, List.head?_cons]

theorem lengthField_encode (rest : List UInt8) :
    ((bytes ++ rest).drop 1).take 4 = BigEndian.encode 4 record.operation.body.length := by
  obtain ⟨trailer, rfl⟩ := fields_encode encoded
  rw [List.cons_append, List.drop_one, List.tail_cons, List.append_assoc,
    List.take_left' (BigEndian.length_encode ..)]

theorem txidField_encode (rest : List UInt8) :
    ((bytes ++ rest).drop 5).take 8 = BigEndian.encode 8 record.txid.toNat := by
  obtain ⟨trailer, rfl⟩ := fields_encode encoded
  rw [List.cons_append, List.drop_succ_cons, List.append_assoc,
    List.drop_left' (BigEndian.length_encode ..), List.append_assoc,
    List.take_left' (BigEndian.length_encode ..)]

theorem body_encode (rest : List UInt8) :
    ∃ trailer, (bytes ++ rest).drop headerSize = record.operation.body ++ trailer := by
  obtain ⟨trailer, rfl⟩ := fields_encode encoded
  refine ⟨trailer ++ rest, ?_⟩
  rw [headerSize, List.cons_append, List.drop_succ_cons, List.append_assoc,
    List.append_assoc, List.append_assoc, ← List.append_assoc,
    List.drop_left' (by simp only [List.length_append, BigEndian.length_encode])]

theorem decodeInput_of_encode {rest : List UInt8} {input : Input}
    (starts : input.bytes = bytes ++ rest) :
    decodeInput input version = .ok (record, bytes.length) := by
  have size : input.size = bytes.length + rest.length := by
    rw [input.size_eq, starts, List.length_append]
  have length := length_encode encoded
  have code : input.bytes.head? = some record.opcode.toByte := by
    rw [starts, head_encode encoded]
  have bodyLength : (BigEndian.front 4 (input.bytes.drop 1)).toNat = record.operation.body.length := by
    rw [BigEndian.toNat_front (by decide), starts, lengthField_encode encoded,
      BigEndian.decode_encode_of_lt (length_body_lt encoded)]
  have txid : BigEndian.front 8 (input.bytes.drop 5) = record.txid := by
    rw [BigEndian.front_eq, starts, txidField_encode encoded,
      BigEndian.decode_encode_of_lt record.txid.toNat_lt, UInt64.ofNat_toNat]
  have body : ((input.drop headerSize).window record.operation.body.length).contents =
      record.operation.body := by
    obtain ⟨trailer, front⟩ := body_encode encoded rest
    rw [Input.contents_window, Input.bytes_drop, starts, front, List.take_left]
  have decoded := decodeBody_put (length_body_lt encoded) body
  obtain ⟨short, rfl⟩ := encode_eq_ok.mp encoded
  have trailed := checkTrailer_append starts
  rw [length_unchecked] at trailed
  refine decodeInput_eq_ok.mpr ⟨code, decodeOf_eq_ok.mpr ?_⟩
  rw [bodyLength, txid]
  refine ⟨?_, short, by omega, trailed, length, record.operation.payload, decoded, rfl⟩
  rw [encodedLength] at length
  omega

end Encoded

theorem encode_of_decodeInput {input : Input} {version : LayoutVersion} {record : Record}
    {size : Nat} (decoded : decodeInput input version = .ok (record, size)) :
    record.encode version = .ok (input.bytes.take size) := by
  obtain ⟨code, decoded⟩ := decodeInput_eq_ok.mp decoded
  obtain ⟨headed, short, enough, checked, rfl, payload, filled, same⟩ := decodeOf_eq_ok.mp decoded
  have bound : (BigEndian.front 4 (input.bytes.drop 1)).toNat + headerSize ≤ input.size := by
    rw [encodedLength] at enough
    omega
  have front := BigEndian.encode_front (by decide : 4 ≤ 8)
    (show 4 ≤ (input.bytes.drop 1).length by
      rw [List.length_drop, ← input.size_eq]; rw [headerSize] at headed; omega)
  have next := BigEndian.encode_front (by decide : 8 ≤ 8)
    (show 8 ≤ (input.bytes.drop 5).length by
      rw [List.length_drop, ← input.size_eq]; rw [headerSize] at headed; omega)
  generalize (BigEndian.front 4 (input.bytes.drop 1)).toNat = bodyLength at *
  have body : record.operation.body = (input.bytes.drop headerSize).take bodyLength := by
    have put := put_of_decodeBody filled
    rw [Input.contents_window, Input.bytes_drop] at put
    rw [same]
    exact put
  have length : record.operation.body.length = bodyLength := by
    rw [body, List.length_take, List.length_drop, ← input.size_eq]
    omega
  have whole : record.unchecked record.operation.body =
      input.bytes.take (headerSize + bodyLength) := by
    have txid : BigEndian.front 8 (input.bytes.drop 5) = record.txid := by rw [same]
    have opened : [record.opcode.toByte] = input.bytes.take 1 := by
      rw [List.take_one, code, Option.toList_some]
    have parts : headerSize + bodyLength = 1 + (4 + (8 + bodyLength)) := by
      rw [headerSize]
      omega
    rw [unchecked, length, front, ← txid, next, body, ← List.singleton_append, opened, parts,
      List.take_add, List.take_add, List.take_add]
    simp only [List.append_assoc, List.drop_drop, headerSize]
  refine encode_eq_ok.mpr ⟨by omega, ?_⟩
  rw [whole, ← take_of_checkTrailer checked (by rw [encodedLength] at enough; exact enough)]
  rfl

theorem decode_eq_error {bytes : List UInt8} {offset : Nat} {version : LayoutVersion}
    {error : DecodeError} :
    decode bytes offset version = .error error ↔
      ∃ fault, decodeInput (.ofList bytes) version = .error fault ∧ ⟨offset, fault⟩ = error :=
  mapError_eq_error

end Record

end Journal
