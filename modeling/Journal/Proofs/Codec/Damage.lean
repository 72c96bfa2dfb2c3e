import Journal.Proofs.Bytes.Crc32
import Journal.Proofs.Codec.Record

set_option autoImplicit false

namespace Journal

theorem Lawful.eq_of_append {α : Type} {put : α → List UInt8}
    {get : Window → Except FieldFault (α × Window)} (lawful : Lawful put get) {first second : α}
    {rest rest' : List UInt8} (short : (put first).length < 2 ^ 32)
    (short' : (put second).length < 2 ^ 32) (same : put first ++ rest = put second ++ rest') :
    first = second := by
  have one := lawful.reads_put first short (.ofList (put first ++ rest)) rest
    (Window.contents_ofList _)
  have other := lawful.reads_put second short' (.ofList (put first ++ rest)) rest'
    ((Window.contents_ofList _).trans same)
  rw [one] at other
  exact (Prod.mk.inj (Except.ok.inj other)).1

theorem BigEndian.encode_injective {width first second : Nat} (fits : first < 256 ^ width)
    (fits' : second < 256 ^ width) (same : encode width first = encode width second) :
    first = second := by
  rw [← decode_encode_of_lt fits, same, decode_encode_of_lt fits']

namespace Record

variable {record other : Record} {version : LayoutVersion} {bytes bytes' : List UInt8}

theorem head_take (encoded : record.encode version = .ok bytes) {count : Nat} (filled : 0 < count) :
    (bytes.take count).head? = some record.opcode.toByte := by
  rw [List.head?_take, if_neg (Nat.ne_of_gt filled), ← List.append_nil bytes]
  exact head_encode encoded []

theorem ne_fill_of_head (first : bytes.head? = some record.opcode.toByte) (fill : Nat) :
    bytes ≠ List.replicate fill Opcode.fillByte := by
  rintro rfl
  exact record.toByte_ne_fillByte (List.eq_of_mem_replicate (List.mem_of_mem_head? first))

theorem set_ne_fill (encoded : record.encode version = .ok bytes) (position : Nat) (byte : UInt8)
    (rest : List UInt8) (fill : Nat) :
    (bytes ++ rest).set position byte ≠ List.replicate fill Opcode.fillByte := by
  intro same
  cases position with
  | succ position =>
    have first := head_encode encoded rest
    rw [List.head?_eq_getElem?, ← List.getElem?_set_ne (Nat.succ_ne_zero position),
      ← List.head?_eq_getElem?] at first
    exact ne_fill_of_head first fill same
  | zero =>
    -- Four bytes of fill would be the length of too long a body.
    have field := lengthField_encode encoded rest
    rw [← List.drop_set_of_lt Nat.zero_lt_one, same, List.drop_replicate, List.take_replicate] at field
    have four : min 4 (fill - 1) = 4 := by
      simpa only [List.length_replicate, BigEndian.length_encode] using congrArg List.length field
    have length := congrArg BigEndian.decode field
    rw [four, BigEndian.decode_encode_of_lt (length_body_lt encoded)] at length
    have short := (encode_eq_ok.mp encoded).1
    rw [← length] at short
    exact absurd short (by decide)

theorem length_encode_eq (encoded : record.encode version = .ok bytes)
    (encoded' : other.encode version = .ok bytes')
    (same : other.operation.body.length = record.operation.body.length) :
    bytes'.length = bytes.length := by
  rw [length_encode encoded, length_encode encoded', same]

theorem opcode_eq_of_toByte_eq (same : other.opcode.toByte = record.opcode.toByte) :
    other.opcode = record.opcode := by
  have found := congrArg Opcode.ofByte? same
  rwa [Opcode.ofByte?_toByte, Opcode.ofByte?_toByte, Option.some.injEq] at found

theorem length_body_eq_of_body (encoded : record.encode version = .ok bytes)
    (encoded' : other.encode version = .ok bytes') (opcode : other.opcode = record.opcode)
    {rest rest' : List UInt8}
    (same : other.operation.body ++ rest' = record.operation.body ++ rest) :
    other.operation.body.length = record.operation.body.length := by
  have short := length_body_lt encoded
  have short' := length_body_lt encoded'
  obtain ⟨txid, kind, payload⟩ := record
  obtain ⟨txid', kind', payload'⟩ := other
  obtain rfl : kind' = kind := opcode
  obtain rfl : payload' = payload := kind'.composed.lawful.eq_of_append short' short same
  rfl

theorem length_body_eq_of_set (encoded : record.encode version = .ok bytes)
    (encoded' : other.encode version = .ok bytes') {rest rest' : List UInt8} {position : Nat}
    {byte : UInt8} (same : bytes' ++ rest' = (bytes ++ rest).set position byte) :
    other.operation.body.length = record.operation.body.length := by
  by_cases inside : 1 ≤ position ∧ position < 5
  · have opcode := head_encode encoded' rest'
    have ⟨trailer, body⟩ := body_encode encoded rest
    have ⟨trailer', body'⟩ := body_encode encoded' rest'
    rw [same, List.head?_eq_getElem?, List.getElem?_set_ne (by omega), ← List.head?_eq_getElem?,
      head_encode encoded rest, Option.some.injEq] at opcode
    rw [same, List.drop_set_of_lt (by rw [headerSize]; omega), body] at body'
    exact length_body_eq_of_body encoded encoded' (opcode_eq_of_toByte_eq opcode.symm) body'.symm
  · have kept : (((bytes ++ rest).set position byte).drop 1).take 4 =
        ((bytes ++ rest).drop 1).take 4 := by
      rw [List.drop_set]
      split
      · rfl
      · rw [List.take_set_of_le (by omega)]
    have field := lengthField_encode encoded' rest'
    rw [same, kept, lengthField_encode encoded rest] at field
    have short := length_body_lt encoded
    have short' := length_body_lt encoded'
    exact (BigEndian.encode_injective (by omega) (by omega) field).symm

theorem withChecksum_ne_set {body body' : List UInt8} (has : version.hasChecksum = true)
    (length : body'.length = body.length) {position : Nat} {byte : UInt8}
    (inside : position < (withChecksum version body).length)
    (changed : (withChecksum version body)[position]? ≠ some byte) :
    withChecksum version body' ≠ (withChecksum version body).set position byte := by
  intro same
  simp only [withChecksum, if_pos has] at same inside changed
  by_cases early : position < body.length
  · rw [List.set_append_left _ _ early] at same
    obtain ⟨damaged, checksum⟩ := List.append_inj same (by rw [length, List.length_set])
    have equal : Crc32.checksum body' = Crc32.checksum body :=
      UInt32.toNat_inj.mp (BigEndian.encode_injective (Crc32.checksum body').toNat_lt
        (Crc32.checksum body).toNat_lt checksum)
    rw [damaged] at equal
    rw [List.getElem?_append_left early, List.getElem?_eq_getElem early] at changed
    exact Crc32.checksum_set_ne early (fun same => changed (congrArg some same)) equal
  · rw [List.set_append_right _ _ (by omega)] at same
    obtain ⟨rfl, checksum⟩ := List.append_inj same length
    rw [List.getElem?_append_right (by omega), checksum, List.getElem?_set_self] at changed
    · exact changed rfl
    · rw [List.length_append] at inside
      omega

theorem decodeInput_of_damaged (has : version.hasChecksum = true)
    (encoded : record.encode version = .ok bytes) {position : Nat} {byte : UInt8}
    (inside : position < bytes.length) (changed : bytes[position]? ≠ some byte) {rest : List UInt8}
    {input : Input} (stands : input.bytes = bytes.set position byte ++ rest) :
    ∃ fault, decodeInput input version = .error fault := by
  cases decoded : decodeInput input version with
  | error fault => exact ⟨fault, rfl⟩
  | ok pair =>
    obtain ⟨other, size⟩ := pair
    have encoded' := encode_of_decodeInput decoded
    have whole : input.bytes.take size ++ input.bytes.drop size =
        bytes.set position byte ++ rest := by
      rw [List.take_append_drop, stands]
    have body := length_body_eq_of_set encoded encoded'
      (whole.trans (List.set_append_left _ _ inside).symm)
    have length := length_encode_eq encoded encoded' body
    have same := List.append_inj_left whole (by rw [length, List.length_set])
    obtain ⟨-, rfl⟩ := encode_eq_ok.mp encoded
    rw [(encode_eq_ok.mp encoded').2] at same
    have unchecked : (other.unchecked other.operation.body).length =
        (record.unchecked record.operation.body).length := by
      rw [length_unchecked, length_unchecked, body]
    exact absurd same (withChecksum_ne_set has unchecked inside changed)

/-- With a checksum a record is refused where it stands exactly when one of its bytes, whichever it is,
has become another one. What follows the record makes no difference, not even when the damage is to the
length and moves the place of the checksum. -/
theorem refused_iff_byte_changed (has : version.hasChecksum = true)
    (encoded : record.encode version = .ok bytes) {position : Nat} (inside : position < bytes.length)
    (byte : UInt8) (rest : List UInt8) (offset : Nat) :
    (∃ fault, decode (bytes.set position byte ++ rest) offset version = .error ⟨offset, fault⟩) ↔
      bytes[position] ≠ byte := by
  constructor
  · rintro ⟨fault, refused⟩ rfl
    obtain ⟨cause, undecoded, -⟩ := decode_eq_error.mp refused
    rw [List.set_getElem_self, decodeInput_of_encode encoded rfl] at undecoded
    contradiction
  · intro changed
    have other : bytes[position]? ≠ some byte := by
      rw [List.getElem?_eq_getElem inside]
      exact fun same => changed (Option.some.inj same)
    obtain ⟨fault, undecoded⟩ := decodeInput_of_damaged has encoded inside other
      (Input.bytes_ofList (bytes.set position byte ++ rest))
    exact ⟨fault, decode_eq_error.mpr ⟨fault, undecoded, rfl⟩⟩

theorem refused_iff_byte_changed_length :
    Record.encode ⟨7, .delete, ⟨"/a", 9⟩⟩ .checksummed =
        .ok [0x02, 0, 0, 0, 14, 0, 0, 0, 0, 0, 0, 0, 7, 0, 0, 0, 2, 0x2F, 0x61, 0, 0, 0, 0, 0, 0, 0, 9,
          0x65, 0xEE, 0x96, 0xA8] ∧
      ∃ fault, decode [0x02, 0, 0, 0, 15, 0, 0, 0, 0, 0, 0, 0, 7, 0, 0, 0, 2, 0x2F, 0x61, 0, 0, 0, 0,
        0, 0, 0, 9, 0x65, 0xEE, 0x96, 0xA8, 0xFF] 40 .checksummed = .error ⟨40, fault⟩ := by
  have encoded : Record.encode ⟨7, .delete, ⟨"/a", 9⟩⟩ .checksummed =
      .ok [0x02, 0, 0, 0, 14, 0, 0, 0, 0, 0, 0, 0, 7, 0, 0, 0, 2, 0x2F, 0x61, 0, 0, 0, 0, 0, 0, 0, 9,
        0x65, 0xEE, 0x96, 0xA8] := by decide +kernel
  exact ⟨encoded, (refused_iff_byte_changed (by decide) encoded (show 4 < 31 by decide) 15 [0xFF]
    40).mpr (by decide)⟩

end Record

end Journal
