import Journal.Proofs.Codec.Record

set_option autoImplicit false

namespace Journal.Record

theorem decode_eq_ok {bytes : List UInt8} {offset : Nat} {version : LayoutVersion} {record : Record}
    {size : Nat} :
    decode bytes offset version = .ok (record, size) ↔
      decodeInput (.ofList bytes) version = .ok (record, size) :=
  mapError_eq_ok

theorem encode_eq_error {record : Record} {version : LayoutVersion} {error : Error} :
    record.encode version = .error error ↔
      maxBodyLength < record.operation.body.length ∧
        error = .write (.bodyTooLarge record.opcode record.operation.body.length maxBodyLength) := by
  unfold encode
  by_cases long : maxBodyLength < record.operation.body.length
  · simp [long, eq_comm]
  · simp [long]

section Encoded

variable {record : Record} {version : LayoutVersion} {bytes : List UInt8}
  (encoded : record.encode version = .ok bytes)

include encoded

theorem decode_of_encode (rest : List UInt8) (offset : Nat) :
    decode (bytes ++ rest) offset version = .ok (record, bytes.length) :=
  decode_eq_ok.mpr (decodeInput_of_encode encoded rfl)

theorem encoding_ne_nil : bytes ≠ [] := by
  obtain ⟨trailer, fields⟩ := fields_encode encoded
  rw [fields]
  exact List.cons_ne_nil _ _

theorem cancel_encoding {other : Record} {bytes' rest rest' : List UInt8}
    (encoded' : other.encode version = .ok bytes') (same : bytes ++ rest = bytes' ++ rest') :
    record = other ∧ bytes = bytes' ∧ rest = rest' := by
  have decoded := decode_of_encode encoded rest 0
  rw [same, decode_of_encode encoded' rest' 0] at decoded
  obtain ⟨record_eq, length_eq⟩ := Prod.mk.inj (Except.ok.inj decoded)
  exact ⟨record_eq.symm, List.append_inj same length_eq.symm⟩

end Encoded

theorem split_unique {version : LayoutVersion} {records others : List Record}
    {encodings encodings' : List (List UInt8)}
    (mapped : records.mapM (·.encode version) = .ok encodings)
    (mapped' : others.mapM (·.encode version) = .ok encodings')
    (same : encodings.flatten = encodings'.flatten) : records = others ∧ encodings = encodings' := by
  induction records generalizing others encodings encodings' with
  | nil =>
    obtain rfl : [] = encodings := pure_eq_ok.mp mapped
    cases others with
    | nil => exact ⟨rfl, pure_eq_ok.mp mapped'⟩
    | cons other others =>
      obtain ⟨bytes, _, encoded, -, rfl⟩ := mapM_cons_eq_ok.mp mapped'
      exact absurd (List.append_eq_nil_iff.mp same.symm).1 (encoding_ne_nil encoded)
  | cons record records ih =>
    obtain ⟨bytes, later, encoded, onward, rfl⟩ := mapM_cons_eq_ok.mp mapped
    cases others with
    | nil =>
      obtain rfl : [] = encodings' := pure_eq_ok.mp mapped'
      exact absurd (List.append_eq_nil_iff.mp same).1 (encoding_ne_nil encoded)
    | cons other others =>
      obtain ⟨bytes', later', encoded', onward', rfl⟩ := mapM_cons_eq_ok.mp mapped'
      obtain ⟨rfl, rfl, left⟩ := cancel_encoding encoded encoded' same
      obtain ⟨rfl, rfl⟩ := ih onward onward' left
      exact ⟨rfl, rfl⟩

/-- Only a body that is too long is refused. Any other record is decoded again wherever its encoding
stands, so no encoding begins another one and encodings in a row fall apart in one way only. -/
theorem decode_undoes_encode (version : LayoutVersion) :
    (∀ record : Record,
      (∀ error, record.encode version = .error error ↔
        maxBodyLength < record.operation.body.length ∧
          error = .write
            (.bodyTooLarge record.opcode record.operation.body.length maxBodyLength)) ∧
      (record.operation.body.length ≤ maxBodyLength →
        ∃ bytes, record.encode version = .ok bytes ∧
          bytes.length = encodedLength record.operation.body.length version ∧
          ∀ (rest : List UInt8) (offset : Nat),
            decode (bytes ++ rest) offset version = .ok (record, bytes.length))) ∧
    (∀ (record other : Record) (bytes bytes' : List UInt8), record.encode version = .ok bytes →
      other.encode version = .ok bytes' → bytes <+: bytes' → bytes = bytes') ∧
    ∀ (records others : List Record) (encodings encodings' : List (List UInt8)),
      records.mapM (·.encode version) = .ok encodings →
      others.mapM (·.encode version) = .ok encodings' →
      encodings.flatten = encodings'.flatten → records = others ∧ encodings = encodings' := by
  refine ⟨fun record => ⟨fun _ => encode_eq_error, fun short => ?_⟩, ?_,
    fun _ _ _ _ => split_unique⟩
  · obtain ⟨bytes, encoded⟩ := exists_encode short version
    exact ⟨bytes, encoded, length_encode encoded, decode_of_encode encoded⟩
  · rintro record other bytes bytes' encoded encoded' ⟨rest, same⟩
    rw [← List.append_nil bytes'] at same
    exact (cancel_encoding encoded encoded' same).2.1

theorem decode_undoes_encode_key :
    ∃ bytes, Record.encode ⟨7, .updateMasterKey, ⟨1, 9, [0x18, 0, 0, 0, 0, 0xFF]⟩⟩ .unchecksummed =
        .ok bytes ∧ bytes.length = 35 ∧
      decode (bytes ++ [0x18, 0, 0, 0, 0, 0, 0, 0, 0, 0, 0, 0, 8]) 40 .unchecksummed =
        .ok (⟨7, .updateMasterKey, ⟨1, 9, [0x18, 0, 0, 0, 0, 0xFF]⟩⟩, 35) := by
  obtain ⟨bytes, encoded, length, decoded⟩ := ((decode_undoes_encode .unchecksummed).1
    ⟨7, .updateMasterKey, ⟨1, 9, [0x18, 0, 0, 0, 0, 0xFF]⟩⟩).2 (by decide)
  have size : bytes.length = 35 := length
  rw [size] at decoded
  exact ⟨bytes, encoded, size, decoded _ 40⟩

theorem encode_undoes_decode {bytes : List UInt8} {offset : Nat} {version : LayoutVersion}
    {record : Record} {size : Nat} (decoded : decode bytes offset version = .ok (record, size)) :
    size ≤ bytes.length ∧ record.encode version = .ok (bytes.take size) ∧
      ∀ (other : List UInt8) (offset' size' : Nat),
        decode other offset' version = .ok (record, size') →
          size' = size ∧ other.take size' = bytes.take size := by
  have front {other : List UInt8} {offset' size' : Nat}
      (decoded : decode other offset' version = .ok (record, size')) :
      (other.take size').length = size' ∧ record.encode version = .ok (other.take size') := by
    have taken := decode_eq_ok.mp decoded
    exact ⟨List.length_take_of_le (size_of_decodeInput taken).2, encode_of_decodeInput taken⟩
  obtain ⟨length, encoded⟩ := front decoded
  refine ⟨(size_of_decodeInput (decode_eq_ok.mp decoded)).2, encoded, fun other _ size' again => ?_⟩
  obtain ⟨length', encoded'⟩ := front again
  have same : other.take size' = bytes.take size := Except.ok.inj (encoded'.symm.trans encoded)
  exact ⟨by rw [← length', ← length, same], same⟩

theorem encode_undoes_decode_rename :
    Record.encode ⟨7, .rename, ⟨"/a", "/b", 9, true⟩⟩ .unchecksummed =
      .ok (List.take 34
        [0x0F, 0, 0, 0, 21, 0, 0, 0, 0, 0, 0, 0, 7, 0, 0, 0, 2, 0x2F, 0x61, 0, 0, 0, 2, 0x2F, 0x62,
          0, 0, 0, 0, 0, 0, 0, 9, 1, 0xFF]) :=
  (@encode_undoes_decode
    [0x0F, 0, 0, 0, 21, 0, 0, 0, 0, 0, 0, 0, 7, 0, 0, 0, 2, 0x2F, 0x61, 0, 0, 0, 2, 0x2F, 0x62,
      0, 0, 0, 0, 0, 0, 0, 9, 1, 0xFF] 4 .unchecksummed _ _ (by decide +kernel)).2.1

end Journal.Record
