import Journal.Text.Utf8

set_option autoImplicit false

namespace Journal.Utf8

theorem encode_of_decode {bytes : List UInt8} {value : String}
    (decoded : decode bytes = .ok value) : encode value = bytes := by
  unfold decode decode? String.fromUTF8? at decoded
  split at decoded
  · next found =>
    split at found
    · obtain rfl := Option.some.inj found
      obtain rfl := Except.ok.inj decoded
      simp [encode_eq, String.fromUTF8]
    · contradiction
  · contradiction

theorem encode_append (first second : String) :
    encode (first ++ second) = encode first ++ encode second := by
  rw [encode, String.toByteArray_append, Packed.toList_append]
  rfl

theorem encode_ofList (chars : List Char) :
    encode (String.ofList chars) = chars.flatMap String.utf8EncodeChar := by
  rw [encode, String.toByteArray_ofList, List.utf8Encode, Packed.toList_toByteArray]

theorem encode_toList (text : String) : encode text = text.toList.flatMap String.utf8EncodeChar := by
  rw [← encode_ofList, String.ofList_toList]

theorem encode_join (pieces : List String) :
    encode (String.join pieces) = pieces.flatMap encode := by
  induction pieces with
  | nil => rfl
  | cons piece pieces ih => rw [String.join_cons, encode_append, ih, List.flatMap_cons]

theorem fromUTF8?_of_encode {bytes : ByteArray} {text : String}
    (spelled : Packed.toList bytes = encode text) : String.fromUTF8? bytes = some text := by
  have same : bytes = text.toByteArray := by
    apply ByteArray.ext
    apply Array.toList_inj.mp
    rw [← Packed.toList_eq, spelled, encode_eq]
  rw [same, ← decode?_encode text, decode?, encode]
  congr
  apply ByteArray.ext
  apply Array.toList_inj.mp
  rw [← Packed.toList_eq, ← Packed.toList_eq, Packed.toList_toByteArray]

theorem encodeChar_of_ascii {c : Char} (small : c.toNat < 0x80) :
    String.utf8EncodeChar c = [UInt8.ofNat c.toNat] := by
  rw [String.utf8EncodeChar]
  exact if_pos (show c.toNat ≤ 0x7F by omega)

theorem high_of_mem_encodeChar {c : Char} (large : 0x80 ≤ c.toNat) {byte : UInt8}
    (inside : byte ∈ String.utf8EncodeChar c) : 0x80 ≤ byte.toNat := by
  -- No byte of another character is taken for one of ASCII.
  have wide : ¬ c.toNat ≤ 0x7F := by omega
  change byte ∈ ite (c.toNat ≤ 0x7F) _ _ at inside
  rw [if_neg wide] at inside
  split at inside
  · simp only [List.mem_cons, List.not_mem_nil, or_false] at inside
    rcases inside with rfl | rfl <;> rw [UInt8.toNat_ofNat'] <;> omega
  · split at inside
    · simp only [List.mem_cons, List.not_mem_nil, or_false] at inside
      rcases inside with rfl | rfl | rfl <;> rw [UInt8.toNat_ofNat'] <;> omega
    · simp only [List.mem_cons, List.not_mem_nil, or_false] at inside
      rcases inside with rfl | rfl | rfl | rfl <;> rw [UInt8.toNat_ofNat'] <;> omega

end Journal.Utf8
