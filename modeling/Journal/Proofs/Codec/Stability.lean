import Journal.Proofs.Codec.Canonical
import Journal.Proofs.Codec.Damage

set_option autoImplicit false

namespace Journal

def Window.before (window : Window) (more : List UInt8) : Window :=
  ⟨window.bytes ++ more, window.size, by
    have := window.size_le
    rw [List.length_append]
    omega⟩

@[simp] theorem Window.size_before (window : Window) (more : List UInt8) :
    (window.before more).size = window.size := rfl

theorem Window.drop_before {window : Window} {count : Nat} (within : count ≤ window.size)
    (more : List UInt8) : (window.before more).drop count = (window.drop count).before more := by
  have := window.size_le
  simp only [before, drop, List.drop_append_of_le_length (show count ≤ window.bytes.length by omega)]

theorem Window.take_before {window : Window} {count : Nat} (within : count ≤ window.size)
    (more : List UInt8) : (window.before more).bytes.take count = window.bytes.take count := by
  have := window.size_le
  exact List.take_append_of_le_length (show count ≤ window.bytes.length by omega)

/-- A reading does not depend on what lies beyond the window, not even when it fails. -/
def Confined {α : Type} (get : Window → Except FieldFault (α × Window)) : Prop :=
  ∀ window more, get (window.before more) =
    (get window).map fun pair => (pair.1, pair.2.before more)

namespace Confined

variable {α β : Type}

theorem pure (value : α) : Confined fun window => .ok (value, window) := fun _ _ => rfl

theorem error (fault : FieldFault) : Confined fun _ => (.error fault : Except _ (α × Window)) :=
  fun _ _ => rfl

theorem bind {get : Window → Except FieldFault (α × Window)}
    {next : α × Window → Except FieldFault (β × Window)} (head : Confined get)
    (tail : ∀ first, Confined fun rest => next (first, rest)) :
    Confined fun window => get window >>= next := by
  intro window more
  change get (window.before more) >>= next = (get window >>= next).map _
  rw [head window more]
  cases get window with
  | error fault => rfl
  | ok pair => exact tail pair.1 pair.2 more

theorem number (what : String) (width : Nat) : Confined (·.number what width) := by
  intro window more
  change (window.before more).number what width = (window.number what width).map _
  by_cases short : window.size < width
  · simp [Window.number, short, Except.map]
  · have within := Nat.not_lt.mp short
    simp [Window.number, short, Except.map, BigEndian.front_eq, Window.take_before within,
      Window.drop_before within]

theorem next (what : String) (count : Nat) : Confined (·.next what count) := by
  intro window more
  change (window.before more).next what count = (window.next what count).map _
  by_cases short : window.size < count
  · simp [Window.next, short, Except.map]
  · have within := Nat.not_lt.mp short
    simp [Window.next, short, Except.map, Window.take_before within, Window.drop_before within]

end Confined

namespace Schema

variable {α : Type}

theorem confined_integer {what : String} {width : Nat} {toWord : α → UInt64} {ofWord : UInt64 → α}
    {toInt : α → Int} {ofInt? : Int → Option α} :
    Confined (integer what width toWord ofWord toInt ofInt?).get :=
  (Confined.number what width).bind fun word => .pure (ofWord word)

theorem confined_flag : Confined flag.get := by
  refine (Confined.number "u8" 1).bind fun word => ?_
  intro window more
  dsimp only
  split
  · rfl
  · split <;> rfl

theorem confined_text : Confined text.get := by
  refine (Confined.number "string length" 4).bind fun length => ?_
  refine (Confined.next "string" length.toNat).bind fun bytes => ?_
  intro window more
  dsimp only
  split <;> rfl

theorem confined_blob : Confined blob.get :=
  (Confined.number "list count" 4).bind fun count => .next "list" count.toNat

theorem confined_optional {schema : Schema α} (confined : Confined schema.get) :
    Confined schema.optional.get := by
  refine confined_flag.bind fun present => ?_
  cases present with
  | false => exact .pure none
  | true => exact confined.bind fun value => .pure (some value)

theorem confined_getItems {schema : Schema α} (confined : Confined schema.get) (count : Nat)
    (reversed : List α) : Confined (schema.getItems count reversed) := by
  induction count generalizing reversed with
  | zero => exact .pure reversed.reverse
  | succ count ih =>
    intro window more
    rw [getItems, getItems, confined window more]
    cases schema.get window with
    | error fault => rfl
    | ok pair => exact ih (pair.1 :: reversed) pair.2 more

theorem confined_list {schema : Schema α} (confined : Confined schema.get) :
    Confined schema.list.get := by
  refine (Confined.number "list count" 4).bind fun count => ?_
  intro window more
  dsimp only
  rw [Window.size_before]
  split
  · rfl
  · exact confined_getItems confined count.toNat [] window more

end Schema

mutual

theorem Schema.Composed.confined {α : Type} {levels : Nat} {schema : Schema α} :
    schema.Composed levels → Confined schema.get
  | .u16 | .i32 | .i64 => Schema.confined_integer
  | .flag => Schema.confined_flag
  | .text => Schema.confined_text
  | .blob => Schema.confined_blob
  | .boundary => .pure ()
  | .nothing => .error .noPayload
  | .optional _ composed => Schema.confined_optional composed.confined
  | .list _ composed => Schema.confined_list composed.confined
  | .fields composed => composed.confined

theorem Fields.Composed.confined {α : Type} {levels : Nat} {fields : Fields α} :
    fields.Composed levels → Confined fields.get
  | .done => .pure ()
  | .field _ schema rest =>
    schema.confined.bind fun first => rest.confined.bind fun others => .pure (first, others)
  | .as _ _ composed => composed.confined.bind fun _ => .pure _

end

namespace Record

theorem decodeBody_before (opcode : Opcode) (window : Window) (more : List UInt8) :
    decodeBody opcode (window.before more) = decodeBody opcode window := by
  rw [decodeBody, decodeBody, opcode.composed.confined window more]
  cases opcode.schema.get window <;> rfl

theorem checkTrailer_append_right {input longer : Input} {version : LayoutVersion} {length : Nat}
    {more : List UInt8} (extended : longer.bytes = input.bytes ++ more)
    (fits : (length + if version.hasChecksum then checksumSize else 0) ≤ input.size) :
    checkTrailer longer length version = checkTrailer input length version := by
  unfold checkTrailer
  split
  · next has =>
    rw [if_pos has, input.size_eq] at fits
    rw [extended, List.take_append_of_le_length (by omega),
      List.drop_append_of_le_length (by omega), BigEndian.front_eq, BigEndian.front_eq,
      List.take_append_of_le_length (by rw [List.length_drop]; omega)]
  · rfl

theorem window_append {input longer : Input} {more : List UInt8} {bodyLength : Nat}
    (extended : longer.bytes = input.bytes ++ more) (enough : headerSize + bodyLength ≤ input.size) :
    (longer.drop headerSize).window bodyLength =
      ((input.drop headerSize).window bodyLength).before more := by
  have size := longer.size_eq
  rw [extended, List.length_append, ← input.size_eq] at size
  have within : headerSize ≤ input.bytes.length := by
    rw [← input.size_eq]
    omega
  simp only [Input.window, Input.drop, Window.before, extended,
    List.drop_append_of_le_length within, Window.mk.injEq, true_and]
  omega

theorem decodeOf_eq_short {opcode : Opcode} {input : Input} {version : LayoutVersion}
    (short : input.size < headerSize) :
    decodeOf opcode input version = .error (.truncated headerSize input.size) := by
  simp only [decodeOf, bind, Except.bind, throw, throwThe, MonadExcept.throw, MonadExceptOf.throw]
  rw [if_pos short]

theorem decodeOf_eq_oversized {opcode : Opcode} {input : Input} {version : LayoutVersion}
    {bodyLength : Nat} (announced : (BigEndian.front 4 (input.bytes.drop 1)).toNat = bodyLength)
    (headed : headerSize ≤ input.size) (long : maxBodyLength < bodyLength) :
    decodeOf opcode input version =
      .error (.malformed (.oversizedBody bodyLength maxBodyLength)) := by
  subst announced
  simp only [decodeOf, bind, Except.bind, throw, throwThe, MonadExcept.throw, MonadExceptOf.throw]
  rw [if_neg (Nat.not_lt.mpr headed), if_pos long]

theorem decodeOf_eq_truncated {opcode : Opcode} {input : Input} {version : LayoutVersion}
    {bodyLength : Nat} (announced : (BigEndian.front 4 (input.bytes.drop 1)).toNat = bodyLength)
    (headed : headerSize ≤ input.size) (fits : bodyLength ≤ maxBodyLength)
    (cut : input.size < encodedLength bodyLength version) :
    decodeOf opcode input version =
      .error (.truncated (encodedLength bodyLength version) input.size) := by
  subst announced
  simp only [decodeOf, bind, Except.bind, throw, throwThe, MonadExcept.throw, MonadExceptOf.throw]
  rw [if_neg (Nat.not_lt.mpr headed), if_neg (Nat.not_lt.mpr fits), if_pos cut]

theorem decodeOf_eq_whole {opcode : Opcode} {input : Input} {version : LayoutVersion}
    {bodyLength : Nat} (announced : (BigEndian.front 4 (input.bytes.drop 1)).toNat = bodyLength)
    (headed : headerSize ≤ input.size) (fits : bodyLength ≤ maxBodyLength)
    (enough : encodedLength bodyLength version ≤ input.size) :
    decodeOf opcode input version = do
      let payload ← decodeBody opcode ((input.drop headerSize).window bodyLength)
      checkTrailer input (headerSize + bodyLength) version
      return (⟨BigEndian.front 8 (input.bytes.drop 5), opcode, payload⟩,
        encodedLength bodyLength version) := by
  subst announced
  simp only [decodeOf, bind, Except.bind, throw, throwThe, MonadExcept.throw, MonadExceptOf.throw]
  rw [if_neg (Nat.not_lt.mpr headed), if_neg (Nat.not_lt.mpr fits), if_neg (Nat.not_lt.mpr enough)]

inductive Prolonged {α : Type} (size size' : Nat) :
    Except DecodeFault α → Except DecodeFault α → Prop
  | settled {outcome : Except DecodeFault α}
    (settled : ∀ needed available, outcome ≠ .error (.truncated needed available)) :
    Prolonged size size' outcome outcome
  | short {needed : Nat} {outcome : Except DecodeFault α} (short : size < needed)
    (still : size' < needed → outcome = .error (.truncated needed size')) :
    Prolonged size size' (.error (.truncated needed size)) outcome

namespace Prolonged

variable {α : Type} {size size' : Nat} {outcome : Except DecodeFault α}

theorem ok {value : α} (prolonged : Prolonged size size' (.ok value) outcome) :
    outcome = .ok value := by
  cases prolonged
  rfl

theorem error {fault : DecodeFault} (prolonged : Prolonged size size' (.error fault) outcome)
    (other : ∀ needed available, fault ≠ .truncated needed available) : outcome = .error fault := by
  cases prolonged with
  | settled => rfl
  | short => exact absurd rfl (other _ _)

theorem truncated {needed available : Nat}
    (prolonged : Prolonged size size' (.error (.truncated needed available)) outcome) :
    available = size ∧ size < needed ∧
      (size' < needed → outcome = .error (.truncated needed size')) := by
  cases prolonged with
  | settled settled => exact absurd rfl (settled _ _)
  | short short still => exact ⟨rfl, short, still⟩

end Prolonged

theorem decodeBody_ne_truncated (opcode : Opcode) (window : Window) (needed available : Nat) :
    decodeBody opcode window ≠ .error (.truncated needed available) := by
  rw [decodeBody]
  split
  · nofun
  · split <;> nofun

theorem checkTrailer_ne_truncated (input : Input) (length : Nat) (version : LayoutVersion)
    (needed available : Nat) :
    checkTrailer input length version ≠ .error (.truncated needed available) := by
  rw [checkTrailer]
  split
  · dsimp only
    split <;> nofun
  · nofun

theorem decodeOf_prolonged (opcode : Opcode) (version : LayoutVersion) {input longer : Input}
    {more : List UInt8} (extended : longer.bytes = input.bytes ++ more) :
    Prolonged input.size longer.size (decodeOf opcode input version)
      (decodeOf opcode longer version) := by
  have size : longer.size = input.size + more.length := by
    rw [longer.size_eq, input.size_eq, extended, List.length_append]
  by_cases short : input.size < headerSize
  · rw [decodeOf_eq_short short]
    exact .short short decodeOf_eq_short
  have headed := Nat.not_lt.mp short
  -- With the header the announced length stands.
  have front (start width : Nat) (inside : start + width ≤ headerSize) :
      BigEndian.front width (longer.bytes.drop start) =
        BigEndian.front width (input.bytes.drop start) := by
    rw [input.size_eq] at headed
    rw [extended, List.drop_append_of_le_length (by omega), BigEndian.front_eq, BigEndian.front_eq,
      List.take_append_of_le_length (by rw [List.length_drop]; omega)]
  have announced' := congrArg UInt64.toNat (front 1 4 (by decide))
  generalize announced : (BigEndian.front 4 (input.bytes.drop 1)).toNat = bodyLength at announced'
  by_cases long : maxBodyLength < bodyLength
  · rw [decodeOf_eq_oversized announced headed long,
      decodeOf_eq_oversized announced' (by omega) long]
    exact .settled (by rintro needed available ⟨⟩)
  have fits := Nat.not_lt.mp long
  by_cases cut : input.size < encodedLength bodyLength version
  · rw [decodeOf_eq_truncated announced headed fits cut]
    exact .short cut (decodeOf_eq_truncated announced' (by omega) fits)
  have enough := Nat.not_lt.mp cut
  rw [decodeOf_eq_whole announced headed fits enough,
    decodeOf_eq_whole announced' (by omega) fits (by omega), front 5 8 (by decide),
    window_append extended (by rw [encodedLength] at enough; omega), decodeBody_before,
    checkTrailer_append_right extended (by rwa [encodedLength] at enough)]
  apply Prolonged.settled
  intro needed available
  cases decoded : decodeBody opcode ((input.drop headerSize).window bodyLength) with
  | error fault =>
    rintro ⟨⟩
    exact decodeBody_ne_truncated _ _ _ _ decoded
  | ok payload =>
    cases checked : checkTrailer input (headerSize + bodyLength) version with
    | error fault =>
      rintro ⟨⟩
      exact checkTrailer_ne_truncated _ _ _ _ _ checked
    | ok => rintro ⟨⟩

theorem decodeInput_prolonged (version : LayoutVersion) {input longer : Input} {more : List UInt8}
    (extended : longer.bytes = input.bytes ++ more) :
    Prolonged input.size longer.size (decodeInput input version) (decodeInput longer version) := by
  obtain ⟨bytes, size, rfl⟩ := input
  cases bytes with
  | nil =>
    refine .short Nat.zero_lt_one fun still => ?_
    have none : longer.bytes = [] := by
      rw [← List.length_eq_zero_iff, ← longer.size_eq]
      omega
    rw [decodeInput, none, show longer.size = 0 by omega]
  | cons code rest =>
    rw [decodeInput, decodeInput, extended]
    dsimp only [List.cons_append]
    split
    · exact .settled (by rintro needed available ⟨⟩)
    · exact .settled (by rintro needed available ⟨⟩)
    · exact decodeOf_prolonged _ version extended

theorem decodeInput_append (version : LayoutVersion) (bytes more : List UInt8) :
    Prolonged bytes.length (bytes ++ more).length (decodeInput (.ofList bytes) version)
      (decodeInput (.ofList (bytes ++ more)) version) := by
  have extended : (Input.ofList (bytes ++ more)).bytes = (Input.ofList bytes).bytes ++ more := rfl
  exact decodeInput_prolonged version extended

theorem decodeInput_of_prefix {version : LayoutVersion} {bytes more : List UInt8} {record : Record}
    {size : Nat} (decoded : decodeInput (.ofList (bytes ++ more)) version = .ok (record, size))
    (cut : bytes.length < size) :
    ∃ needed, bytes.length < needed ∧ needed ≤ size ∧
      decodeInput (.ofList bytes) version = .error (.truncated needed bytes.length) := by
  -- The record is decoded from its own bytes alone, so no more than these can be needed.
  have own : (bytes ++ more).take size = bytes ++ more.take (size - bytes.length) := by
    rw [List.take_append, List.take_of_length_le (Nat.le_of_lt cut)]
  have encoded := encode_of_decodeInput decoded
  have length : ((bytes ++ more).take size).length = size :=
    List.length_take_of_le (size_of_decodeInput decoded).2
  rw [Input.bytes_ofList, own] at encoded
  rw [own] at length
  have alone : (Input.ofList (bytes ++ more.take (size - bytes.length))).bytes =
      bytes ++ more.take (size - bytes.length) ++ [] := (List.append_nil _).symm
  have whole := decodeInput_of_encode encoded alone
  have prolonged := decodeInput_append version bytes (more.take (size - bytes.length))
  rw [whole, length] at prolonged
  generalize outcome : decodeInput (.ofList bytes) version = first at prolonged ⊢
  cases prolonged with
  | settled =>
    have within : size ≤ bytes.length := (size_of_decodeInput outcome).2
    omega
  | @short needed _ short still =>
    have enough : needed ≤ size := by
      by_contra more
      exact nomatch still (by omega)
    exact ⟨needed, short, enough, rfl⟩

theorem decodeInput_of_cut {record : Record} {version : LayoutVersion} {bytes : List UInt8}
    (encoded : record.encode version = .ok bytes) {count : Nat} (short : count < bytes.length) :
    ∃ needed, count < needed ∧
      decodeInput (.ofList (bytes.take count)) version = .error (.truncated needed count) := by
  have length : (bytes.take count).length = count := List.length_take_of_le (Nat.le_of_lt short)
  have whole : (Input.ofList (bytes.take count ++ bytes.drop count)).bytes = bytes ++ [] := by
    rw [Input.bytes_ofList, List.take_append_drop, List.append_nil]
  obtain ⟨needed, more, -, undecoded⟩ :=
    decodeInput_of_prefix (decodeInput_of_encode encoded whole) (by rwa [length])
  rw [length] at more undecoded
  exact ⟨needed, more, undecoded⟩

/-- A record that has been decoded, and any fault but a truncation, stays the same whatever bytes are
added. A truncation counts the bytes that are there against a larger number, and stays until there are
as many. So less than a whole record is only ever taken for a truncation. -/
theorem stable_under_more_bytes (bytes more : List UInt8) (offset : Nat) (version : LayoutVersion) :
    (∀ record size, decode bytes offset version = .ok (record, size) →
      decode (bytes ++ more) offset version = .ok (record, size)) ∧
    (∀ error, decode bytes offset version = .error error → error.isTruncation = false →
      decode (bytes ++ more) offset version = .error error) ∧
    (∀ error needed available, decode bytes offset version = .error error →
      error.fault = .truncated needed available →
        available = bytes.length ∧ bytes.length < needed ∧
          ((bytes ++ more).length < needed → decode (bytes ++ more) offset version =
            .error ⟨offset, .truncated needed (bytes ++ more).length⟩)) ∧
    ∀ record size, decode (bytes ++ more) offset version = .ok (record, size) →
      bytes.length < size → ∃ needed, bytes.length < needed ∧ needed ≤ size ∧
        decode bytes offset version = .error ⟨offset, .truncated needed bytes.length⟩ := by
  have prolonged := decodeInput_append version bytes more
  refine ⟨fun record size decoded => ?_, fun error refused other => ?_,
    fun error needed available refused cut => ?_, fun record size decoded cut => ?_⟩
  · rw [decode_eq_ok.mp decoded] at prolonged
    exact decode_eq_ok.mpr prolonged.ok
  · obtain ⟨fault, undecoded, rfl⟩ := decode_eq_error.mp refused
    rw [undecoded] at prolonged
    refine decode_eq_error.mpr ⟨fault, prolonged.error ?_, rfl⟩
    rintro needed available rfl
    contradiction
  · obtain ⟨fault, undecoded, rfl⟩ := decode_eq_error.mp refused
    obtain rfl : fault = .truncated needed available := cut
    rw [undecoded] at prolonged
    obtain ⟨counted, short, still⟩ := prolonged.truncated
    exact ⟨counted, short, fun less => decode_eq_error.mpr ⟨_, still less, rfl⟩⟩
  · obtain ⟨needed, short, enough, undecoded⟩ :=
      decodeInput_of_prefix (decode_eq_ok.mp decoded) cut
    exact ⟨needed, short, enough, decode_eq_error.mpr ⟨_, undecoded, rfl⟩⟩

theorem stable_under_more_bytes_rename :
    decode [0x0F, 0, 0, 0, 21, 0, 0, 0, 0, 0, 0, 0, 7] 40 .unchecksummed =
        .error ⟨40, .truncated 34 13⟩ ∧
      decode [0x0F, 0, 0, 0, 21, 0, 0, 0, 0, 0, 0, 0, 7, 0] 40 .unchecksummed =
        .error ⟨40, .truncated 34 14⟩ := by
  have cut : decode [0x0F, 0, 0, 0, 21, 0, 0, 0, 0, 0, 0, 0, 7] 40 .unchecksummed =
      .error ⟨40, .truncated 34 13⟩ := by decide +kernel
  exact ⟨cut, ((stable_under_more_bytes _ [0] 40 .unchecksummed).2.2.1 _ 34 13 cut rfl).2.2
    (by decide)⟩

end Record

end Journal
