import Journal.Proofs.Codec.Numbers
import Journal.Proofs.Outcome
import Journal.Proofs.Text.Utf8
import Journal.Record.Schema

set_option autoImplicit false

namespace Journal

theorem Window.length_contents (window : Window) : window.contents.length = window.size := by
  have := window.size_le
  simp only [contents, List.length_take]
  omega

theorem Window.drop_drop (first second : Nat) (window : Window) :
    (window.drop first).drop second = window.drop (first + second) := by
  obtain ⟨bytes, size, size_le⟩ := window
  simp only [drop, List.drop_drop, mk.injEq, true_and]
  omega

theorem Window.drop_zero (window : Window) : window.drop 0 = window := rfl

def Reads {α : Type} (get : Window → Except FieldFault (α × Window)) (bytes : List UInt8)
    (value : α) : Prop :=
  ∀ window rest, window.contents = bytes ++ rest → get window = .ok (value, window.drop bytes.length)

/-- A count or a length of 2 ^ 32 cannot be written, hence the bound. -/
structure Lawful {α : Type} (put : α → List UInt8)
    (get : Window → Except FieldFault (α × Window)) : Prop where
  reads_put : ∀ value, (put value).length < 2 ^ 32 → Reads get (put value) value
  of_get : ∀ window value rest, get window = .ok (value, rest) →
    put value <+: window.contents ∧ Reads get (put value) value

theorem Window.contents_drop_of_append {window : Window} {bytes rest : List UInt8}
    (starts : window.contents = bytes ++ rest) : (window.drop bytes.length).contents = rest := by
  rw [contents_drop, starts, List.drop_left]

theorem Window.size_of_append {window : Window} {bytes rest : List UInt8}
    (starts : window.contents = bytes ++ rest) : window.size = bytes.length + rest.length := by
  rw [← length_contents, starts, List.length_append]

theorem Window.take_bytes_of_append {window : Window} {bytes rest : List UInt8}
    (starts : window.contents = bytes ++ rest) : window.bytes.take bytes.length = bytes := by
  have within : bytes.length ≤ window.size := by
    rw [size_of_append starts]
    omega
  calc window.bytes.take bytes.length
    _ = window.contents.take bytes.length := by
      rw [contents, List.take_take, Nat.min_eq_left within]
    _ = bytes := by rw [starts, List.take_left]

theorem Window.contents_eq_append {window : Window} {count : Nat} (within : count ≤ window.size) :
    window.contents = window.bytes.take count ++ (window.drop count).contents := by
  have same : window.bytes.take count = window.contents.take count := by
    rw [contents, List.take_take, Nat.min_eq_left within]
  rw [same, contents_drop, List.take_append_drop]

theorem Lawful.window_eq {α : Type} {put : α → List UInt8}
    {get : Window → Except FieldFault (α × Window)} (lawful : Lawful put get) {window rest : Window}
    {value : α} (got : get window = .ok (value, rest)) :
    window.contents = put value ++ rest.contents ∧ rest = window.drop (put value).length := by
  -- A reading is the front of the body, and the rest is what it leaves.
  obtain ⟨⟨tail, starts⟩, reads⟩ := lawful.of_get window value rest got
  have again := reads window tail starts.symm
  rw [got, Except.ok.injEq, Prod.mk.injEq] at again
  obtain ⟨-, rfl⟩ := again
  rw [Window.contents_drop_of_append starts.symm]
  exact ⟨starts.symm, rfl⟩

theorem Reads.bind {α β : Type} {get : Window → Except FieldFault (α × Window)}
    {next : α × Window → Except FieldFault (β × Window)} {bytes more : List UInt8} {first : α}
    {second : β} (head : Reads get bytes first)
    (tail : Reads (fun rest => next (first, rest)) more second) :
    Reads (fun window => get window >>= next) (bytes ++ more) second := by
  intro window rest starts
  rw [List.append_assoc] at starts
  have step : next (first, window.drop bytes.length) = _ :=
    tail _ _ (Window.contents_drop_of_append starts)
  change get window >>= next = _
  rw [head window _ starts, ok_bind, step, Window.drop_drop, List.length_append]

theorem Reads.pure {α : Type} (value : α) : Reads (fun window => .ok (value, window)) [] value :=
  fun _ _ _ => rfl

theorem Reads.map {α β : Type} {get : Window → Except FieldFault (α × Window)} {bytes : List UInt8}
    {value : α} (reads : Reads get bytes value) (change : α → β) :
    Reads (fun window => get window >>= fun pair => .ok (change pair.1, pair.2)) bytes
      (change value) := by
  intro window rest starts
  change get window >>= _ = _
  rw [reads window rest starts, ok_bind]

theorem reads_number {what : String} {width : Nat} {word : UInt64}
    (fits : word.toNat < 256 ^ width) :
    Reads (·.number what width) (BigEndian.encode width word.toNat) word := by
  intro window rest starts
  have size := Window.size_of_append starts
  have front := Window.take_bytes_of_append starts
  rw [BigEndian.length_encode] at size front ⊢
  change window.number what width = _
  rw [Window.number, if_neg (by omega), BigEndian.front_eq, front,
    BigEndian.decode_encode_of_lt fits, UInt64.ofNat_toNat]

theorem of_number {what : String} {width : Nat} (narrow : width ≤ 8) {window rest : Window}
    {word : UInt64} (got : window.number what width = .ok (word, rest)) :
    window.contents = BigEndian.encode width word.toNat ++ rest.contents ∧
      word.toNat < 256 ^ width := by
  rw [Window.number] at got
  split at got
  · contradiction
  · next within =>
    have within : width ≤ window.size := by omega
    obtain ⟨rfl, rfl⟩ := Prod.mk.inj (Except.ok.inj got)
    rw [BigEndian.encode_front narrow (Nat.le_trans within window.size_le)]
    exact ⟨Window.contents_eq_append within, BigEndian.toNat_front_lt narrow _⟩

theorem reads_next {what : String} (bytes : List UInt8) :
    Reads (·.next what bytes.length) bytes bytes := by
  intro window rest starts
  have size := Window.size_of_append starts
  change window.next what bytes.length = _
  rw [Window.next, if_neg (by omega), Window.take_bytes_of_append starts]

theorem of_next {what : String} {count : Nat} {window rest : Window} {bytes : List UInt8}
    (got : window.next what count = .ok (bytes, rest)) :
    window.contents = bytes ++ rest.contents ∧ bytes.length = count := by
  rw [Window.next] at got
  split at got
  · contradiction
  · next within =>
    have within : count ≤ window.size := by omega
    have := window.size_le
    obtain ⟨rfl, rfl⟩ := Prod.mk.inj (Except.ok.inj got)
    refine ⟨Window.contents_eq_append within, ?_⟩
    rw [List.length_take]
    omega

theorem Lawful.refine {α β : Type} {put : α → List UInt8}
    {get : Window → Except FieldFault (α × Window)} (lawful : Lawful put get)
    (encode : β → α) (decode : α → Except FieldFault β)
    (decode_encode : ∀ value, decode (encode value) = .ok value)
    (encode_of_decode : ∀ item value, decode item = .ok value → encode value = item) :
    Lawful (fun value => put (encode value))
      (fun window => get window >>= fun pair => (decode pair.1).map (·, pair.2)) := by
  -- A reading that goes on with `decode`, which undoes `encode` and nothing else.
  have reads (value : β) (front : Reads get (put (encode value)) (encode value)) :
      Reads (fun window => get window >>= fun pair => (decode pair.1).map (·, pair.2))
        (put (encode value)) value := by
    intro window rest starts
    change get window >>= _ = _
    rw [front window rest starts, ok_bind, decode_encode]
    rfl
  constructor
  · intro value short
    exact reads value (lawful.reads_put (encode value) short)
  · intro window value rest got
    obtain ⟨⟨item, after⟩, first, last⟩ := bind_eq_ok.mp got
    cases decoded : decode item with
    | error fault => simp [decoded, Except.map] at last
    | ok result =>
      simp only [decoded, Except.map, Except.ok.injEq, Prod.mk.injEq] at last
      obtain ⟨rfl, rfl⟩ := last
      have known := encode_of_decode item result decoded
      subst known
      obtain ⟨front, again⟩ := lawful.of_get window _ _ first
      exact ⟨front, reads result again⟩

theorem Lawful.pair {α β : Type} {putFirst : α → List UInt8} {putSecond : β → List UInt8}
    {getFirst : Window → Except FieldFault (α × Window)}
    {getSecond : Window → Except FieldFault (β × Window)} (first : Lawful putFirst getFirst)
    (second : Lawful putSecond getSecond) :
    Lawful (fun value : α × β => putFirst value.1 ++ putSecond value.2)
      (fun window => getFirst window >>= fun pair =>
        (getSecond pair.2).map fun other => ((pair.1, other.1), other.2)) := by
  have reads (value : α × β) (front : Reads getFirst (putFirst value.1) value.1)
      (back : Reads getSecond (putSecond value.2) value.2) :
      Reads (fun window => getFirst window >>= fun pair =>
        (getSecond pair.2).map fun other => ((pair.1, other.1), other.2))
        (putFirst value.1 ++ putSecond value.2) value := by
    apply front.bind
    intro window rest starts
    change (getSecond window).map _ = _
    rw [back window rest starts]
    rfl
  constructor
  · intro value short
    rw [List.length_append] at short
    exact reads value (first.reads_put _ (by omega)) (second.reads_put _ (by omega))
  · intro window value rest got
    obtain ⟨⟨head, after⟩, gotFirst, last⟩ := bind_eq_ok.mp got
    cases gotSecond : getSecond after with
    | error fault => simp [gotSecond, Except.map] at last
    | ok other =>
      simp only [gotSecond, Except.map, Except.ok.injEq, Prod.mk.injEq] at last
      obtain ⟨rfl, rfl⟩ := last
      obtain ⟨whole, rfl⟩ := first.window_eq gotFirst
      obtain ⟨⟨tail, front⟩, again⟩ := second.of_get _ _ _ gotSecond
      refine ⟨⟨tail, ?_⟩, reads _ (first.of_get _ _ _ gotFirst).2 again⟩
      rw [whole, ← front, List.append_assoc]

theorem Lawful.done : Lawful (fun _ : Unit => []) (fun window => .ok ((), window)) where
  reads_put value _ := Reads.pure value
  of_get _ value _ _ := ⟨List.nil_prefix, Reads.pure value⟩

def Window.counted (body : Window) (count what : String) :
    Except FieldFault (List UInt8 × Window) :=
  body.number count 4 >>= fun pair => pair.2.next what pair.1.toNat

theorem toNat_ofNat_of_lt {count : Nat} (fits : count < 2 ^ 32) :
    (UInt64.ofNat count).toNat = count := by
  rw [UInt64.toNat_ofNat']
  omega

theorem reads_count {what : String} {count : Nat} (fits : count < 2 ^ 32) :
    Reads (·.number what 4) (BigEndian.encode 4 count) (UInt64.ofNat count) := by
  have value := toNat_ofNat_of_lt fits
  have reads := @reads_number what 4 (UInt64.ofNat count) (by rw [value]; omega)
  rwa [value] at reads

theorem lawful_counted (count what : String) :
    Lawful Schema.putCounted (·.counted count what) := by
  have reads (bytes : List UInt8) (fits : bytes.length < 2 ^ 32) :
      Reads (·.counted count what) (Schema.putCounted bytes) bytes := by
    apply (reads_count fits).bind
    have next := @reads_next what bytes
    rwa [← toNat_ofNat_of_lt fits] at next
  constructor
  · intro bytes short
    rw [Schema.putCounted, List.length_append] at short
    exact reads bytes (by omega)
  · intro window bytes rest got
    obtain ⟨⟨length, after⟩, number, next⟩ := bind_eq_ok.mp got
    obtain ⟨front, small⟩ := of_number (by decide) number
    obtain ⟨back, size⟩ := of_next next
    refine ⟨⟨rest.contents, ?_⟩, reads bytes (by rw [size]; exact small)⟩
    rw [Schema.putCounted, front, back, size, List.append_assoc]

namespace Schema

variable {α : Type}

def Lawful (schema : Schema α) : Prop := Journal.Lawful schema.put schema.get

theorem lawful_integer {what : String} {width : Nat} {toWord : α → UInt64} {ofWord : UInt64 → α}
    {toInt : α → Int} {ofInt? : Int → Option α} (narrow : width ≤ 8)
    (fits : ∀ value, (toWord value).toNat < 256 ^ width)
    (ofWord_toWord : ∀ value, ofWord (toWord value) = value)
    (toWord_ofWord : ∀ word, word.toNat < 256 ^ width → toWord (ofWord word) = word) :
    (integer what width toWord ofWord toInt ofInt?).Lawful where
  reads_put value _ := by
    have reads := (@reads_number what width _ (fits value)).map ofWord
    rwa [ofWord_toWord] at reads
  of_get window value rest got := by
    obtain ⟨⟨word, after⟩, number, done⟩ := bind_eq_ok.mp got
    simp only [pure_eq_ok, Prod.mk.injEq] at done
    obtain ⟨rfl, rfl⟩ := done
    obtain ⟨front, small⟩ := of_number narrow number
    simp only [integer, toWord_ofWord word small]
    exact ⟨⟨_, front.symm⟩, (reads_number small).map ofWord⟩

theorem lawful_u16 : u16.Lawful :=
  lawful_integer (by decide) (fun value => value.toNat_lt) (fun _ => UInt16.toUInt16_toUInt64 _)
    (fun word small => by
      apply UInt64.toNat_inj.mp
      simp only [UInt16.toNat_toUInt64, UInt64.toNat_toUInt16]
      exact Nat.mod_eq_of_lt small)

theorem lawful_i32 : i32.Lawful :=
  lawful_integer (by decide) (fun value => value.toUInt32.toNat_lt) (fun value => by simp)
    (fun word small => by
      apply UInt64.toNat_inj.mp
      simp only [UInt32.toUInt32_toInt32, UInt32.toNat_toUInt64, UInt64.toNat_toUInt32]
      exact Nat.mod_eq_of_lt small)

theorem lawful_i64 : i64.Lawful :=
  lawful_integer (by decide) (fun value => value.toUInt64.toNat_lt) (fun value => by simp)
    (fun word _ => by simp)

theorem reads_flag (value : Bool) : Reads flag.get (flag.put value) value := by
  cases value
  · exact (@reads_number "u8" 1 0 (by decide)).bind (Reads.pure false)
  · exact (@reads_number "u8" 1 1 (by decide)).bind (Reads.pure true)

theorem lawful_flag : flag.Lawful where
  reads_put value _ := reads_flag value
  of_get window value rest got := by
    refine ⟨?_, reads_flag value⟩
    obtain ⟨⟨word, after⟩, number, done⟩ := bind_eq_ok.mp got
    have front := (of_number (by decide) number).1
    dsimp only at done
    split at done
    · next zero =>
      simp only [pure_eq_ok, Prod.mk.injEq] at done
      obtain ⟨rfl, rfl⟩ := done
      exact ⟨_, by rw [front, zero]; rfl⟩
    · split at done
      · next one =>
        simp only [pure_eq_ok, Prod.mk.injEq] at done
        obtain ⟨rfl, rfl⟩ := done
        exact ⟨_, by rw [front, one]; rfl⟩
      · exact (throw_eq_ok.mp done).elim

theorem lawful_blob : blob.Lawful := lawful_counted "list count" "list"

theorem lawful_text : text.Lawful := by
  have refined := (lawful_counted "string length" "string").refine Utf8.encode
    (fun bytes => (Utf8.decode bytes).mapError .notText)
    (fun value => by rw [Utf8.decode, Utf8.decode?_encode]; rfl)
    (fun bytes value decoded => Utf8.encode_of_decode (mapError_eq_ok.mp decoded))
  have same : text.get = fun window => window.counted "string length" "string" >>= fun pair =>
      ((Utf8.decode pair.1).mapError FieldFault.notText).map (·, pair.2) := by
    funext window
    simp only [text, Window.counted, bind_assoc]
    congr 1
    funext length
    congr 1
    funext pair
    cases Utf8.decode pair.1 <;> rfl
  rw [Schema.Lawful, same]
  exact refined

theorem lawful_optional {schema : Schema α} (lawful : schema.Lawful) : schema.optional.Lawful := by
  have reads_some (value : α) (reads : Reads schema.get (schema.put value) value) :
      Reads schema.optional.get (schema.optional.put (some value)) (some value) :=
    (reads_flag true).bind (reads.map some)
  have reads_none : Reads schema.optional.get (schema.optional.put none) none :=
    (reads_flag false).bind (Reads.pure none)
  constructor
  · rintro (_ | value) short
    · exact reads_none
    · simp only [optional, List.length_append] at short
      exact reads_some value (lawful.reads_put value (by omega))
  · intro window value rest got
    obtain ⟨⟨present, after⟩, flagged, got⟩ := bind_eq_ok.mp got
    obtain ⟨front, -⟩ := lawful_flag.window_eq flagged
    cases present with
    | false =>
      obtain ⟨rfl, rfl⟩ := Prod.mk.inj (pure_eq_ok.mp got)
      exact ⟨⟨_, front.symm⟩, reads_none⟩
    | true =>
      obtain ⟨⟨item, last⟩, found, done⟩ := bind_eq_ok.mp got
      obtain ⟨rfl, rfl⟩ := Prod.mk.inj (pure_eq_ok.mp done)
      have reads := (lawful.of_get _ _ _ found).2
      refine ⟨⟨last.contents, ?_⟩, reads_some item reads⟩
      rw [front, (lawful.window_eq found).1, ← List.append_assoc]
      rfl

theorem reads_getItems (schema : Schema α) (items reversed : List α)
    (reads : ∀ item ∈ items, Reads schema.get (schema.put item) item) :
    Reads (schema.getItems items.length reversed) (items.flatMap schema.put)
      (reversed.reverse ++ items) := by
  -- One after the other, behind those that have been read before.
  induction items generalizing reversed with
  | nil =>
    intro window rest starts
    simp [getItems, Window.drop_zero]
  | cons item items ih =>
    have first := reads item (by simp)
    have later := ih (item :: reversed) (fun other member => reads other (by simp [member]))
    intro window rest starts
    rw [List.flatMap_cons, List.append_assoc] at starts
    have next := later _ rest (Window.contents_drop_of_append starts)
    rw [List.length_cons, getItems, first window _ starts]
    dsimp only
    rw [next, Window.drop_drop, List.flatMap_cons, List.length_append]
    simp

theorem of_getItems {schema : Schema α} (lawful : schema.Lawful) {count : Nat}
    {reversed items : List α} {window rest : Window}
    (got : schema.getItems count reversed window = .ok (items, rest)) :
    ∃ later, items = reversed.reverse ++ later ∧ later.length = count ∧
      window.contents = later.flatMap schema.put ++ rest.contents ∧
      ∀ item ∈ later, Reads schema.get (schema.put item) item := by
  induction count generalizing reversed window with
  | zero =>
    obtain ⟨rfl, rfl⟩ := Prod.mk.inj (Except.ok.inj got)
    exact ⟨[], by simp⟩
  | succ count ih =>
    rw [getItems] at got
    split at got
    · contradiction
    · next item after found =>
      obtain ⟨later, rfl, rfl, back, reads⟩ := ih got
      refine ⟨item :: later, by simp, rfl, ?_, ?_⟩
      · rw [(lawful.window_eq found).1, back, List.flatMap_cons, List.append_assoc]
      · intro other member
        rcases List.mem_cons.mp member with rfl | member
        · exact (lawful.of_get _ _ _ found).2
        · exact reads other member

theorem length_le_length_flatMap_put {schema : Schema α}
    (nonempty : ∀ item, 0 < (schema.put item).length) (items : List α) :
    items.length ≤ (items.flatMap schema.put).length := by
  induction items with
  | nil => simp
  | cons item items ih =>
    have := nonempty item
    rw [List.flatMap_cons, List.length_append, List.length_cons]
    omega

theorem lawful_list {schema : Schema α} (lawful : schema.Lawful)
    (nonempty : ∀ item, 0 < (schema.put item).length) : schema.list.Lawful := by
  -- The count is compared with what is left, so an item must not be empty.
  have reads (items : List α) (fits : items.length < 2 ^ 32)
      (each : ∀ item ∈ items, Reads schema.get (schema.put item) item) :
      Reads schema.list.get (schema.list.put items) items := by
    apply (reads_count fits).bind
    intro window rest starts
    have enough := length_le_length_flatMap_put nonempty items
    have size := Window.size_of_append starts
    dsimp only
    rw [toNat_ofNat_of_lt fits, if_neg (by omega)]
    exact reads_getItems schema items [] each window rest starts
  constructor
  · intro items short
    simp only [list, List.length_append] at short
    have enough := length_le_length_flatMap_put nonempty items
    refine reads items (by omega) fun item member => lawful.reads_put item ?_
    have part := (List.sublist_flatten_of_mem (List.mem_map_of_mem (f := schema.put) member)).length_le
    rw [← List.flatMap_def] at part
    omega
  · intro window items rest got
    obtain ⟨⟨count, after⟩, number, got⟩ := bind_eq_ok.mp got
    obtain ⟨front, small⟩ := of_number (by decide) number
    dsimp only at got
    split at got
    · exact (throw_eq_ok.mp got).elim
    · obtain ⟨later, rfl, size, back, each⟩ := of_getItems lawful got
      refine ⟨⟨rest.contents, ?_⟩, reads _ (by simpa [size] using small) (by simpa using each)⟩
      simp [list, front, back, size]

theorem lawful_boundary : boundary.Lawful := Lawful.done

theorem lawful_nothing : nothing.Lawful where
  reads_put := nofun
  of_get _ := nofun

end Schema

namespace Fields

variable {α β : Type}

def Lawful (fields : Fields α) : Prop := Journal.Lawful fields.put fields.get

theorem lawful_done : done.Lawful := Lawful.done

theorem lawful_field {name : String} {schema : Schema α} {rest : Fields β}
    (first : schema.Lawful) (others : rest.Lawful) : (field name schema rest).Lawful :=
  first.pair others

theorem lawful_as {fields : Fields α} (lawful : fields.Lawful) {pack : α → β} {unpack : β → α}
    (pack_unpack : ∀ value, pack (unpack value) = value)
    (unpack_pack : ∀ value, unpack (pack value) = value) : (fields.as pack unpack).Lawful :=
  lawful.refine unpack (fun value => .ok (pack value))
    (fun value => by rw [pack_unpack])
    (fun item value packed => by rw [← Except.ok.inj packed, unpack_pack])

theorem lawful_schema {fields : Fields α} (lawful : fields.Lawful) : fields.schema.Lawful := lawful

end Fields

end Journal
