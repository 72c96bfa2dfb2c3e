set_option autoImplicit false

namespace Journal.Packed

def prepend (bytes : ByteArray) : (count : Nat) → (rest : List UInt8) → List UInt8
  | 0, rest => rest
  | count + 1, rest => prepend bytes count (bytes.get! count :: rest)

def before (bytes : ByteArray) (rest : List UInt8) : List UInt8 := prepend bytes bytes.size rest

theorem prepend_eq (bytes : ByteArray) (count : Nat) (h : count ≤ bytes.size)
    (rest : List UInt8) : prepend bytes count rest = bytes.data.toList.take count ++ rest := by
  induction count generalizing rest with
  | zero => simp [prepend]
  | succ count ih =>
    have inside : count < bytes.data.size := h
    rw [prepend, ih (by omega), List.take_succ_eq_append_getElem (by simpa using inside)]
    simp [ByteArray.get!, getElem!_pos bytes.data count inside]

theorem before_eq (bytes : ByteArray) (rest : List UInt8) :
    before bytes rest = bytes.data.toList ++ rest := by
  rw [before, prepend_eq _ _ (Nat.le_refl _)]
  exact congrArg (· ++ rest) (List.take_of_length_le (by simp))

def toList (bytes : ByteArray) : List UInt8 := before bytes []

theorem toList_eq (bytes : ByteArray) : toList bytes = bytes.data.toList := by
  rw [toList, before_eq, List.append_nil]

@[simp] theorem toList_toByteArray (bytes : List UInt8) : toList bytes.toByteArray = bytes := by
  simp [toList_eq]

@[simp] theorem toList_append (first second : ByteArray) :
    toList (first ++ second) = toList first ++ toList second := by
  simp [toList_eq]

@[simp] theorem length_toList (bytes : ByteArray) : (toList bytes).length = bytes.size := by
  simp [toList_eq]

theorem getElem_toList {bytes : ByteArray} {i : Nat} (within : i < (toList bytes).length)
    (inside : i < bytes.size) : (toList bytes)[i] = bytes[i] := by
  simp [toList_eq, ByteArray.getElem_eq_getElem_data]

@[simp] theorem toList_push (bytes : ByteArray) (byte : UInt8) :
    toList (bytes.push byte) = toList bytes ++ [byte] := by
  simp [toList_eq]

theorem toList_foldl_push (target : ByteArray) (bytes : List UInt8) :
    toList (bytes.foldl ByteArray.push target) = toList target ++ bytes := by
  induction bytes generalizing target with
  | nil => simp
  | cons byte rest ih => simp [ih]

def findFrom? (p : UInt8 → Bool) (bytes : ByteArray) (first : Nat) : Option UInt8 :=
  if inside : first < bytes.size then
    if p bytes[first] then some bytes[first] else findFrom? p bytes (first + 1)
  else none
termination_by bytes.size - first

theorem findFrom?_eq (p : UInt8 → Bool) (bytes : ByteArray) (first : Nat) :
    findFrom? p bytes first = ((toList bytes).drop first).find? p := by
  fun_induction findFrom? p bytes first with
  | case1 first inside found =>
    rw [List.drop_eq_getElem_cons (by simpa using inside), getElem_toList _ inside,
      List.find?_cons_of_pos found]
  | case2 first inside missed ih =>
    rw [List.drop_eq_getElem_cons (by simpa using inside), getElem_toList _ inside,
      List.find?_cons_of_neg missed, ih]
  | case3 first outside => rw [List.drop_eq_nil_of_le (by simpa using outside), List.find?_nil]

@[specialize] def foldFrom {β : Type} (f : β → UInt8 → β) (bytes : ByteArray) (first : Nat)
    (state : β) : β :=
  if inside : first < bytes.size then foldFrom f bytes (first + 1) (f state bytes[first]) else state
termination_by bytes.size - first

theorem foldFrom_eq {β : Type} (f : β → UInt8 → β) (bytes : ByteArray) (first : Nat) (state : β) :
    foldFrom f bytes first state = ((toList bytes).drop first).foldl f state := by
  fun_induction foldFrom f bytes first state with
  | case1 first state inside ih =>
    rw [List.drop_eq_getElem_cons (by simpa using inside), getElem_toList _ inside,
      List.foldl_cons, ih]
  | case2 first state outside => rw [List.drop_eq_nil_of_le (by simpa using outside), List.foldl_nil]

theorem toList_extract (bytes : ByteArray) (first count : Nat) :
    toList (bytes.extract first (first + count)) = ((toList bytes).drop first).take count := by
  simp [toList_eq]

@[simp] theorem toList_empty : toList ByteArray.empty = [] := rfl

end Journal.Packed
