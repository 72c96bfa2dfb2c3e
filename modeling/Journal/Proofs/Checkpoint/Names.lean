import Journal.Checkpoint.Primary
import Journal.Proofs.Storage.Directories

set_option autoImplicit false

namespace Journal.Primary

theorem toList_padded (txid : UInt64) :
    (padded txid).toList = (Nat.toDigits 10 txid.toNat).leftpad 19 (Char.ofNat 0x30) := by
  rw [padded, String.toList_ofList]

theorem isDigit_of_mem_padded {txid : UInt64} {c : Char} (inside : c ∈ (padded txid).toList) :
    c.isDigit = true := by
  rw [toList_padded, List.leftpad, List.mem_append] at inside
  rcases inside with zero | digit
  · rw [List.eq_of_mem_replicate zero]
    decide
  · exact Nat.isDigit_of_mem_toDigits (by decide) (by decide) digit

theorem padded_ne_nil (txid : UInt64) : (padded txid).toList ≠ [] := by
  rw [toList_padded, List.leftpad]
  simp

theorem padded_injective {first second : UInt64} (same : padded first = padded second) :
    first = second := by
  have value (txid : UInt64) : Nat.ofDigitChars 10 (padded txid).toList 0 = txid.toNat := by
    rw [toList_padded, List.leftpad, Nat.ofDigitChars_append]
    have zeros := @Nat.ofDigitChars_replicate_zero 10 0 (19 - (Nat.toDigits 10 txid.toNat).length)
    rw [Nat.mul_zero] at zeros
    rw [show Char.ofNat 0x30 = '0' from rfl, zeros, Nat.ofDigitChars_ten_toDigits]
  apply UInt64.toNat_inj.mp
  rw [← value, ← value, same]

theorem append_cancel {front name other : String} (same : front ++ name = front ++ other) :
    name = other := by
  have lists := congrArg String.toList same
  rw [String.toList_append, String.toList_append] at lists
  exact String.toList_inj.mp (List.append_cancel_left lists)

theorem inProgressName_injective {first second : UInt64}
    (same : inProgressName first = inProgressName second) : first = second :=
  padded_injective (append_cancel same)

theorem finalizedName_eq (first last : UInt64) :
    finalizedName first last = "edits_" ++ (padded first ++ ("-" ++ padded last)) := by
  rw [finalizedName, String.append_assoc, String.append_assoc]

theorem finalizedName_injective {first second last last' : UInt64}
    (same : finalizedName first last = finalizedName second last') : first = second := by
  -- The first id ends at the only dash.
  rw [finalizedName_eq, finalizedName_eq] at same
  have front (txid : UInt64) (rest : String) :
      (padded txid ++ ("-" ++ rest)).toList.takeWhile Char.isDigit = (padded txid).toList := by
    have dash : ("-" ++ rest).toList = '-' :: rest.toList := String.toList_append
    rw [String.toList_append, dash,
      List.takeWhile_append_of_pos fun c inside => isDigit_of_mem_padded inside,
      List.takeWhile_cons_of_neg (by decide), List.append_nil]
  have parts := congrArg (fun name => name.toList.takeWhile Char.isDigit) (append_cancel same)
  simp only [front, String.toList_inj] at parts
  exact padded_injective parts

theorem finalizedName_ne_inProgressName (first last other : UInt64) :
    finalizedName first last ≠ inProgressName other := by
  intro same
  have split : inProgressName other = "edits_" ++ ("inprogress_" ++ padded other) := by
    rw [← String.append_assoc]
    rfl
  rw [finalizedName_eq, split] at same
  have lists := congrArg String.toList (append_cancel same)
  rw [String.toList_append] at lists
  -- A digit is no letter.
  cases digits : (padded first).toList with
  | nil => exact padded_ne_nil first digits
  | cons c rest =>
    have digit : c.isDigit = true := isDigit_of_mem_padded (digits ▸ List.mem_cons_self)
    have letter : ("inprogress_" ++ padded other).toList.head? = some 'i' := by
      rw [String.toList_append, List.head?_append_of_ne_nil _ (by decide)]
      decide
    rw [← lists, digits] at letter
    rw [Option.some.inj letter] at digit
    exact absurd digit (by decide)

theorem head?_append {front : String} {c : Char} (starts : front.toList.head? = some c)
    (name : String) : (front ++ name).toList.head? = some c := by
  rw [String.toList_append, List.head?_append, starts]
  rfl

theorem head_imageName (last : UInt64) : (imageName last).toList.head? = some 'i' :=
  head?_append (by decide) _

theorem head_inProgressName (first : UInt64) : (inProgressName first).toList.head? = some 'e' :=
  head?_append (by decide) _

theorem head_finalizedName (first last : UInt64) :
    (finalizedName first last).toList.head? = some 'e' := by
  rw [finalizedName_eq]
  exact head?_append (by decide) _

theorem head_temporaryName (number : Nat) :
    (Storage.temporaryName number).toList.head? = some '.' :=
  head?_append (by decide) _

theorem ne_of_head? {first second : String} {c d : Char} (starts : first.toList.head? = some c)
    (starts' : second.toList.head? = some d) (differs : c ≠ d) : first ≠ second := by
  intro same
  subst same
  rw [starts] at starts'
  exact differs (Option.some.inj starts')

def SegmentPath (directory : Path) (first : UInt64) (path : Path) : Prop :=
  path = directory ++ [inProgressName first] ∨ ∃ last, path = directory ++ [finalizedName first last]

theorem last_injective {directory : Path} {name other : String}
    (same : directory ++ [name] = directory ++ [other]) : name = other := by
  simpa using same

theorem SegmentPath.unique {directory : Path} {first second : UInt64} {path : Path}
    (here : SegmentPath directory first path) (again : SegmentPath directory second path) :
    first = second := by
  rcases here with rfl | ⟨last, rfl⟩ <;> rcases again with same | ⟨last', same⟩
  · exact inProgressName_injective (last_injective same)
  · exact absurd (last_injective same).symm (finalizedName_ne_inProgressName _ _ _)
  · exact absurd (last_injective same) (finalizedName_ne_inProgressName _ _ _)
  · exact finalizedName_injective (last_injective same)

theorem imagePath_ne_temporary (directory : Path) (last : UInt64) (number : Nat) :
    directory ++ [imageName last] ≠ directory ++ [Storage.temporaryName number] := fun same =>
  ne_of_head? (head_imageName last) (head_temporaryName number) (by decide) (last_injective same)

theorem SegmentPath.head {directory : Path} {first : UInt64} {name : String}
    (segment : SegmentPath directory first (directory ++ [name])) :
    name.toList.head? = some 'e' := by
  rcases segment with same | ⟨last, same⟩
  · rw [last_injective same]
    exact head_inProgressName first
  · rw [last_injective same]
    exact head_finalizedName first last

theorem SegmentPath.ne_image {directory : Path} {first : UInt64} {path : Path}
    (segment : SegmentPath directory first path) (last : UInt64) :
    path ≠ directory ++ [imageName last] := by
  intro same
  subst same
  exact ne_of_head? segment.head (head_imageName last) (by decide) rfl

theorem SegmentPath.ne_temporary {directory : Path} {first : UInt64} {path : Path}
    (segment : SegmentPath directory first path) (number : Nat) :
    path ≠ directory ++ [Storage.temporaryName number] := by
  intro same
  subst same
  exact ne_of_head? segment.head (head_temporaryName number) (by decide) rfl

/-- The names that images and segments can have. Every other name is foreign. -/
def Own (directory path : Path) : Prop :=
  (∃ last, path = directory ++ [imageName last]) ∨ ∃ first, SegmentPath directory first path

theorem Own.name {directory path : Path} (own : Own directory path) :
    ∃ name, path = directory ++ [name] := by
  rcases own with ⟨last, rfl⟩ | ⟨first, rfl | ⟨last, rfl⟩⟩ <;> exact ⟨_, rfl⟩

theorem Own.ne_temporary {directory path : Path} (own : Own directory path) (parent : Path)
    (number : Nat) : path ≠ parent ++ [Storage.temporaryName number] := by
  obtain ⟨name, named⟩ := own.name
  intro same
  obtain ⟨rfl, -⟩ := List.append_singleton_inj.mp (named.symm.trans same)
  rcases own with ⟨last, rfl⟩ | ⟨first, segment⟩
  · exact imagePath_ne_temporary _ _ _ same
  · exact segment.ne_temporary _ same

end Journal.Primary
