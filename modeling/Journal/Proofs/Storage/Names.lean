import Journal.Proofs.Storage.Directories
import Journal.Storage.Name

set_option autoImplicit false

namespace Journal.Storage

variable {storage after : Storage}

def SameDirectories (storage after : Storage) : Prop :=
  ∀ path, after.lookup? path = some .directory ↔ storage.lookup? path = some .directory

theorem Changes.sameDirectories {path : Path} (changes : Changes (· = path) storage after)
    (plain : storage.lookup? path ≠ some .directory)
    (still : after.lookup? path ≠ some .directory) : SameDirectories storage after := by
  intro other
  by_cases same : other = path
  · subst same
    exact iff_of_false still plain
  · rw [changes.entry other same]

theorem enter_eq_ok {place next : Path} {part : String} :
    storage.enter place part = .ok next ↔
      if part = FileName.up then next = place.parent
      else checkPart part = .ok () ∧ next = place ++ [part] ∧
        storage.lookup? next = some .directory := by
  rw [enter]
  by_cases up : part = FileName.up
  · simp [up, eq_comm]
  · simp only [if_neg up, bind_eq_ok]
    constructor
    · rintro ⟨⟨⟩, checked, entered⟩
      split at entered
      · next directory =>
        obtain rfl := pure_eq_ok.mp entered
        exact ⟨checked, rfl, directory⟩
      · contradiction
      · contradiction
    · rintro ⟨checked, rfl, directory⟩
      exact ⟨(), checked, by simp only [directory]; rfl⟩

theorem SameDirectories.enter_eq_ok (same : SameDirectories storage after) {place next : Path}
    {part : String} : after.enter place part = .ok next ↔ storage.enter place part = .ok next := by
  rw [Storage.enter_eq_ok, Storage.enter_eq_ok, same]

theorem SameDirectories.foldlM_enter_eq_ok (same : SameDirectories storage after)
    (parts : List String) {start place : Path} :
    parts.foldlM after.enter start = .ok place ↔ parts.foldlM storage.enter start = .ok place := by
  induction parts generalizing start with
  | nil => rfl
  | cons part parts ih => simp only [List.foldlM_cons, bind_eq_ok, same.enter_eq_ok, ih]

theorem SameDirectories.follow_eq_ok (same : SameDirectories storage after) {name : FileName}
    {place : Path} : after.follow name = .ok place ↔ storage.follow name = .ok place := by
  simp only [follow, bind_eq_ok, same.foldlM_enter_eq_ok]

theorem directory_of_enter (sound : storage.Sound) {place next : Path} {part : String}
    (there : storage.lookup? place = some .directory)
    (entered : storage.enter place part = .ok next) : storage.lookup? next = some .directory := by
  have stands := enter_eq_ok.mp entered
  split at stands
  · subst stands
    by_cases root : place = []
    · subst root
      rfl
    · exact sound.parents there root
  · exact stands.2.2

theorem directory_of_enters (sound : storage.Sound) {parts : List String} {start place : Path}
    (there : storage.lookup? start = some .directory)
    (entered : parts.foldlM storage.enter start = .ok place) :
    storage.lookup? place = some .directory := by
  induction parts generalizing start with
  | nil =>
    obtain rfl := pure_eq_ok.mp entered
    exact there
  | cons part parts ih =>
    rw [List.foldlM_cons] at entered
    obtain ⟨next, first, rest⟩ := bind_eq_ok.mp entered
    exact ih (directory_of_enter sound there first) rest

theorem directory_of_follow (sound : storage.Sound) {name : FileName} {place : Path}
    (followed : storage.follow name = .ok place) : storage.lookup? place = some .directory := by
  obtain ⟨⟨⟩, -, entered⟩ := bind_eq_ok.mp followed
  exact directory_of_enters sound rfl entered

theorem locate_eq_ok {name : FileName} {place : Path} :
    storage.locate name = .ok place ↔ ∃ part directory,
      name.last? = some part ∧ name.ending = .part ∧ checkName name = .ok () ∧
        storage.follow name.parent = .ok directory ∧ checkPart part = .ok () ∧
        place = directory ++ [part] := by
  rw [locate]
  split
  · next part last ending =>
    simp only [placeOf, bind_eq_ok, pure_eq_ok]
    constructor
    · rintro ⟨⟨⟩, checked, directory, followed, ⟨⟩, short, rfl⟩
      exact ⟨part, directory, last, ending, checked, followed, short, rfl⟩
    · rintro ⟨part', directory, last', -, checked, followed, short, rfl⟩
      obtain rfl : part = part' := Option.some.inj (last.symm.trans last')
      exact ⟨(), checked, directory, followed, (), short, rfl⟩
  · next elsewhere =>
    refine iff_of_false ?_ ?_
    · intro located
      obtain ⟨_, -, thrown⟩ := bind_eq_ok.mp located
      exact throw_eq_ok.mp thrown
    · rintro ⟨part, -, last, ending, -⟩
      exact elsewhere part last ending

theorem SameDirectories.locate_eq_ok (same : SameDirectories storage after) {name : FileName}
    {place : Path} : after.locate name = .ok place ↔ storage.locate name = .ok place := by
  simp only [Storage.locate_eq_ok, same.follow_eq_ok]

theorem directory_of_locate (sound : storage.Sound) {name : FileName} {place : Path}
    (located : storage.locate name = .ok place) :
    storage.lookup? place.parent = some .directory := by
  obtain ⟨part, directory, -, -, -, followed, -, rfl⟩ := locate_eq_ok.mp located
  rw [Path.parent, List.dropLast_concat]
  exact directory_of_follow sound followed

end Journal.Storage
