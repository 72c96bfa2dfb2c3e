import Mathlib.Data.List.Induction
import Mathlib.Data.List.Nodup
import Mathlib.Data.List.Perm.Subperm
import Journal.Proofs.Storage.Files

set_option autoImplicit false

namespace Journal

namespace Storage

variable {storage after : Storage}

/-- From one sound storage to another that has the same files, and more directories, all of them on the
way to `path`. -/
structure Grows (path : Path) (before after : Storage) : Prop where
  sound : after.Sound
  contents : ∀ other id, before.lookup? other = some (.file id) →
    after.contentsOf id = before.contentsOf id
  entry : ∀ other, after.lookup? other = before.lookup? other ∨
    other <+: path ∧ before.lookup? other = none ∧ after.lookup? other = some .directory

variable {path : Path}

theorem Grows.isFile (grows : Grows path storage after) {other : Path} {id : Nat} :
    after.lookup? other = some (.file id) ↔ storage.lookup? other = some (.file id) := by
  rcases grows.entry other with same | ⟨-, absent, made⟩
  · rw [same]
  · rw [absent, made]
    simp

theorem Grows.retains (grows : Grows path storage after) {lost : Path → Prop} :
    Retains lost storage after :=
  ⟨grows.sound, fun _ _ _ found => grows.isFile.mpr found,
    fun other id _ => grows.contents other id⟩

theorem Grows.read_eq_ok (grows : Grows path storage after) {other : Path} {bytes : List UInt8} :
    after.read other = .ok bytes ↔ storage.read other = .ok bytes := by
  constructor
  · intro known
    obtain ⟨id, found, held⟩ := Storage.read_eq_ok.mp known
    have before := grows.isFile.mp found
    exact Storage.read_eq_ok.mpr ⟨id, before, by rw [← grows.contents other id before, held]⟩
  · have retains : Retains (fun _ => False) storage after := grows.retains
    exact retains.read_eq_ok not_false

theorem Grows.changes {later : Storage} (grows : Grows path storage after)
    (changes : Changes (fun _ => False) after later) : Grows path storage later := by
  refine ⟨changes.sound, fun other id found => ?_, fun other => ?_⟩
  · rw [changes.contents other id not_false (grows.isFile.mpr found), grows.contents other id found]
  · rw [changes.entry other not_false]
    exact grows.entry other

theorem grows_makeDirectoriesBelow (sound : storage.Sound) {made : Path} {rest : List String}
    (there : storage.lookup? made = some .directory)
    (grown : storage.makeDirectoriesBelow made rest = .ok after) :
    Grows (made ++ rest) storage after ∧ after.lookup? (made ++ rest) = some .directory := by
  induction rest generalizing storage made with
  | nil =>
    cases grown
    rw [List.append_nil]
    exact ⟨⟨sound, fun _ _ _ => rfl, fun _ => .inl rfl⟩, there⟩
  | cons part rest ih =>
    rw [makeDirectoriesBelow] at grown
    rw [List.append_cons]
    split at grown
    · next present => exact ih sound present grown
    · contradiction
    · next absent =>
      have named : made ++ [part] ≠ [] := by simp
      have lookup := fun other => storage.lookup?_bind named .directory other
      have bound : (storage.bind (made ++ [part]) .directory).Sound := by
        refine sound.bind named ?_ (fun _ => rfl) nofun nofun
        rw [Path.parent, List.dropLast_concat, there]
      have here : (storage.bind (made ++ [part]) .directory).lookup? (made ++ [part]) =
          some .directory := by rw [lookup, if_pos rfl]
      obtain ⟨grows, last⟩ := ih bound here grown
      refine ⟨⟨grows.sound, fun other id found => ?_, fun other => ?_⟩, last⟩
      · have differs : other ≠ made ++ [part] := by
          intro same
          subst same
          rw [absent] at found
          contradiction
        exact grows.contents other id (by rw [lookup, if_neg differs, found])
      · by_cases same : other = made ++ [part]
        · subst same
          rcases grows.entry (made ++ [part]) with kept | ⟨-, -, kept⟩
          · exact .inr ⟨List.prefix_append .., absent, by rw [kept, here]⟩
          · exact .inr ⟨List.prefix_append .., absent, kept⟩
        · have kept := grows.entry other
          rwa [lookup, if_neg same] at kept

theorem grows_makeDirectories (sound : storage.Sound)
    (grown : storage.makeDirectories path = .ok after) :
    Grows path storage after ∧ after.lookup? path = some .directory :=
  grows_makeDirectoriesBelow sound rfl grown

theorem changes_removeDirectory (sound : storage.Sound) (named : path ≠ [])
    (directory : storage.lookup? path = some .directory) :
    ∃ after, storage.removeDirectory path = .ok after ∧ Changes (path <+: ·) storage after ∧
      ∀ other, path <+: other → after.lookup? other = none := by
  have entry (other : Path) : ((storage.clear path).unbind path).lookup? other =
      if path <+: other then none else storage.lookup? other := by
    rw [lookup?_unbind _ named]
    by_cases root : other = []
    · subst root
      have apart : ([] : Path) ≠ path := fun same => named same.symm
      rw [if_neg apart, if_neg fun below => named (List.prefix_nil.mp below)]
      rfl
    · rw [lookup?_clear _ _ root]
      by_cases same : other = path
      · subst same
        simp
      · by_cases below : path <+: other <;> simp [same, below]
  obtain ⟨changes, gone⟩ := changes_of_removed sound entry rfl fun other _ _ above =>
    above.trans (List.dropLast_prefix other)
  exact ⟨_, by rw [removeDirectory, directory], changes, gone⟩

theorem Sound.directory_of_prefix (sound : storage.Sound) {other : Path} {entry : Entry}
    (found : storage.lookup? other = some entry) (below : path <+: other) (inside : path ≠ other) :
    storage.lookup? path = some .directory := by
  obtain ⟨rest, rfl⟩ := below
  induction rest using List.reverseRecOn generalizing entry with
  | nil => exact absurd (List.append_nil path).symm inside
  | append_singleton rest part ih =>
    have directory := sound.parents found (by simp)
    rw [Path.parent, ← List.append_assoc, List.dropLast_concat] at directory
    cases rest with
    | nil => rwa [List.append_nil] at directory
    | cons first rest => exact ih directory (by simp)

theorem Sound.absent_below (sound : storage.Sound) (absent : storage.lookup? path = none)
    {other : Path} (below : path <+: other) : storage.lookup? other = none := by
  by_cases same : path = other
  · rw [← same, absent]
  · cases found : storage.lookup? other with
    | none => rfl
    | some entry =>
      rw [sound.directory_of_prefix found below same] at absent
      contradiction

theorem changes_makeDirectory (sound : storage.Sound) {directory : Path} {name : String}
    (parent : storage.lookup? directory = some .directory)
    (grown : storage.makeDirectories (directory ++ [name]) = .ok after) :
    Changes (directory ++ [name] <+: ·) storage after ∧
      after.lookup? (directory ++ [name]) = some .directory := by
  obtain ⟨grows, made⟩ := grows_makeDirectories sound grown
  refine ⟨⟨grows.sound, fun other outside => ?_, fun other id _ => grows.contents other id⟩, made⟩
  rcases grows.entry other with same | ⟨above, absent, -⟩
  · exact same
  · rcases List.prefix_concat_iff.mp above with rfl | above
    · exact absurd (List.prefix_refl _) outside
    · rw [sound.absent_below absent above] at parent
      contradiction

theorem mem_namesIn {directory : Path} {name : String} {entry : Entry}
    (found : storage.lookup? (directory ++ [name]) = some entry) :
    name ∈ storage.namesIn directory := by
  rw [lookup?_of_ne (by simp), List.lookup_eq_some_iff] at found
  obtain ⟨before, later, listed, -⟩ := found
  rw [namesIn, List.mem_map]
  refine ⟨(directory ++ [name], entry), List.mem_filter.mpr ⟨?_, ?_⟩, ?_⟩
  · rw [listed]
    exact List.mem_append_right _ List.mem_cons_self
  · simp [Path.parent]
  · simp [Path.name]

def temporaryName (number : Nat) : String := temporaryMark ++ toString number

theorem temporaryName_injective {first second : Nat}
    (same : temporaryName first = temporaryName second) : first = second := by
  have digits : Nat.toDigits 10 first = Nat.toDigits 10 second := by
    have lists := congrArg String.toList same
    simpa [temporaryName] using lists
  have value := @Nat.ofDigitChars_ten_toDigits first
  rwa [digits, Nat.ofDigitChars_ten_toDigits, eq_comm] at value

theorem freshNumber_spec (taken : List String) (candidate fuel : Nat) :
    temporaryName (freshNumber taken candidate fuel) ∉ taken ∨
      freshNumber taken candidate fuel = candidate + fuel ∧
        ∀ number, candidate ≤ number → number < candidate + fuel → temporaryName number ∈ taken := by
  -- The search stops at a free number, or passes over `fuel` taken ones.
  induction fuel generalizing candidate with
  | zero => exact .inr ⟨rfl, fun number low high => absurd high (Nat.not_lt.mpr low)⟩
  | succ fuel ih =>
    by_cases used : temporaryName candidate ∈ taken
    · have next : freshNumber taken candidate (fuel + 1) = freshNumber taken (candidate + 1) fuel :=
        if_pos (List.contains_iff_mem.mpr used)
      rw [next]
      rcases ih (candidate + 1) with free | ⟨reached, passed⟩
      · exact .inl free
      · refine .inr ⟨by omega, fun number low high => ?_⟩
        by_cases first : number = candidate
        · rwa [first]
        · exact passed number (by omega) (by omega)
    · have found : freshNumber taken candidate (fuel + 1) = candidate :=
        if_neg fun inside => used (List.contains_iff_mem.mp inside)
      rw [found]
      exact .inl used

theorem freshNumber_free (taken : List String) :
    temporaryName (freshNumber taken 0 taken.length) ∉ taken := by
  -- A list of names cannot hold one more of them than it is long.
  rcases freshNumber_spec taken 0 taken.length with free | ⟨reached, passed⟩
  · exact free
  · intro used
    have all : (List.range (taken.length + 1)).map temporaryName ⊆ taken := by
      intro name inside
      obtain ⟨number, low, rfl⟩ := List.mem_map.mp inside
      have below := List.mem_range.mp low
      by_cases last : number = taken.length
      · rwa [last, ← Nat.zero_add taken.length, ← reached]
      · exact passed number (Nat.zero_le _) (by omega)
    have distinct : ((List.range (taken.length + 1)).map temporaryName).Nodup :=
      List.nodup_range.map fun _ _ => temporaryName_injective
    have fits := (distinct.subperm all).length_le
    rw [List.length_map, List.length_range] at fits
    omega

theorem temporaryPath_eq (storage : Storage) (directory : Path) :
    ∃ number, storage.temporaryPath directory = directory ++ [temporaryName number] ∧
      storage.lookup? (directory ++ [temporaryName number]) = none := by
  refine ⟨_, rfl, ?_⟩
  cases found : storage.lookup? (directory ++
      [temporaryName (freshNumber (storage.namesIn directory) 0 (storage.namesIn directory).length)])
    with
  | none => rfl
  | some entry => exact absurd (mem_namesIn found) (freshNumber_free _)

end Storage

end Journal
