import Journal.Proofs.Storage.Frame

set_option autoImplicit false

namespace Journal

namespace Storage

variable {storage after : Storage}

theorem changes_unbind (sound : storage.Sound) {path : Path} (named : path ≠ [])
    (plain : storage.lookup? path ≠ some .directory) :
    Changes (· = path) storage (storage.unbind path) ∧ (storage.unbind path).lookup? path = none := by
  have below (other : Path) (rooted : other ≠ []) (there : storage.lookup? other ≠ none)
      (inside : other.parent = path) : other = path := by
    cases found : storage.lookup? other with
    | none => exact absurd found there
    | some entry =>
      rw [← inside] at plain
      exact absurd (sound.parents found rooted) plain
  obtain ⟨changes, gone⟩ := changes_of_removed sound (storage.lookup?_unbind named) rfl below
  exact ⟨changes, gone path rfl⟩

theorem changes_unbind_file (sound : storage.Sound) {path : Path} {id : Nat}
    (found : storage.lookup? path = some (.file id)) :
    Changes (· = path) storage (storage.unbind path) ∧ (storage.unbind path).lookup? path = none :=
  changes_unbind sound (ne_nil_of_file found) (by rw [found]; exact nofun)

theorem changes_unbind_absent (sound : storage.Sound) {path : Path} (named : path ≠ [])
    (absent : storage.lookup? path = none) :
    Changes (fun _ => False) storage (storage.unbind path) := by
  obtain ⟨changes, gone⟩ := changes_unbind sound named (by rw [absent]; exact nofun)
  apply changes.restrict
  rintro _ rfl -
  exact ⟨absent, gone⟩

theorem checkParent_eq_ok {path : Path} :
    storage.checkParent path = .ok () ↔ storage.lookup? path.parent = some .directory := by
  rw [checkParent]
  split <;> simp [*]

theorem contentsOf_append (more : List Buffer) {id : Nat} (known : id < storage.contents.length)
    {entries : List (Path × Entry)} :
    contentsOf ⟨entries, storage.contents ++ more⟩ id = storage.contentsOf id := by
  rw [contentsOf, contentsOf, bufferOf, bufferOf, List.getElem?_append_left known]

theorem changes_create (sound : storage.Sound) {path : Path} {id : Nat}
    (created : storage.create path = .ok (after, id)) :
    Changes (· = path) storage after ∧ after.lookup? path = some (.file id) ∧
      after.contentsOf id = [] := by
  rw [create] at created
  split at created
  · contradiction
  · next id' found =>
    cases created
    refine ⟨changes_setBuffer sound found .empty, found, ?_⟩
    rw [contentsOf_setBuffer (sound.allocated found), if_pos rfl]
    rfl
  · next absent =>
    obtain ⟨⟨⟩, checked, made⟩ := bind_eq_ok.mp created
    have parent := checkParent_eq_ok.mp checked
    cases pure_eq_ok.mp made
    have named : path ≠ [] := by
      intro same
      subst same
      cases absent
    let grown : Storage := { storage with contents := storage.contents ++ [Buffer.empty] }
    have grownSound : grown.Sound := by
      refine ⟨sound.parents, fun found => ?_, sound.unshared⟩
      have := sound.allocated found
      simp only [grown, List.length_append, List.length_singleton]
      omega
    have lookup := fun other => grown.lookup?_bind named
      (.file storage.contents.length) other
    refine ⟨⟨grownSound.bind named parent ?_ ?_ ?_, ?_, ?_⟩, ?_, ?_⟩
    · intro found
      exact absurd (absent.symm.trans found) nofun
    · intro id same
      cases same
      simp [grown]
    · intro id other same found
      cases same
      exact absurd (sound.allocated found) (Nat.lt_irrefl _)
    · intro other free
      rw [lookup, if_neg free]
      rfl
    · intro other id _ found
      exact contentsOf_append _ (sound.allocated found)
    · rw [lookup, if_pos rfl]
    · simp [contentsOf, bufferOf, bind]

theorem changes_write (sound : storage.Sound) {path : Path} {bytes : List UInt8}
    (written : storage.write path bytes = .ok after) :
    Changes (· = path) storage after ∧ after.read path = .ok bytes := by
  obtain ⟨⟨middle, id⟩, created, filled⟩ := bind_eq_ok.mp written
  cases pure_eq_ok.mp filled
  obtain ⟨changes, found, -⟩ := changes_create sound created
  refine ⟨changes.trans (changes_setBuffer changes.sound found _), ?_⟩
  refine read_eq_ok.mpr ⟨id, found, ?_⟩
  rw [setContents, contentsOf_setBuffer (changes.sound.allocated found), if_pos rfl,
    Buffer.bytes_ofList]

theorem removeFile_of_file {path : Path} {id : Nat}
    (found : storage.lookup? path = some (.file id)) :
    storage.removeFile path = .ok (storage.unbind path) := by
  rw [removeFile, fileAt, found]
  rfl

theorem rename_eq_ok {source target : Path} {id : Nat}
    (found : storage.lookup? source = some (.file id)) :
    storage.rename source target = .ok after ↔
      storage.lookup? target ≠ some .directory ∧
        storage.lookup? target.parent = some .directory ∧
        after = (storage.unbind source).bind target (.file id) := by
  simp only [rename, found, renameFile]
  by_cases directory : storage.lookup? target = some .directory
  · simp [directory, throw_eq_ok, bind_eq_ok]
  · simp only [directory, ne_eq, not_false_eq_true, true_and]
    change (storage.checkParent target >>= fun _ => .ok _) = .ok after ↔ _
    rw [bind_eq_ok, ← checkParent_eq_ok]
    constructor
    · rintro ⟨⟨⟩, checked, rest⟩
      exact ⟨checked, (Except.ok.inj rest).symm⟩
    · rintro ⟨checked, rfl⟩
      exact ⟨(), checked, rfl⟩

theorem rename_onto_directory {source target : Path} {id : Nat}
    (found : storage.lookup? source = some (.file id))
    (directory : storage.lookup? target = some .directory) :
    storage.rename source target = .error (.isDirectory target) := by
  simp only [rename, found, renameFile, if_pos directory]
  rfl

theorem rename_eq_error_of_same {source target : Path} {id id' : Nat}
    (found : storage.lookup? source = some (.file id))
    (found' : after.lookup? source = some (.file id'))
    (same : after.lookup? target = storage.lookup? target)
    (parent : after.lookup? target.parent = storage.lookup? target.parent) {fault : StorageFault}
    (blocked : storage.rename source target = .error fault) :
    after.rename source target = .error fault := by
  simp only [rename, found, found', renameFile, checkParent, same, parent] at blocked ⊢
  by_cases directory : storage.lookup? target = some .directory
  · rw [if_pos directory] at blocked ⊢
    exact blocked
  · rw [if_neg directory] at blocked ⊢
    cases above : storage.lookup? target.parent with
    | none => rwa [above] at blocked
    | some entry =>
      rw [above] at blocked
      cases entry with
      | file => exact blocked
      | directory => contradiction

theorem changes_rename (sound : storage.Sound) {source target : Path} {id : Nat}
    (found : storage.lookup? source = some (.file id))
    (renamed : storage.rename source target = .ok after) :
    Changes (fun path => path = source ∨ path = target) storage after ∧
      after.lookup? target = some (.file id) ∧ after.contentsOf id = storage.contentsOf id ∧
      (source ≠ target → after.lookup? source = none) := by
  obtain ⟨free, parent, rfl⟩ := (rename_eq_ok found).mp renamed
  obtain ⟨removed, gone⟩ := changes_unbind_file sound found
  have named : target ≠ [] := by
    intro same
    subst same
    exact free rfl
  have apart : target.parent ≠ source := by
    intro same
    rw [same, found] at parent
    cases parent
  have lookup := fun other =>
    (storage.unbind source).lookup?_bind named (.file id) other
  have rest := fun other => storage.lookup?_unbind (ne_nil_of_file found) other
  refine ⟨⟨removed.sound.bind named ?_ ?_ ?_ ?_, ?_, fun _ _ _ _ => rfl⟩, ?_, rfl, ?_⟩
  · rw [rest, if_neg apart, parent]
  · intro directory
    rw [rest] at directory
    split at directory
    · contradiction
    · exact absurd directory free
  · intro id' same
    cases same
    exact sound.allocated found
  · intro id' other same found'
    cases same
    rw [rest] at found'
    split at found'
    · contradiction
    · next differs => exact absurd (sound.unshared found' found) differs
  · intro path elsewhere
    rw [not_or] at elsewhere
    rw [lookup, if_neg elsewhere.2, rest, if_neg elsewhere.1]
  · rw [lookup, if_pos rfl]
  · intro different
    rw [lookup, if_neg different, gone]

end Storage

end Journal
