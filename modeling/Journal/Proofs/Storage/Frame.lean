import Journal.Proofs.Outcome
import Journal.Storage

set_option autoImplicit false

namespace Journal

theorem lookup_filter_key {α β : Type} [BEq α] [LawfulBEq α] (keeps : α → Bool)
    (entries : List (α × β)) (key : α) :
    (entries.filter fun entry => keeps entry.1).lookup key =
      if keeps key then entries.lookup key else none := by
  induction entries with
  | nil => simp
  | cons entry entries ih =>
    obtain ⟨name, value⟩ := entry
    by_cases same : key = name
    · subst same
      by_cases kept : keeps key = true <;> simp [kept, ih]
    · have differs : (key == name) = false := by simpa using same
      by_cases kept : keeps name = true <;> simp [kept, ih, List.lookup_cons, differs]

namespace Storage

variable {storage : Storage}

theorem ne_nil_of_file {path : Path} {id : Nat} (found : storage.lookup? path = some (.file id)) :
    path ≠ [] := by
  intro same
  subst same
  cases found

theorem lookup?_of_ne {path : Path} (named : path ≠ []) :
    storage.lookup? path = storage.entries.lookup path := by
  rw [lookup?, if_neg named]

theorem lookup?_filter (storage : Storage) (keeps : Path → Bool) (contents : List Buffer) {path : Path}
    (named : path ≠ []) :
    lookup? ⟨storage.entries.filter fun entry => keeps entry.1, contents⟩ path =
      if keeps path then storage.lookup? path else none := by
  rw [lookup?_of_ne named, lookup?_of_ne named, lookup_filter_key]

theorem lookup?_unbind (storage : Storage) {path : Path} (named : path ≠ []) (other : Path) :
    (storage.unbind path).lookup? other = if other = path then none else storage.lookup? other := by
  by_cases root : other = []
  · subst root
    rw [if_neg fun same => named same.symm]
    rfl
  · have filtered := storage.lookup?_filter (fun name => decide (name ≠ path)) storage.contents root
    rw [unbind, filtered]
    by_cases same : other = path <;> simp [same]

theorem lookup?_bind (storage : Storage) {path : Path} (named : path ≠ []) (entry : Entry)
    (other : Path) :
    (storage.bind path entry).lookup? other =
      if other = path then some entry else storage.lookup? other := by
  by_cases root : other = []
  · subst root
    rw [if_neg fun same => named same.symm]
    rfl
  · have rest := storage.lookup?_unbind named other
    rw [lookup?_of_ne root] at rest ⊢
    by_cases same : other = path
    · subst same
      simp [bind]
    · have differs : (other == path) = false := by simpa using same
      rw [if_neg same] at rest ⊢
      rw [← rest, bind, unbind, List.lookup_cons, differs]

theorem lookup?_clear (storage : Storage) (path : Path) {other : Path} (named : other ≠ []) :
    (storage.clear path).lookup? other =
      if path <+: other ∧ other ≠ path then none else storage.lookup? other := by
  rw [clear, lookup?_filter storage (fun name => !path.isPrefixOf name || name == path) _ named]
  by_cases below : path <+: other
  · have starts : path.isPrefixOf other = true := List.isPrefixOf_iff_prefix.mpr below
    by_cases same : other = path <;> simp [below, starts, same]
  · have starts : path.isPrefixOf other = false := by
      rw [← Bool.not_eq_true, List.isPrefixOf_iff_prefix]
      exact below
    simp [below, starts]

@[simp] theorem lookup?_setBuffer (id : Nat) (buffer : Buffer) (path : Path) :
    (storage.setBuffer id buffer).lookup? path = storage.lookup? path := rfl

@[simp] theorem length_setBuffer (id : Nat) (buffer : Buffer) :
    (storage.setBuffer id buffer).contents.length = storage.contents.length := by
  simp [setBuffer]

theorem contentsOf_setBuffer {id : Nat} (known : id < storage.contents.length) (buffer : Buffer)
    (other : Nat) : (storage.setBuffer id buffer).contentsOf other =
      if other = id then buffer.bytes else storage.contentsOf other := by
  simp only [contentsOf, bufferOf, setBuffer, List.getElem?_set]
  by_cases same : other = id
  · subst same
    simp [known]
  · simp [same, Ne.symm same]

/-- What a tree of directories and files has to be: what is in something is in a directory, and no two
names are names of one file. -/
structure Sound (storage : Storage) : Prop where
  parents : ∀ {path : Path} {entry : Entry}, storage.lookup? path = some entry → path ≠ [] →
    storage.lookup? path.parent = some .directory
  allocated : ∀ {path : Path} {id : Nat}, storage.lookup? path = some (.file id) →
    id < storage.contents.length
  unshared : ∀ {path other : Path} {id : Nat}, storage.lookup? path = some (.file id) →
    storage.lookup? other = some (.file id) → path = other

theorem sound_empty : Sound empty := by
  have root {path : Path} {entry : Entry} (found : empty.lookup? path = some entry) :
      path = [] ∧ entry = .directory := by
    rw [lookup?] at found
    split at found
    · next named => exact ⟨named, (Option.some.inj found).symm⟩
    · contradiction
  refine ⟨fun found named => absurd (root found).1 named, fun found => ?_, fun found => ?_⟩
  · exact absurd (root found).2 nofun
  · exact absurd (root found).2 nofun

theorem read_eq_ok {path : Path} {bytes : List UInt8} :
    storage.read path = .ok bytes ↔
      ∃ id, storage.lookup? path = some (.file id) ∧ storage.contentsOf id = bytes := by
  rw [read, fileAt]
  split
  · next id found => simp [Except.map, found]
  · next found => simp [Except.map, found]
  · next found => simp [Except.map, found]

/-- From one sound storage to another, with no change but to the names in `touched`. -/
structure Changes (touched : Path → Prop) (before after : Storage) : Prop where
  sound : after.Sound
  entry : ∀ path, ¬ touched path → after.lookup? path = before.lookup? path
  contents : ∀ path id, ¬ touched path → before.lookup? path = some (.file id) →
    after.contentsOf id = before.contentsOf id

variable {touched : Path → Prop} {after : Storage}

theorem Changes.refl (sound : storage.Sound) : Changes touched storage storage :=
  ⟨sound, fun _ _ => rfl, fun _ _ _ _ => rfl⟩

theorem Changes.trans {middle : Storage} (first : Changes touched storage middle)
    (second : Changes touched middle after) : Changes touched storage after := by
  refine ⟨second.sound, fun path free => ?_, fun path id free found => ?_⟩
  · rw [second.entry path free, first.entry path free]
  · have kept : middle.lookup? path = some (.file id) := by rw [first.entry path free, found]
    rw [second.contents path id free kept, first.contents path id free found]

theorem Changes.mono {more : Path → Prop} (changes : Changes touched storage after)
    (within : ∀ path, touched path → more path) : Changes more storage after :=
  ⟨changes.sound, fun path free => changes.entry path fun inside => free (within path inside),
    fun path id free => changes.contents path id fun inside => free (within path inside)⟩

theorem Changes.read_eq_ok (changes : Changes touched storage after) {path : Path}
    (free : ¬ touched path) {bytes : List UInt8} (known : storage.read path = .ok bytes) :
    after.read path = .ok bytes := by
  obtain ⟨id, found, stored⟩ := Storage.read_eq_ok.mp known
  refine Storage.read_eq_ok.mpr ⟨id, ?_, ?_⟩
  · rw [changes.entry path free, found]
  · rw [changes.contents path id free found, stored]

theorem Changes.isFile (changes : Changes touched storage after) {path : Path}
    (free : ¬ touched path) {id : Nat} (found : storage.lookup? path = some (.file id)) :
    after.lookup? path = some (.file id) := by
  rw [changes.entry path free, found]

theorem Sound.of_entries (sound : storage.Sound) (entries : after.entries = storage.entries)
    (length : after.contents.length = storage.contents.length) : after.Sound := by
  have entry (path : Path) : after.lookup? path = storage.lookup? path := by
    rw [lookup?, lookup?, entries]
  refine ⟨?_, ?_, ?_⟩
  · intro path found
    rw [entry, entry]
    exact sound.parents
  · intro path id found
    rw [entry] at found
    rw [length]
    exact sound.allocated found
  · intro path other id found found'
    rw [entry] at found found'
    exact sound.unshared found found'

theorem Changes.restrict {less : Path → Prop} (changes : Changes touched storage after)
    (restored : ∀ path, touched path → ¬ less path →
      storage.lookup? path = none ∧ after.lookup? path = none) : Changes less storage after := by
  -- What is not there before and after has not changed.
  refine ⟨changes.sound, fun path free => ?_, fun path id free found => ?_⟩
  · by_cases inside : touched path
    · obtain ⟨absent, gone⟩ := restored path inside free
      rw [absent, gone]
    · exact changes.entry path inside
  · refine changes.contents path id (fun inside => ?_) found
    rw [(restored path inside free).1] at found
    contradiction

structure Retains (lost : Path → Prop) (before after : Storage) : Prop where
  sound : after.Sound
  file : ∀ path id, ¬ lost path → before.lookup? path = some (.file id) →
    after.lookup? path = some (.file id)
  contents : ∀ path id, ¬ lost path → before.lookup? path = some (.file id) →
    after.contentsOf id = before.contentsOf id

variable {lost : Path → Prop}

theorem Retains.trans {middle : Storage} (first : Retains lost storage middle)
    (second : Retains lost middle after) : Retains lost storage after := by
  refine ⟨second.sound, fun path id free found => ?_, fun path id free found => ?_⟩
  · exact second.file path id free (first.file path id free found)
  · rw [second.contents path id free (first.file path id free found),
      first.contents path id free found]

theorem Retains.mono {more : Path → Prop} (retains : Retains lost storage after)
    (within : ∀ path, lost path → more path) : Retains more storage after :=
  ⟨retains.sound, fun path id free => retains.file path id fun inside => free (within path inside),
    fun path id free => retains.contents path id fun inside => free (within path inside)⟩

theorem Changes.retains (changes : Changes touched storage after)
    (fresh : ∀ path id, touched path → ¬ lost path → storage.lookup? path ≠ some (.file id)) :
    Retains lost storage after :=
  ⟨changes.sound,
    fun path id free found => changes.isFile (fun inside => fresh path id inside free found) found,
    fun path id free found => changes.contents path id (fun inside => fresh path id inside free found)
      found⟩

theorem Retains.read_eq_ok (retains : Retains lost storage after) {path : Path}
    (free : ¬ lost path) {bytes : List UInt8} (known : storage.read path = .ok bytes) :
    after.read path = .ok bytes := by
  obtain ⟨id, found, held⟩ := Storage.read_eq_ok.mp known
  exact Storage.read_eq_ok.mpr
    ⟨id, retains.file path id free found, by rw [retains.contents path id free found, held]⟩

theorem Retains.read_eq (retains : Retains lost storage after) {path : Path} (free : ¬ lost path)
    (file : ∃ id, storage.lookup? path = some (.file id)) : after.read path = storage.read path := by
  obtain ⟨id, found⟩ := file
  have known := Storage.read_eq_ok.mpr ⟨id, found, rfl⟩
  rw [known, retains.read_eq_ok free known]

theorem changes_of_file (sound : storage.Sound) {path : Path} {id : Nat}
    (found : storage.lookup? path = some (.file id)) (entries : after.entries = storage.entries)
    (length : after.contents.length = storage.contents.length)
    (others : ∀ other, other ≠ id → after.contentsOf other = storage.contentsOf other) :
    Changes (· = path) storage after := by
  refine ⟨sound.of_entries entries length, fun other _ => ?_, fun other id' free found' => ?_⟩
  · rw [lookup?, lookup?, entries]
  · apply others
    intro same
    subst same
    exact free (sound.unshared found' found)

theorem changes_setBuffer (sound : storage.Sound) {path : Path} {id : Nat}
    (found : storage.lookup? path = some (.file id)) (buffer : Buffer) :
    Changes (· = path) storage (storage.setBuffer id buffer) := by
  refine changes_of_file sound found rfl (length_setBuffer id buffer) fun other differs => ?_
  rw [contentsOf_setBuffer (sound.allocated found), if_neg differs]

theorem Sound.bind (sound : storage.Sound) {path : Path} {entry : Entry} (named : path ≠ [])
    (parent : storage.lookup? path.parent = some .directory)
    (unchanged : storage.lookup? path = some .directory → entry = .directory)
    (allocated : ∀ id, entry = .file id → id < storage.contents.length)
    (unshared : ∀ id other, entry = .file id → storage.lookup? other = some (.file id) →
      other = path) : (storage.bind path entry).Sound := by
  have lookup := fun other => storage.lookup?_bind named entry other
  have apart : path.parent ≠ path := by
    intro same
    have := congrArg List.length same
    have := List.length_pos_iff.mpr named
    simp only [Path.parent, List.length_dropLast] at *
    omega
  refine ⟨?_, ?_, ?_⟩
  · intro other found within rooted
    rw [lookup] at within ⊢
    by_cases here : other.parent = path
    · -- What is in `path` had a directory there, which is not replaced by a file.
      rw [if_pos here]
      by_cases same : other = path
      · subst same
        exact absurd here apart
      · rw [if_neg same] at within
        have directory := sound.parents within rooted
        rw [here] at directory
        rw [unchanged directory]
    · rw [if_neg here]
      by_cases same : other = path
      · subst same
        exact parent
      · rw [if_neg same] at within
        exact sound.parents within rooted
  · intro other id found
    rw [lookup] at found
    by_cases same : other = path
    · rw [if_pos same] at found
      exact allocated id (Option.some.inj found)
    · rw [if_neg same] at found
      exact sound.allocated found
  · intro first second id found found'
    rw [lookup] at found found'
    by_cases same : first = path <;> by_cases same' : second = path
    · rw [same, same']
    · rw [if_pos same] at found
      rw [if_neg same'] at found'
      rw [same, unshared id second (Option.some.inj found) found']
    · rw [if_neg same] at found
      rw [if_pos same'] at found'
      rw [same', unshared id first (Option.some.inj found') found]
    · rw [if_neg same] at found
      rw [if_neg same'] at found'
      exact sound.unshared found found'

theorem changes_of_removed (sound : storage.Sound) {gone : Path → Prop} [DecidablePred gone]
    (entry : ∀ path, after.lookup? path = if gone path then none else storage.lookup? path)
    (contents : after.contents = storage.contents)
    (below : ∀ path : Path, path ≠ [] → storage.lookup? path ≠ none → gone path.parent → gone path) :
    Changes gone storage after ∧ ∀ path, gone path → after.lookup? path = none := by
  -- What has a name afterwards had it before, and nothing above it has gone.
  have kept {path : Path} {found : Entry} (known : after.lookup? path = some found) :
      ¬ gone path ∧ storage.lookup? path = some found := by
    rw [entry] at known
    by_cases removed : gone path
    · rw [if_pos removed] at known
      contradiction
    · exact ⟨removed, by rwa [if_neg removed] at known⟩
  refine ⟨⟨⟨?_, ?_, ?_⟩, ?_, ?_⟩, fun path removed => by rw [entry, if_pos removed]⟩
  · intro path found known named
    obtain ⟨stays, before⟩ := kept known
    have above : ¬ gone path.parent := by
      intro removed
      exact stays (below path named (by rw [before]; exact nofun) removed)
    rw [entry, if_neg above]
    exact sound.parents before named
  · intro path id known
    rw [contents]
    exact sound.allocated (kept known).2
  · intro first second id known known'
    exact sound.unshared (kept known).2 (kept known').2
  · intro path stays
    rw [entry, if_neg stays]
  · intro path id _ _
    rw [contentsOf, contentsOf, bufferOf, bufferOf, contents]

end Storage

end Journal
