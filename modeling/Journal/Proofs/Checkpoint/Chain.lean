import Journal.Proofs.Checkpoint.Run

set_option autoImplicit false

namespace Journal

open Storage (Changes Retains)

namespace Primary

variable {primary : Primary}

def Linked : (last : UInt64) → List SegmentInfo → (next : UInt64) → Prop
  | last, [], next => next.toNat = last.toNat + 1
  | last, info :: rest, next =>
    info.firstTxid.toNat = last.toNat + 1 ∧ Linked info.lastTxid rest next

theorem linked_concat {last next : UInt64} {segments : List SegmentInfo} {info : SegmentInfo} :
    Linked last (segments ++ [info]) next ↔
      Linked last segments info.firstTxid ∧ next.toNat = info.lastTxid.toNat + 1 := by
  induction segments generalizing last with
  | nil => rfl
  | cons head segments ih =>
    rw [List.cons_append, Linked, Linked, ih, and_assoc]

theorem Linked.beyond {last next : UInt64} {segments : List SegmentInfo}
    (linked : Linked last segments next)
    (extent : ∀ info ∈ segments, info.firstTxid < info.lastTxid) :
    ∀ info ∈ segments, last < info.lastTxid := by
  induction segments generalizing last with
  | nil => exact List.forall_mem_nil _
  | cons head segments ih =>
    obtain ⟨follows, linked⟩ := linked
    have first : last < head.firstTxid := UInt64.lt_iff_toNat_lt.mpr (by omega)
    have whole := UInt64.lt_trans first (extent head List.mem_cons_self)
    intro info member
    rcases List.mem_cons.mp member with rfl | later
    · exact whole
    · exact UInt64.lt_trans whole
        (ih linked (fun other listed => extent other (List.mem_cons_of_mem _ listed)) info later)

def Covers (primary : Primary) (last : UInt64) : Prop :=
  last = primary.image.lastTxid ∨ ∃ info ∈ primary.finalized, info.lastTxid = last

theorem Linked.retire {last next cut : UInt64} {segments : List SegmentInfo}
    (linked : Linked last segments next)
    (extent : ∀ info ∈ segments, info.firstTxid < info.lastTxid)
    (covers : cut = last ∨ ∃ info ∈ segments, info.lastTxid = cut) :
    Linked cut (segments.filter fun info => !decide (info.lastTxid ≤ cut)) next := by
  induction segments generalizing last with
  | nil =>
    obtain rfl : cut = last := by simpa using covers
    exact linked
  | cons head segments ih =>
    have rest : ∀ info ∈ segments, info.firstTxid < info.lastTxid :=
      fun info listed => extent info (List.mem_cons_of_mem _ listed)
    rcases covers with rfl | ⟨info, member, rfl⟩
    · have later := linked.beyond extent
      rwa [List.filter_eq_self.mpr fun info member => by
        simpa [UInt64.not_le] using later info member]
    · have retired : head.lastTxid ≤ info.lastTxid := by
        rcases List.mem_cons.mp member with rfl | later
        · exact UInt64.le_refl _
        · exact UInt64.le_of_lt (linked.2.beyond rest info later)
      rw [List.filter_cons_of_neg (by simpa using retired)]
      refine ih linked.2 rest ?_
      rcases List.mem_cons.mp member with rfl | later
      · exact .inl rfl
      · exact .inr ⟨info, later, rfl⟩

def Sealed (storage : Storage) (config : Config) (info : SegmentInfo) : Prop :=
  ∃ bytes fill records, storage.read info.path = .ok bytes ∧
    Segment.Written config.layoutVersion (records ++ [⟨info.lastTxid, .endSegment⟩]) (fill + 1)
      bytes ∧
    Consecutive info.firstTxid (records ++ [⟨info.lastTxid, .endSegment⟩])

theorem Sealed.kept {storage after : Storage} {config : Config} {info : SegmentInfo}
    (closed : Sealed storage config info)
    (kept : ∀ bytes, storage.read info.path = .ok bytes → after.read info.path = .ok bytes) :
    Sealed after config info := by
  obtain ⟨bytes, fill, records, read, written⟩ := closed
  exact ⟨bytes, fill, records, kept bytes read, written⟩

structure Chained (primary : Primary) : Prop where
  tidy : ∃ recent, primary.Tidy recent
  closed : ∀ info ∈ primary.finalized, Sealed primary.storage primary.config info
  linked : Linked primary.image.lastTxid primary.finalized primary.active.firstTxid

theorem Chained.lock (chained : primary.Chained) (running : Bool) :
    Chained { primary with roundRunning := running } := by
  obtain ⟨recent, tidy⟩ := chained.tidy
  exact ⟨⟨recent, tidy.lock running⟩, chained.closed, chained.linked⟩

theorem Chained.foreign (chained : primary.Chained) {storage : Storage}
    (retains : Retains (fun path => ¬ Own primary.directory path) primary.storage storage) :
    Chained { primary with storage := storage } := by
  obtain ⟨recent, tidy⟩ := chained.tidy
  refine ⟨⟨recent, tidy.foreign retains⟩, fun info member => ?_, chained.linked⟩
  have own := tidy.own.2.2 info member
  exact (chained.closed info member).kept fun _ => retains.read_eq_ok (not_not_intro own)

theorem chained_format {storage : Storage} (sound : storage.Sound) {directory : Path}
    {config : Config} (formatted : format storage directory config = .ok primary) :
    primary.Chained := by
  obtain ⟨tidy, -, none, -⟩ := tidy_format sound formatted
  refine ⟨⟨_, tidy⟩, fun info member => by simp [none] at member, ?_⟩
  have opened : (1 : UInt64) = primary.active.firstTxid :=
    congrArg Record.txid (Option.some.inj tidy.active.consecutive.opened)
  have covered := UInt64.lt_iff_toNat_lt.mp tidy.covered
  rw [none, Linked]
  rw [← opened] at covered ⊢
  have one : (1 : UInt64).toNat = 1 := rfl
  omega

theorem Chained.later (chained : primary.Chained) {last : UInt64} (covers : primary.Covers last) :
    primary.image.lastTxid ≤ last := by
  obtain ⟨recent, tidy⟩ := chained.tidy
  rcases covers with rfl | ⟨info, member, rfl⟩
  · exact UInt64.le_refl _
  · exact UInt64.le_of_lt
      (chained.linked.beyond (fun info member => (tidy.extent info member).1) info member)

structure Commits (before : Primary) (staged : StagedImage) (after : Primary) : Prop where
  chained : after.Chained
  directory : after.directory = before.directory
  config : after.config = before.config
  active : after.active = before.active
  image : before.image.lastTxid ≤ after.image.lastTxid
  kept : ∀ info ∈ before.finalized, info ∈ after.finalized ∨ info.lastTxid ≤ after.image.lastTxid
  gone : after.storage.lookup? staged.path = none

structure Shows (primary : Primary) (bytes : List UInt8) (last : UInt64) : Prop where
  last : primary.image.lastTxid = last
  read : primary.storage.read primary.image.path = .ok bytes

theorem Chained.commit (chained : primary.Chained) {staged : StagedImage} {number : Nat}
    {bytes : List UInt8}
    (temporary : staged.path = primary.directory ++ [Storage.temporaryName number])
    (stored : primary.storage.read staged.path = .ok bytes)
    (covers : primary.Covers staged.lastTxid) :
    primary.Commits staged (primary.commit staged).1 ∧
      ∀ installed, (primary.commit staged).2 = .ok installed →
        (primary.commit staged).1.Shows bytes staged.lastTxid := by
  obtain ⟨recent, tidy⟩ := chained.tidy
  obtain ⟨id, found, held⟩ := Storage.read_eq_ok.mp stored
  have foreign : ¬ Own primary.directory staged.path := fun own =>
    own.ne_temporary _ _ temporary
  rcases tidy.commit_cases temporary found with
    ⟨error, failed⟩ | ⟨storage, succeeded, changes, image, same, gone⟩
  · obtain ⟨changes, gone⟩ := Storage.changes_unbind_file tidy.sound found
    rw [failed]
    refine ⟨⟨chained.foreign (changes.retains ?_), rfl, rfl, rfl, UInt64.le_refl _,
      fun info member => .inl member, gone⟩, nofun⟩
    rintro _ _ rfl own
    exact absurd foreign own
  · have before : staged.lastTxid < primary.active.firstTxid := by
      rcases covers with same | ⟨info, member, same⟩
      · rw [same]
        exact tidy.covered
      · rw [← same]
        exact (tidy.extent info member).2
    have retains : Retains
        (fun path => primary.Replaced staged.lastTxid path ∨ ¬ Own primary.directory path)
        primary.storage storage := by
      refine changes.retains fun path _ superseded free => ?_
      rcases superseded with rfl | replaced
      · exact absurd (.inr foreign) free
      · exact absurd (.inl replaced) free
    rw [succeeded]
    refine ⟨⟨⟨⟨recent, tidy.committed before retains image⟩, ?_, chained.linked.retire
      (fun info member => (tidy.extent info member).1) covers⟩, rfl, rfl, rfl,
      chained.later covers, ?_, gone⟩,
      fun _ _ => ⟨rfl, Storage.read_eq_ok.mpr ⟨id, image, same.trans held⟩⟩⟩
    · intro info member
      obtain ⟨listed, kept⟩ := List.mem_filter.mp member
      have beyond : staged.lastTxid < info.lastTxid := UInt64.not_le.mp (by simpa using kept)
      exact (chained.closed info listed).kept fun _ => retains.read_eq_ok
        (not_or.mpr ⟨tidy.kept_ne_replaced listed beyond, not_not_intro (tidy.own.2.2 info listed)⟩)
    · intro info member
      by_cases covered : info.lastTxid ≤ staged.lastTxid
      · exact .inr covered
      · exact .inl (List.mem_filter.mpr ⟨member, by simpa using covered⟩)

structure Issued (first : UInt64) (ids : List UInt64) (next : UInt64) : Prop where
  ascending : ids.Pairwise (· < ·)
  within : ∀ id ∈ ids, first ≤ id ∧ id < next
  onward : first ≤ next

namespace Issued

variable {first middle next : UInt64} {ids more : List UInt64}

theorem nil (onward : first ≤ next) : Issued first [] next := ⟨.nil, List.forall_mem_nil _, onward⟩

theorem append (issued : Issued first ids middle) (later : Issued middle more next) :
    Issued first (ids ++ more) next := by
  refine ⟨List.pairwise_append.mpr ⟨issued.ascending, later.ascending, ?_⟩, ?_,
    UInt64.le_trans issued.onward later.onward⟩
  · intro id given other given'
    exact UInt64.lt_of_lt_of_le (issued.within id given).2 (later.within other given').1
  · intro id given
    rcases List.mem_append.mp given with given | given
    · obtain ⟨least, before⟩ := issued.within id given
      exact ⟨least, UInt64.lt_of_lt_of_le before later.onward⟩
    · obtain ⟨least, before⟩ := later.within id given
      exact ⟨UInt64.le_trans issued.onward least, before⟩

theorem sublist (issued : Issued first ids next) (fewer : more.Sublist ids) :
    Issued first more next :=
  ⟨issued.ascending.sublist fewer, fun id given => issued.within id (fewer.subset given),
    issued.onward⟩

end Issued

/-- Calls that anyone may make at any time, with the ids that they return. There has to be room for
the ids: without it the program would end. -/
inductive Acts (start : Primary) : List UInt64 → Primary → Prop
  | none : Acts start [] start
  | log {ids : List UInt64} {middle : Primary} (acts : Acts start ids middle)
      (room : middle.HasRoom 1) (operation : Operation) :
      Acts start (ids ++ (middle.log operation).2.toOption.toList) (middle.log operation).1
  | sync {ids : List UInt64} {middle : Primary} (acts : Acts start ids middle) :
      Acts start ids middle.sync.1
  | roll {ids : List UInt64} {middle : Primary} (acts : Acts start ids middle)
      (room : middle.HasRoom 2) : Acts start ids middle.roll.1

structure Advances (before : Primary) (ids : List UInt64) (after : Primary) : Prop where
  directory : after.directory = before.directory
  config : after.config = before.config
  image : after.image = before.image
  running : after.roundRunning = before.roundRunning
  finalized : before.finalized <+: after.finalized
  changes : Changes (fun path => ∃ first, SegmentPath before.directory first path) before.storage
    after.storage
  issued : Issued before.active.writer.nextTxid ids after.active.writer.nextTxid

theorem Advances.refl (sound : primary.storage.Sound) : primary.Advances [] primary :=
  ⟨rfl, rfl, rfl, rfl, List.prefix_refl _, Changes.refl sound, .nil (UInt64.le_refl _)⟩

theorem Advances.trans {before middle after : Primary} {ids more : List UInt64}
    (first : before.Advances ids middle) (second : middle.Advances more after) :
    before.Advances (ids ++ more) after :=
  ⟨second.directory.trans first.directory, second.config.trans first.config,
    second.image.trans first.image, second.running.trans first.running,
    first.finalized.trans second.finalized, first.changes.trans (first.directory ▸ second.changes), first.issued.append second.issued⟩

theorem Chained.act (chained : primary.Chained) {recent records : List Record}
    (tidy : primary.Tidy recent) {storage : Storage} {writer : SegmentWriter FileHandle}
    (changes : Changes (· = primary.active.path) primary.storage storage)
    {ids : List UInt64} (issued : Issued primary.active.writer.nextTxid ids writer.nextTxid) :
    let after := { primary with
      storage := storage, active := { primary.active with writer := writer } }
    after.Tidy records → after.Chained ∧ primary.Advances ids after := by
  intro after tidy'
  refine ⟨⟨⟨records, tidy'⟩, fun info member => ?_, chained.linked⟩, rfl, rfl, rfl, rfl,
    List.prefix_refl _, changes.mono ?_, issued⟩
  · refine (chained.closed info member).kept fun bytes => changes.read_eq_ok ?_
    exact tidy.segment_apart member (UInt64.le_refl _) tidy.activePath
  · intro path same
    subst same
    exact ⟨_, tidy.activePath⟩

theorem Chained.log (chained : primary.Chained) (room : primary.HasRoom 1) (operation : Operation) :
    (primary.log operation).1.Chained ∧
      primary.Advances (primary.log operation).2.toOption.toList (primary.log operation).1 := by
  obtain ⟨recent, tidy⟩ := chained.tidy
  rcases tidy.log_cases room operation with
    ⟨storage, writer, logged, changes, tidy'⟩ | ⟨error, refused⟩
  · have counted := tidy.active.counted
    have next := tidy'.active.counted
    simp only [List.length_append, List.length_singleton] at next
    have later : primary.active.writer.nextTxid < writer.nextTxid :=
      UInt64.lt_iff_toNat_lt.mpr (by omega)
    rw [logged]
    refine chained.act tidy changes ⟨List.pairwise_singleton _ _, ?_, UInt64.le_of_lt later⟩ tidy'
    intro id given
    rw [List.mem_singleton.mp given]
    exact ⟨UInt64.le_refl _, later⟩
  · rw [refused]
    exact ⟨chained, .refl tidy.sound⟩

theorem Chained.sync (chained : primary.Chained) :
    primary.sync.1.Chained ∧ primary.Advances [] primary.sync.1 := by
  obtain ⟨recent, tidy⟩ := chained.tidy
  obtain ⟨storage, writer, synced, changes, tidy'⟩ := tidy.sync
  have counted := tidy.active.counted
  have next := tidy'.active.counted
  rw [synced]
  exact chained.act tidy changes (.nil (UInt64.le_iff_toNat_le.mpr (by simp only at next; omega)))
    tidy'

theorem Chained.roll (chained : primary.Chained) (room : primary.HasRoom 2) :
    primary.roll.1.Chained ∧ primary.Advances [] primary.roll.1 := by
  obtain ⟨recent, tidy⟩ := chained.tidy
  rcases tidy.roll_cases room with ⟨error, failed⟩ | ⟨info, storage, active, result, done, -, rolled⟩
  · rw [failed]
    exact ⟨chained, .refl tidy.sound⟩
  · have counted := tidy.active.counted
    have last := rolled.last
    have opened : active.firstTxid.toNat = info.lastTxid.toNat + 1 := by
      rw [rolled.next, last]
      exact Txid.toNat_succ (by rw [HasRoom] at room; omega)
    rw [done]
    refine ⟨⟨⟨_, tidy.rolled room rolled⟩, fun other member => ?_, ?_⟩, rfl, rfl, rfl, rfl,
      List.prefix_append _ _, rolled.changes.mono ?_, .nil ?_⟩
    · rcases List.mem_append.mp member with before | ended
      · exact (chained.closed other before).kept fun _ =>
          rolled.changes.read_eq_ok (tidy.rolled_apart room rolled before)
      · rw [List.mem_singleton.mp ended]
        obtain ⟨bytes, fill, read, written⟩ := rolled.closed
        refine ⟨bytes, fill, recent, read, written, ?_⟩
        rw [rolled.first]
        exact tidy.active.consecutive.concat (by rw [last]; exact counted)
    · refine linked_concat.mpr ⟨?_, opened⟩
      rw [rolled.first]
      exact chained.linked
    · rintro path (segment | segment) <;> exact ⟨_, segment⟩
    · have started := rolled.writes.started
      refine UInt64.le_of_lt (UInt64.lt_trans ?_ started)
      rw [UInt64.lt_iff_toNat_lt, opened, last]
      exact Nat.lt_succ_self _

theorem Acts.advances {ids : List UInt64} {after : Primary} (acts : Acts primary ids after)
    (chained : primary.Chained) : after.Chained ∧ primary.Advances ids after := by
  induction acts with
  | none =>
    obtain ⟨recent, tidy⟩ := chained.tidy
    exact ⟨chained, .refl tidy.sound⟩
  | log acts room operation ih =>
    obtain ⟨chained, advances⟩ := ih
    obtain ⟨chained, logged⟩ := chained.log room operation
    exact ⟨chained, advances.trans logged⟩
  | sync acts ih =>
    obtain ⟨chained, advances⟩ := ih
    obtain ⟨chained, synced⟩ := chained.sync
    have advances := advances.trans synced
    rw [List.append_nil] at advances
    exact ⟨chained, advances⟩
  | roll acts room ih =>
    obtain ⟨chained, advances⟩ := ih
    obtain ⟨chained, rolled⟩ := chained.roll room
    have advances := advances.trans rolled
    rw [List.append_nil] at advances
    exact ⟨chained, advances⟩

end Primary

end Journal
