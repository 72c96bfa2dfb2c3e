import Journal.Proofs.Checkpoint.Ledger

set_option autoImplicit false

namespace Journal.Primary

open Storage (Retains)

variable {primary : Primary} {recent done : List Record}

def activeRecords (primary : Primary) : Except Error (List Record) := do
  let written ← (primary.storage.read primary.active.path).mapError .ofStorage
  let pending := Packed.toList primary.active.writer.sink.pending
  let (records, scan) ← Segment.readAll .strict
    { primary.config with requireEndMarker := false } (written ++ pending)
  let _ ← scan.check
  return records

theorem activeRecords_of_writes
    (writes : Writes primary.storage primary.directory primary.config primary.active recent) :
    primary.activeRecords = .ok recent := by
  obtain ⟨bytes, read, written⟩ := writes.read
  have shown := @Segment.readAll_of_written _ _ _ _ written
    { primary.config with requireEndMarker := false } nofun
  simp only [activeRecords, read, Except.mapError, ok_bind, shown, Scan.check,
    Segment.firstError_cleanScan]
  rfl

structure Unrenamed (before after : Primary) : Prop where
  image : after.image = before.image
  finalized : after.finalized = before.finalized ++
    [⟨before.active.path, before.active.firstTxid, before.active.writer.nextTxid⟩]
  ended : ∃ records bytes scan, before.activeRecords = .ok records ∧
    after.storage.read before.active.path = .ok bytes ∧
    Segment.readAll .strict before.config bytes =
      .ok (records ++ [⟨before.active.writer.nextTxid, .endSegment⟩], scan) ∧
    scan.firstError = none ∧ scan.cleanlyClosed = true
  next : after.active.path = before.nextPath ∧
    after.active.firstTxid = before.active.writer.nextTxid + 1
  started : after.activeRecords = .ok [⟨before.active.writer.nextTxid + 1, .startSegment⟩]

theorem Tidy.unrenamed (tidy : primary.Tidy recent) (room : primary.HasRoom 2)
    {created : Storage × Nat} (free : primary.storage.create primary.nextPath = .ok created)
    {fault : StorageFault}
    (blocked : primary.storage.rename primary.active.path primary.closedPath = .error fault) :
    ∃ after, primary.roll = (after, .error (.ofStorage fault)) ∧ primary.Unrenamed after := by
  obtain ⟨info, storage, active, result, rolls, -, rolled, kept⟩ := tidy.roll_of_created room free
  obtain ⟨rfl, path⟩ := kept fault blocked
  refine ⟨_, rolls, rfl, ?_, ?_, ⟨?_, ?_⟩, ?_⟩
  · rw [← path, ← rolled.first, ← rolled.last]
  · obtain ⟨bytes, fill, read, written⟩ := rolled.closed
    have marked : 1 ≤ fill + 1 := Nat.le_add_left ..
    rw [path] at read
    rw [rolled.last] at written
    exact ⟨recent, bytes, _, activeRecords_of_writes tidy.active, read,
      Segment.readAll_of_written written fun _ => marked, Segment.firstError_cleanScan ..,
      decide_eq_true marked⟩
  · rw [nextPath, ← rolled.last, ← rolled.next]
    exact rolled.writes.path
  · rw [← rolled.last]
    exact rolled.next
  · rw [← rolled.last]
    exact activeRecords_of_writes rolled.writes

theorem Accounts.image_of_round (accounts : primary.Accounts done)
    (idle : primary.roundRunning = false) (room : primary.HasRoom 2) {ε : Type}
    {secondary : Secondary ε} (merger : secondary.merger = Merger.consolidate)
    (passive : secondary.injector.Passive) {extra : ε} {report : RoundReport}
    (reported : (secondary.runRound primary extra).2 = .ok report)
    (success : report.outcome = .success) :
    let after := (secondary.runRound primary extra).1.1
    ∃ bytes scan, after.storage.read after.image.path = .ok bytes ∧
      Segment.readAll .strict after.config bytes = .ok (done, scan) ∧
      scan.firstError = none ∧ scan.cleanlyClosed = true := by
  intro after
  obtain ⟨recent, closed, tidy, mapped, rfl⟩ := accounts
  obtain ⟨next, source, _, _, rolls, -⟩ := Secondary.runRound_eq_ok (Prod.ext rfl reported)
  have succeeds : Secondary.Succeeds secondary primary.roll.1 after := by
    obtain ⟨last, extra', result, ran, cases⟩ :=
      Secondary.coordinate_cases passive tidy idle room extra
    have round : secondary.runRound primary extra = ((last, extra'), result) := by
      rw [Secondary.runRound, ran]
    rw [round] at reported
    rcases cases with ⟨failed, -⟩ | ⟨-, succeeds⟩
    · exact absurd success (failed report reported)
    · rwa [show after = last from congrArg (·.1.1) round]
  rcases tidy.roll_cases room with ⟨error, failed⟩ | ⟨info, storage, active, result, done, -, rolled⟩
  · rw [rolls] at failed
    cases failed
  · rw [done] at succeeds
    obtain ⟨config, -, merged, fill, read, written⟩ := written_of_succeeds merger
      (tidy.rolled room rolled) (tidy.closed_of_rolled room mapped rolled) succeeds
    have marked : 1 ≤ fill + 1 := Nat.le_add_left ..
    rw [List.flatten_concat] at written
    exact ⟨merged, _, read, Segment.readAll_of_written written fun _ => marked,
      Segment.firstError_cleanScan .., decide_eq_true marked⟩

/-- A roll that fails strands nothing. If the next segment cannot be created the primary is as it was, and
if the closed one cannot be renamed it is kept under its old name. However the primary goes on from there,
the first round that succeeds makes an image of all that has been logged. -/
theorem failed_roll_strands_nothing {start : Primary} (formatted : start.Formatted)
    (onward : Onward (· = Merger.consolidate) start done primary) (room : primary.HasRoom 2) :
    (∀ fault, primary.storage.create primary.nextPath = .error fault →
      primary.roll = (primary, .error (.ofStorage fault))) ∧
    (∀ created fault, primary.storage.create primary.nextPath = .ok created →
      primary.storage.rename primary.active.path primary.closedPath = .error fault →
      ∃ after, primary.roll = (after, .error (.ofStorage fault)) ∧ primary.Unrenamed after) ∧
    ∀ more later, Onward (· = Merger.consolidate) primary.roll.1 more later → later.HasRoom 2 →
      ∀ {ε : Type} (secondary : Secondary ε), secondary.merger = Merger.consolidate →
        secondary.injector.Passive → ∀ extra report,
        (secondary.runRound later extra).2 = .ok report → report.outcome = .success →
        let after := (secondary.runRound later extra).1.1
        ∃ bytes scan, after.storage.read after.image.path = .ok bytes ∧
          Segment.readAll .strict after.config bytes = .ok (done ++ more, scan) ∧
          scan.firstError = none ∧ scan.cleanlyClosed = true := by
  obtain ⟨storage, directory, config, sound, formatted⟩ := formatted
  obtain ⟨formed, idle, -⟩ := tidy_format sound formatted
  obtain ⟨⟨recent, tidy⟩, still⟩ := onward.tidy formed idle
  have accounts := onward.accounts (.of_format sound formatted) idle
  rw [List.nil_append] at accounts
  refine ⟨fun fault => roll_of_blocked, fun created fault free => tidy.unrenamed room free, ?_⟩
  intro more later goes room' ε secondary merger passive extra report reported success
  obtain ⟨⟨records, rolled⟩, same⟩ := tidy.roll room
  have stopped := (goes.tidy rolled (same.trans still)).2
  exact (goes.accounts (accounts.roll room) (same.trans still)).image_of_round stopped room' merger
    passive reported success

theorem Tidy.unblocked (tidy : primary.Tidy recent) {path : Path} {name : String}
    (inside : path = primary.directory ++ [name])
    (obstacle : primary.storage.lookup? path = some .directory) :
    ∃ storage, primary.storage.removeDirectory path = .ok storage ∧
      Retains (fun path => ¬ primary.Uses path) primary.storage storage := by
  subst inside
  obtain ⟨storage, removed, changes, -⟩ :=
    Storage.changes_removeDirectory tidy.sound (by simp) obstacle
  refine ⟨storage, removed, changes.retains fun path id below free found => ?_⟩
  -- What is used is in the directory itself, where the obstacle is no file.
  obtain ⟨other, rfl⟩ := (tidy.own_of_uses (not_not.mp free)).name
  rw [List.prefix_append_right_inj, List.prefix_cons_iff] at below
  obtain empty | ⟨_, same, -⟩ := below
  · simp at empty
  · obtain ⟨rfl, -⟩ := List.cons.inj same
    rw [obstacle] at found
    cases found

theorem failed_roll_strands_nothing_directory :
    let deletion : Operation := ⟨.delete, ⟨"/a", 9⟩⟩
    let secondary : Secondary Unit := ⟨["work"], Merger.consolidate, .none⟩
    ∃ start blocked cleared after bytes scan,
      format .empty ["primary"] { Config.standard with layoutVersion := .unchecksummed } =
        .ok start ∧
      let logged := (start.log deletion).1
      let primary := { logged with storage := blocked }
      logged.storage.makeDirectories logged.closedPath = .ok blocked ∧
      primary.roll = (after, .error (.ofStorage (.isDirectory logged.closedPath))) ∧
      primary.Unrenamed after ∧
      after.storage.removeDirectory logged.closedPath = .ok cleared ∧
      let installed := (secondary.runRound { after with storage := cleared } ()).1.1
      installed.storage.read installed.image.path = .ok bytes ∧
      Segment.readAll .strict installed.config bytes = .ok ([⟨2, deletion⟩], scan) := by
  intro deletion secondary
  let config : Config := { Config.standard with layoutVersion := .unchecksummed }
  have known : (format .empty ["primary"] config).toOption.any fun start =>
      let logged := (start.log deletion).1
      start.HasRoom 1 ∧ acknowledged deletion (start.log deletion).2 = [⟨2, deletion⟩] ∧
        (logged.storage.makeDirectories logged.closedPath).toOption.any fun blocked =>
          let primary := { logged with storage := blocked }
          primary.HasRoom 2 ∧ (primary.storage.create primary.nextPath).toOption.any fun _ =>
            primary.roll.1.directory = logged.directory ∧
            primary.roll.1.storage.lookup? logged.closedPath = some .directory ∧
            (primary.roll.1.storage.removeDirectory logged.closedPath).toOption.any fun cleared =>
              let later := { primary.roll.1 with storage := cleared }
              later.HasRoom 2 ∧ (secondary.runRound later ()).2.toOption.any (·.isSuccess) := by
    decide +kernel
  simp only [any_toOption, decide_eq_true_eq] at known
  obtain ⟨start, formatted, room, acked, blocked, made, room', created, free, directory, obstacle,
    cleared, removed, room'', report, reported, success⟩ := known
  have onward : Onward (· = Merger.consolidate) start [⟨2, deletion⟩] (start.log deletion).1 := by
    rw [← acked]
    exact Onward.here.log room deletion
  obtain ⟨formed, idle, -⟩ := tidy_format Storage.sound_empty formatted
  obtain ⟨⟨recent, tidy⟩, -⟩ := onward.tidy formed idle
  obtain ⟨grows, there⟩ := Storage.grows_makeDirectories tidy.sound made
  have onward := onward.others grows.retains
  have tidy : Tidy { (start.log deletion).1 with storage := blocked } recent :=
    tidy.others grows.retains
  obtain ⟨-, renames, later⟩ := failed_roll_strands_nothing
    ⟨_, _, _, Storage.sound_empty, formatted⟩ onward room'
  obtain ⟨after, rolls, unrenamed⟩ :=
    renames created _ free (Storage.rename_onto_directory tidy.active.file.found there)
  obtain ⟨⟨_, rolled⟩, -⟩ := tidy.roll room'
  obtain ⟨_, again, retains⟩ := rolled.unblocked (by rw [directory]; rfl) obstacle
  cases again.symm.trans removed
  obtain ⟨bytes, scan, read, shown, -⟩ := later [] _ (Onward.here.others retains) room'' secondary rfl
    (fun _ _ _ => rfl) () report reported (of_decide_eq_true success)
  rw [rolls] at removed read shown
  exact ⟨start, blocked, cleared, after, bytes, scan, formatted, made, rolls, unrenamed, removed, read,
    shown⟩

end Journal.Primary
