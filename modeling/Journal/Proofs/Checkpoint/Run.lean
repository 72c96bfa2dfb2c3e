import Journal.Proofs.Checkpoint.Attempt

set_option autoImplicit false

namespace Journal

open Storage (Retains)

variable {ε : Type} {secondary : Secondary ε} {primary : Primary} {recent : List Record}

namespace Primary

/-- Whether `count` more transaction ids can be given. To count past the greatest one would end the
program. -/
def HasRoom (primary : Primary) (count : Nat) : Prop :=
  primary.active.writer.nextTxid.toNat + count < 2 ^ 64

instance (primary : Primary) (count : Nat) : Decidable (primary.HasRoom count) :=
  inferInstanceAs (Decidable (_ < _))

def acknowledged (operation : Operation) : Except Error UInt64 → List Record
  | .ok txid => if operation.opcode.isBoundary then [] else [⟨txid, operation⟩]
  | .error _ => []

/-- The primaries that can be reached with mergers of which `merges` holds, each with the records that
have been acknowledged. -/
inductive Run (merges : Merger → Prop) : Primary → List Record → Prop
  | format {storage : Storage} {directory : Path} {config : Config} {primary : Primary}
      (sound : storage.Sound) (formatted : format storage directory config = .ok primary) :
      Run merges primary []
  | log {primary : Primary} {done : List Record} (run : Run merges primary done)
      (room : primary.HasRoom 1) (operation : Operation) :
      Run merges (primary.log operation).1
        (done ++ acknowledged operation (primary.log operation).2)
  | sync {primary : Primary} {done : List Record} (run : Run merges primary done) :
      Run merges primary.sync.1 done
  | roll {primary : Primary} {done : List Record} (run : Run merges primary done)
      (room : primary.HasRoom 2) : Run merges primary.roll.1 done
  | round {primary : Primary} {done : List Record} (run : Run merges primary done)
      (room : primary.HasRoom 2) {ε : Type} {secondary : Secondary ε}
      (merger : merges secondary.merger) (passive : secondary.injector.Passive) (extra : ε) :
      Run merges (secondary.runRound primary extra).1.1 done

/-- How a primary can go on from `start`, with the records that are acknowledged on the way, when
`others` may change any files but those that it uses. -/
inductive Onward (merges : Merger → Prop) (start : Primary) : List Record → Primary → Prop
  | here : Onward merges start [] start
  | log {done : List Record} {middle : Primary} (onward : Onward merges start done middle)
      (room : middle.HasRoom 1) (operation : Operation) :
      Onward merges start (done ++ acknowledged operation (middle.log operation).2)
        (middle.log operation).1
  | sync {done : List Record} {middle : Primary} (onward : Onward merges start done middle) :
      Onward merges start done middle.sync.1
  | roll {done : List Record} {middle : Primary} (onward : Onward merges start done middle)
      (room : middle.HasRoom 2) : Onward merges start done middle.roll.1
  | round {done : List Record} {middle : Primary} (onward : Onward merges start done middle)
      (room : middle.HasRoom 2) {ε : Type} {secondary : Secondary ε}
      (merger : merges secondary.merger) (passive : secondary.injector.Passive) (extra : ε) :
      Onward merges start done (secondary.runRound middle extra).1.1
  | others {done : List Record} {middle : Primary} (onward : Onward merges start done middle)
      {storage : Storage}
      (retains : Retains (fun path => ¬ middle.Uses path) middle.storage storage) :
      Onward merges start done { middle with storage := storage }

def Formatted (primary : Primary) : Prop :=
  ∃ storage directory config, Storage.Sound storage ∧ format storage directory config = .ok primary

theorem Run.onward {merges : Merger → Prop} {done : List Record} (run : Run merges primary done) :
    ∃ start, Formatted start ∧ Onward merges start done primary := by
  induction run with
  | format sound formatted => exact ⟨_, ⟨_, _, _, sound, formatted⟩, .here⟩
  | log run room operation ih =>
    obtain ⟨start, formatted, onward⟩ := ih
    exact ⟨start, formatted, onward.log room operation⟩
  | sync run ih =>
    obtain ⟨start, formatted, onward⟩ := ih
    exact ⟨start, formatted, onward.sync⟩
  | roll run room ih =>
    obtain ⟨start, formatted, onward⟩ := ih
    exact ⟨start, formatted, onward.roll room⟩
  | round run room merger passive extra ih =>
    obtain ⟨start, formatted, onward⟩ := ih
    exact ⟨start, formatted, onward.round room merger passive extra⟩

end Primary

namespace Secondary

theorem Succeeds.settled {next : Primary} (idle : primary.roundRunning = false)
    (succeeds : Succeeds secondary { primary with roundRunning := true } next) :
    Succeeds secondary primary { next with roundRunning := false } := by
  obtain ⟨merged, grown, sources, grows, same, image, changes⟩ := succeeds
  refine ⟨merged, grown, sources, grows, ?_, image, changes⟩
  rw [same, ← idle]
  rfl

theorem Kept.settled {path : Path} {next : Primary} (idle : primary.roundRunning = false)
    (kept : Kept path { primary with roundRunning := true } next) :
    Kept path primary { next with roundRunning := false } := by
  obtain ⟨storage, rfl, grows⟩ := kept
  refine ⟨storage, ?_, grows⟩
  rw [← idle]

theorem coordinate_cases (passive : secondary.injector.Passive) (tidy : primary.Tidy recent)
    (idle : primary.roundRunning = false) (room : primary.HasRoom 2) (extra : ε) :
    ∃ after extra' result, secondary.coordinate .idle primary extra =
        ((after, extra', .idle), result) ∧
      (((∀ report, result = .ok report → report.outcome ≠ .success) ∧
          Kept secondary.workDirectory primary.roll.1 after) ∨
        ((∃ report, result = .ok report ∧ report.outcome = .success) ∧
          Succeeds secondary primary.roll.1 after)) := by
  obtain ⟨⟨records, tidy⟩, still⟩ := tidy.roll room
  have idle : primary.roll.1.roundRunning = false := still.trans idle
  rw [coordinate_eq, if_neg (by rw [← still, idle]; exact nofun)]
  cases rolled : primary.roll with
  | mk next result =>
    rw [rolled] at tidy idle
    cases result with
    | error error =>
      refine ⟨next, extra, .error error, rfl, .inl ⟨nofun, next.storage, rfl, ?_⟩⟩
      exact ⟨tidy.sound, fun _ _ _ => rfl, fun _ => .inl rfl⟩
    | ok source =>
      -- From here on the round runs on a primary that only differs in its lock.
      have known := checkpoint_triple passive (tidy.lock true) (opening .idle next extra) rfl
      simp only
      cases ran : secondary.checkpoint.run.run (opening .idle next extra) with
      | mk ended state =>
        rw [ran] at known
        refine ⟨_, _, _, rfl, ?_⟩
        cases ended with
        | error cause =>
          refine .inl ⟨?_, known.settled idle⟩
          intro report reported succeeded
          cases given : outcome (.error cause) with
          | error error =>
            rw [given] at reported
            contradiction
          | ok found =>
            rw [given] at reported
            cases reported
            exact outcome_ne_success cause (given.trans (congrArg Except.ok succeeded))
        | ok value => exact .inr ⟨⟨_, rfl, rfl⟩, known.settled idle⟩

end Secondary

namespace Primary

open Secondary (Kept Succeeds coordinate_cases)

theorem Onward.tidy {merges : Merger → Prop} {start : Primary} {done : List Record}
    (onward : Onward merges start done primary) (tidy : start.Tidy recent)
    (idle : start.roundRunning = false) :
    (∃ recent, primary.Tidy recent) ∧ primary.roundRunning = false := by
  induction onward with
  | here => exact ⟨⟨recent, tidy⟩, idle⟩
  | log onward room operation ih =>
    obtain ⟨⟨recent, tidy⟩, idle⟩ := ih
    rcases tidy.log_cases room operation with ⟨storage, writer, logged, -, tidy⟩ | ⟨error, refused⟩
    · rw [logged]
      exact ⟨⟨_, tidy⟩, idle⟩
    · rw [refused]
      exact ⟨⟨recent, tidy⟩, idle⟩
  | sync onward ih =>
    obtain ⟨⟨recent, tidy⟩, idle⟩ := ih
    obtain ⟨storage, writer, synced, -, tidy⟩ := tidy.sync
    rw [synced]
    exact ⟨⟨recent, tidy⟩, idle⟩
  | roll onward room ih =>
    obtain ⟨⟨recent, tidy⟩, idle⟩ := ih
    obtain ⟨rolled, still⟩ := tidy.roll room
    exact ⟨rolled, still.trans idle⟩
  | round onward room merger passive extra ih =>
    obtain ⟨⟨recent, tidy⟩, idle⟩ := ih
    obtain ⟨after, _, _, ran, cases⟩ := coordinate_cases passive tidy idle room extra
    obtain ⟨⟨records, tidy⟩, still⟩ := tidy.roll room
    rw [Secondary.runRound, ran]
    rcases cases with ⟨-, kept⟩ | ⟨-, succeeds⟩
    · refine ⟨⟨records, kept.tidy tidy⟩, ?_⟩
      obtain ⟨storage, rfl, -⟩ := kept
      exact still.trans idle
    · refine ⟨⟨records, (succeeds.tidy tidy).1⟩, ?_⟩
      obtain ⟨_, _, _, _, installed⟩ := succeeds
      have same := congrArg Primary.roundRunning installed.same
      exact same.trans (still.trans idle)
  | others onward retains ih =>
    obtain ⟨⟨recent, tidy⟩, idle⟩ := ih
    exact ⟨⟨recent, tidy.others retains⟩, idle⟩

theorem Run.tidy {merges : Merger → Prop} {done : List Record} (run : Run merges primary done) :
    (∃ recent, primary.Tidy recent) ∧ primary.roundRunning = false := by
  obtain ⟨start, ⟨storage, directory, config, sound, formatted⟩, onward⟩ := run.onward
  obtain ⟨tidy, idle, -⟩ := tidy_format sound formatted
  exact onward.tidy tidy idle

end Primary

namespace Secondary

/-- However a round is interfered with and whatever the merger does: unless the round succeeds, the
primary is as a bare roll leaves it, every file has the contents that it has then, no file is added,
and no directory but those on the way to the work directory. -/
theorem aborted_round_eq_roll {merges : Merger → Prop} {done : List Record}
    (run : Primary.Run merges primary done) (room : primary.HasRoom 2)
    (passive : secondary.injector.Passive) (extra : ε)
    (aborted : ∀ report, (secondary.coordinate .idle primary extra).2 = .ok report →
      report.outcome ≠ .success) :
    ∃ storage extra', (secondary.coordinate .idle primary extra).1 =
        ({ primary.roll.1 with storage := storage }, extra', .idle) ∧
      (∀ path bytes, storage.read path = .ok bytes ↔ primary.roll.1.storage.read path = .ok bytes) ∧
      ∀ path, storage.lookup? path = primary.roll.1.storage.lookup? path ∨
        path <+: secondary.workDirectory ∧ primary.roll.1.storage.lookup? path = none ∧
          storage.lookup? path = some .directory := by
  obtain ⟨⟨recent, tidy⟩, idle⟩ := run.tidy
  obtain ⟨after, extra', result, ran, cases⟩ := coordinate_cases passive tidy idle room extra
  rw [ran] at aborted ⊢
  rcases cases with ⟨-, storage, rfl, grows⟩ | ⟨⟨report, reported, success⟩, -⟩
  · exact ⟨storage, extra', rfl, fun _ _ => grows.read_eq_ok, grows.entry⟩
  · exact absurd success (aborted report reported)

theorem aborted_round_eq_roll_truncated :
    let secondary : Secondary Unit :=
      ⟨["work"], Merger.consolidate, { Injector.none with truncates := fun _ => true }⟩
    ∃ primary, Primary.format .empty ["primary"] .standard = .ok primary ∧ ∃ storage,
      (secondary.coordinate .idle primary ()).1 =
        ({ primary.roll.1 with storage := storage }, (), .idle) := by
  intro secondary
  have cut : (Primary.format .empty ["primary"] .standard).toOption.any fun primary =>
      primary.HasRoom 2 ∧
        (secondary.coordinate .idle primary ()).2.toOption.all (!·.isSuccess) := by
    decide +kernel
  cases formatted : Primary.format .empty ["primary"] .standard with
  | error error =>
    rw [formatted] at cut
    contradiction
  | ok primary =>
    rw [formatted, Except.toOption, Option.any_some, decide_eq_true_iff] at cut
    obtain ⟨room, cut⟩ := cut
    have run : Primary.Run (fun _ => True) primary [] := .format Storage.sound_empty formatted
    have passive : secondary.injector.Passive := fun _ _ _ => rfl
    have aborted : ∀ report, (secondary.coordinate .idle primary ()).2 = .ok report →
        report.outcome ≠ .success := by
      intro report reported success
      rw [reported] at cut
      simp [Except.toOption, RoundReport.isSuccess, success] at cut
    obtain ⟨storage, ⟨⟩, ended, -⟩ := aborted_round_eq_roll run room passive () aborted
    exact ⟨primary, rfl, storage, ended⟩

end Secondary

end Journal
