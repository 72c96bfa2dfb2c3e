import Journal.Config
import Journal.Record.Binary
import Journal.Segment.Fill

/-!
Finding the next record after damage. A place is trusted if records follow each other from there, as
many as asked for or up to a clean end; one record that happens to decode proves nothing.
-/

set_option autoImplicit false

namespace Journal

def Remainder.isEndMarker (rest : Remainder) : Bool := 0 < rest.size && rest.isFill

def follows (last : Option UInt64) (txid : UInt64) : Bool :=
  match last with
  | some last => last ≤ txid
  | none => true

def confirmsRun (version : LayoutVersion) :
    (needed : Nat) → (last : Option UInt64) → Remainder → Bool
  -- Whether a run of `needed` records, or a shorter one up to a clean end, starts at the front.
  | 0, _, _ => true
  | needed + 1, last, rest =>
    rest.isEndMarker ||
      match Record.decodeInput rest.input version with
      | .ok (record, size) =>
        follows last record.txid && confirmsRun version needed (some record.txid) (rest.drop size)
      | .error _ => false

def firstRun (version : LayoutVersion) (needed : Nat) (last : Option UInt64) :
    (count passed : Nat) → Remainder → Option Nat
  | 0, _, _ => none
  | count + 1, passed, rest =>
    if confirmsRun version needed last rest then some passed
    else firstRun version needed last count (passed + 1) (rest.drop 1)

def shortRun? (version : LayoutVersion) :
    (needed : Nat) → (last : Option UInt64) → (place : Nat) → (passed : List Nat) → Remainder →
      Option (List Nat)
  -- The places of the records at the front, the first of them at `place`, if they fall short of a run;
  -- `passed` are those before them, in reverse.
  | 0, _, _, _, _ => none
  | needed + 1, last, place, passed, rest =>
    if rest.isEndMarker then none
    else
      match Record.decodeInput rest.input version with
      | .ok (record, size) =>
        if follows last record.txid then
          shortRun? version needed (some record.txid) (place + size) (place :: passed)
            (rest.drop size)
        else some passed.reverse
      | .error _ => some passed.reverse

/-- Finds what `firstRun` finds. No run starts inside one that falls short, so the places in it, which
are kept in ascending order, are passed over. -/
def findRun (version : LayoutVersion) (needed : Nat) (last : Option UInt64) :
    (count place : Nat) → (refuted : List Nat) → Remainder → Option Nat
  | 0, _, _, _ => none
  | count + 1, place, refuted, rest =>
    let ahead := refuted.dropWhile (· < place)
    if ahead.head? = some place then
      findRun version needed last count (place + 1) ahead (rest.drop 1)
    else
      match shortRun? version needed last place [] rest with
      | none => some place
      | some places =>
        findRun version needed last count (place + 1) (places.merge ahead) (rest.drop 1)

theorem Remainder.drop_drop (first second : Nat) (rest : Remainder) :
    (rest.drop first).drop second = rest.drop (first + second) := by
  have same : ((rest.drop first).drop second).input = (rest.drop (first + second)).input :=
    Input.ext (by simp [Remainder.drop, List.drop_drop])
  obtain ⟨input, fill, rfl⟩ := rest
  simp only [Remainder.drop, Remainder.mk.injEq] at same ⊢
  refine ⟨same, ?_⟩
  simp only [Input.size_drop]
  omega

theorem Remainder.drop_zero (rest : Remainder) : rest.drop 0 = rest := by
  obtain ⟨input, fill, rfl⟩ := rest
  have within : trailingFill input.bytes ≤ input.size := by
    rw [input.size_eq]
    simpa [trailingFill_eq] using (List.takeWhile_sublist _ (l := input.bytes.reverse)).length_le
  have same : input.drop 0 = input := Input.ext (by simp)
  simp only [Remainder.drop, same, Remainder.mk.injEq, true_and]
  omega

theorem follows_trans {last : Option UInt64} {txid next : UInt64} (first : follows last txid)
    (second : follows (some txid) next) : follows last next := by
  cases last with
  | none => rfl
  | some last =>
    simp only [follows, decide_eq_true_eq] at *
    exact UInt64.le_trans first second

theorem confirmsRun_of_le {version : LayoutVersion} {less more : Nat} {last : Option UInt64}
    {rest : Remainder} (le : less ≤ more) (long : confirmsRun version more last rest) :
    confirmsRun version less last rest := by
  -- A longer run holds a shorter one.
  induction less generalizing more last rest with
  | zero => rfl
  | succ less ih =>
    cases more with
    | zero => contradiction
    | succ more =>
      simp only [confirmsRun, Bool.or_eq_true] at long ⊢
      rcases long with marked | long
      · exact .inl marked
      · right
        split at long
        · simp only [Bool.and_eq_true] at long ⊢
          exact ⟨long.1, ih (by omega) long.2⟩
        · contradiction

/-- From `place` no run starts that is as long as `needed` and may come after `last`. -/
def IsRefuted (version : LayoutVersion) (needed : Nat) (last : Option UInt64) (place : Nat)
    (rest : Remainder) (other : Nat) : Prop :=
  place ≤ other ∧ confirmsRun version needed last (rest.drop (other - place)) = false

theorem shortRun?_spec {version : LayoutVersion} {needed : Nat} {last : Option UInt64}
    {place : Nat} {passed : List Nat} {rest : Remainder} :
    match shortRun? version needed last place passed rest with
    | none => confirmsRun version needed last rest = true
    | some places => confirmsRun version needed last rest = false ∧
        ∃ later, places = passed.reverse ++ later ∧
          ∀ more earlier, needed ≤ more →
            (∀ txid, follows last txid → follows earlier txid) →
            ∀ other ∈ later, IsRefuted version more earlier place rest other := by
  induction needed generalizing last place passed rest with
  | zero => rfl
  | succ needed ih =>
    rw [shortRun?, confirmsRun]
    by_cases marked : rest.isEndMarker = true
    · simp [marked]
    · have unmarked := Bool.not_eq_true _ ▸ marked
      simp only [unmarked, Bool.false_or, Bool.false_eq_true, if_false]
      cases decoded : Record.decodeInput rest.input version with
      | error fault => exact ⟨rfl, [], by simp⟩
      | ok pair =>
        obtain ⟨record, size⟩ := pair
        by_cases ordered : follows last record.txid = true
        · simp only [ordered, if_true, Bool.true_and]
          have step := @ih (some record.txid) (place + size) (place :: passed) (rest.drop size)
          split <;> rename_i outcome
          · simpa only [outcome] using step
          · simp only [outcome] at step
            obtain ⟨short, later, places, refuted⟩ := step
            refine ⟨short, place :: later, by simp [places], ?_⟩
            intro more earlier enough weaker other member
            rcases List.mem_cons.mp member with rfl | member
            · refine ⟨Nat.le_refl _, ?_⟩
              rw [Nat.sub_self, Remainder.drop_zero]
              cases more with
              | zero => omega
              | succ more =>
                simp only [confirmsRun, unmarked, Bool.false_or, decoded, weaker _ ordered,
                  Bool.true_and, ← Bool.not_eq_true]
                intro long
                rw [confirmsRun_of_le (by omega) long] at short
                contradiction
            · have inside := refuted more earlier (by omega)
                (fun txid later => weaker _ (follows_trans ordered later)) other member
              refine ⟨by have := inside.1; omega, ?_⟩
              have same := inside.2
              rw [Remainder.drop_drop] at same
              rw [← same]
              congr 2
              have := inside.1
              omega
        · simp only [Bool.not_eq_true] at ordered
          simp [ordered]

theorem findRun_eq {version : LayoutVersion} {needed : Nat} {last : Option UInt64}
    {count place : Nat} {refuted : List Nat} {rest : Remainder}
    (sound : ∀ other ∈ refuted, place ≤ other →
      IsRefuted version needed last place rest other) :
    findRun version needed last count place refuted rest =
      firstRun version needed last count place rest := by
  induction count generalizing place refuted rest with
  | zero => rfl
  | succ count ih =>
    have further : ∀ other, place + 1 ≤ other → IsRefuted version needed last place rest other →
        IsRefuted version needed last (place + 1) (rest.drop 1) other := by
      intro other beyond known
      refine ⟨beyond, ?_⟩
      rw [Remainder.drop_drop, ← known.2]
      congr 2
      omega
    have ahead : ∀ other ∈ refuted.dropWhile (· < place), other ∈ refuted :=
      fun other member => (List.dropWhile_sublist _).mem member
    rw [findRun, firstRun]
    split
    · next here =>
      have known := sound place (ahead place (List.mem_of_mem_head? (by simp [here])))
        (Nat.le_refl _)
      have short := known.2
      rw [Nat.sub_self, Remainder.drop_zero] at short
      rw [short, ih]
      · rfl
      · intro other member beyond
        exact further other beyond (sound other (ahead other member) (by omega))
    · have spec := @shortRun?_spec version needed last place [] rest
      split <;> rename_i outcome <;> simp only [outcome] at spec
      · simp [spec]
      · obtain ⟨short, later, places, known⟩ := spec
        rw [short, ih]
        · rfl
        · intro other member beyond
          rcases List.mem_merge.mp member with member | member
          · rw [places] at member
            exact further other beyond
              (known needed last (Nat.le_refl _) (fun _ h => h) other (by simpa using member))
          · exact further other beyond (sound other (ahead other member) (by omega))

theorem findRun_nil (version : LayoutVersion) (needed : Nat) (last : Option UInt64)
    (count place : Nat) (rest : Remainder) :
    findRun version needed last count place [] rest =
      firstRun version needed last count place rest :=
  findRun_eq (by simp)

end Journal
