set_option autoImplicit false

namespace Journal

variable {ε α β : Type}

theorem bind_eq_ok {step : Except ε α} {next : α → Except ε β} {value : β} :
    step >>= next = .ok value ↔ ∃ first, step = .ok first ∧ next first = .ok value := by
  cases step <;> simp [bind, Except.bind]

theorem ok_bind (first : α) (next : α → Except ε β) :
    (Except.ok first >>= next) = next first := rfl

theorem pure_eq_ok {first second : α} :
    (pure first : Except ε α) = .ok second ↔ first = second := by
  simp [pure, Except.pure]

theorem throw_eq_ok {fault : ε} {value : α} : (throw fault : Except ε α) = .ok value ↔ False := by
  simp [throw, throwThe, MonadExceptOf.throw]

theorem map_eq_ok {step : Except ε α} {change : α → β} {value : β} :
    step.map change = .ok value ↔ ∃ first, step = .ok first ∧ change first = value := by
  cases step <;> simp [Except.map]

theorem mapError_eq_ok {ε' : Type} {step : Except ε α} {change : ε → ε'} {value : α} :
    step.mapError change = .ok value ↔ step = .ok value := by
  cases step with
  | error fault => exact ⟨nofun, nofun⟩
  | ok first =>
    constructor <;> intro same
    · exact congrArg _ (Except.ok.inj same)
    · exact congrArg _ (Except.ok.inj same)

theorem mapError_eq_error {ε' : Type} {step : Except ε α} {change : ε → ε'} {fault : ε'} :
    step.mapError change = .error fault ↔ ∃ cause, step = .error cause ∧ change cause = fault := by
  cases step with
  | error cause =>
    change Except.error (change cause) = .error fault ↔ _
    simp
  | ok value =>
    change Except.ok value = .error fault ↔ _
    simp

theorem any_toOption {step : Except ε α} {holds : α → Bool} :
    step.toOption.any holds = true ↔ ∃ value, step = .ok value ∧ holds value = true := by
  cases step <;> simp [Except.toOption]

theorem mapM_cons_eq_ok {step : α → Except ε β} {input : α} {inputs : List α} {results : List β} :
    (input :: inputs).mapM step = .ok results ↔ ∃ first others,
      step input = .ok first ∧ inputs.mapM step = .ok others ∧ first :: others = results := by
  rw [List.mapM_cons, bind_eq_ok]
  constructor
  · rintro ⟨first, stepped, rest⟩
    obtain ⟨others, mapped, joined⟩ := bind_eq_ok.mp rest
    exact ⟨first, others, stepped, mapped, pure_eq_ok.mp joined⟩
  · rintro ⟨first, others, stepped, mapped, joined⟩
    exact ⟨first, stepped, bind_eq_ok.mpr ⟨others, mapped, pure_eq_ok.mpr joined⟩⟩

theorem exists_mapM_eq_ok {step : α → Except ε β} {inputs : List α}
    (each : ∀ input ∈ inputs, ∃ result, step input = .ok result) :
    ∃ results, inputs.mapM step = .ok results := by
  induction inputs with
  | nil => exact ⟨[], rfl⟩
  | cons input inputs ih =>
    obtain ⟨⟨first, stepped⟩, rest⟩ := List.forall_mem_cons.mp each
    obtain ⟨others, mapped⟩ := ih rest
    exact ⟨first :: others, mapM_cons_eq_ok.mpr ⟨first, others, stepped, mapped, rfl⟩⟩

theorem mem_of_mapM_eq_ok {step : α → Except ε β} {inputs : List α} {results : List β} {result : β}
    (mapped : inputs.mapM step = .ok results) (member : result ∈ results) :
    ∃ input ∈ inputs, step input = .ok result := by
  induction inputs generalizing results with
  | nil =>
    cases mapped
    contradiction
  | cons input inputs ih =>
    obtain ⟨first, others, stepped, rest, rfl⟩ := mapM_cons_eq_ok.mp mapped
    rcases List.mem_cons.mp member with rfl | member
    · exact ⟨input, List.mem_cons_self, stepped⟩
    · obtain ⟨found, inside, stepped⟩ := ih rest member
      exact ⟨found, List.mem_cons_of_mem input inside, stepped⟩

theorem mapM_eq_ok_of_imp {step other : α → Except ε β} {inputs : List α} {results : List β}
    (same : ∀ input ∈ inputs, ∀ result, step input = .ok result → other input = .ok result)
    (mapped : inputs.mapM step = .ok results) : inputs.mapM other = .ok results := by
  induction inputs generalizing results with
  | nil => exact mapped
  | cons input inputs ih =>
    obtain ⟨first, others, stepped, rest, rfl⟩ := mapM_cons_eq_ok.mp mapped
    refine mapM_cons_eq_ok.mpr ⟨first, others, same input List.mem_cons_self first stepped, ?_, rfl⟩
    exact ih (fun input member => same input (List.mem_cons_of_mem _ member)) rest

theorem mapM_congr {step other : α → Except ε β} {inputs : List α}
    (same : ∀ input ∈ inputs, step input = other input) : inputs.mapM step = inputs.mapM other := by
  induction inputs with
  | nil => rfl
  | cons input inputs ih =>
    rw [List.mapM_cons, List.mapM_cons, same input List.mem_cons_self,
      ih fun input member => same input (List.mem_cons_of_mem _ member)]

theorem mapM_bind_of_eq_ok {γ ε' : Type} {step : α → Except ε' β} {change : ε' → ε}
    {next : β → Except ε γ} {inputs : List α} {middles : List β}
    (mapped : inputs.mapM step = .ok middles) :
    (inputs.mapM fun input => (step input).mapError change >>= next) = middles.mapM next := by
  -- Two steps for each input, or all first steps before the second ones.
  induction inputs generalizing middles with
  | nil =>
    cases mapped
    rfl
  | cons input inputs ih =>
    obtain ⟨first, others, stepped, rest, rfl⟩ := mapM_cons_eq_ok.mp mapped
    rw [List.mapM_cons, List.mapM_cons, ih rest, mapError_eq_ok.mpr stepped, ok_bind]

end Journal
