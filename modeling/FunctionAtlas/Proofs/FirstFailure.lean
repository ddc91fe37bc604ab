import Mathlib.Data.List.Forall2

/-!
Contract: results that are computed one after the other up to the first failure.

Owns: when such a computation succeeds, what it gives, and which failure it ends with.
-/

namespace FunctionAtlas.FirstFailure

variable {Failure Input Result : Type} {compute : Input → Except Failure Result}

/-- Changing results changes no failures. -/
theorem map_eq_error_iff {Other : Type} (change : Result → Other)
    (computed : Except Failure Result) (failure : Failure) :
    computed.map change = .error failure ↔ computed = .error failure := by
  cases computed <;> simp [Except.map]

theorem mapM_cons_eq_match (input : Input) (rest : List Input) :
    (input :: rest).mapM compute =
      match compute input with
      | .error failure => .error failure
      | .ok result => (rest.mapM compute).map fun results => result :: results := by
  rw [List.mapM_cons]
  cases compute input with
  | error failure => rfl
  | ok result => cases rest.mapM compute <;> rfl

theorem mapM_append_eq_match (first second : List Input) :
    (first ++ second).mapM compute =
      match first.mapM compute with
      | .error failure => .error failure
      | .ok results => (second.mapM compute).map fun others => results ++ others := by
  rw [List.mapM_append]
  cases first.mapM compute with
  | error failure => rfl
  | ok results => cases second.mapM compute <;> rfl

/-- Success means one result for each input, in order. -/
theorem mapM_eq_ok_iff (inputs : List Input) (results : List Result) :
    inputs.mapM compute = .ok results ↔
      List.Forall₂ (fun input result => compute input = .ok result) inputs results := by
  induction inputs generalizing results with
  | nil =>
      rw [List.mapM_nil, List.forall₂_nil_left_iff]
      exact ⟨fun equal => (Except.ok.inj equal).symm, fun equal => by rw [equal]; rfl⟩
  | cons input rest inductionHypothesis =>
      rw [mapM_cons_eq_match, List.forall₂_cons_left_iff]
      cases computed : compute input with
      | error failure => simp
      | ok result =>
          cases others : rest.mapM compute with
          | error failure =>
              have noResults := fun results =>
                (inductionHypothesis results).not.mp (by simp [others])
              simp [Except.map, noResults]
          | ok values =>
              have onlyResults := fun results => inductionHypothesis results
              simp only [others, Except.ok.injEq] at onlyResults
              simp [Except.map, ← onlyResults, eq_comm]

/-- Success means that the results are those of a function that never fails. -/
theorem mapM_eq_ok_iff_map [Inhabited Result] (inputs : List Input) (results : List Result) :
    inputs.mapM compute = .ok results ↔
      ∃ total : Input → Result, results = inputs.map total ∧
        ∀ input ∈ inputs, compute input = .ok (total input) := by
  rw [mapM_eq_ok_iff]
  constructor
  · intro computed
    let total : Input → Result := fun input => (compute input).toOption.getD default
    have isTotal : inputs.map total = results := by
      rw [← List.forall₂_eq_eq_eq, List.forall₂_map_left_iff]
      refine computed.imp fun input result isResult => ?_
      simp [total, isResult, Except.toOption]
    rw [← isTotal, List.forall₂_map_right_iff, List.forall₂_same] at computed
    exact ⟨total, isTotal.symm, computed⟩
  · rintro ⟨total, rfl, computed⟩
    rwa [List.forall₂_map_right_iff, List.forall₂_same]

/-- A computation succeeds if it succeeds on every input. -/
theorem exists_mapM_eq_ok_iff (inputs : List Input) :
    (∃ results, inputs.mapM compute = .ok results) ↔
      ∀ input ∈ inputs, ∃ result, compute input = .ok result := by
  induction inputs with
  | nil => exact ⟨fun _ _ member => absurd member List.not_mem_nil, fun _ => ⟨[], rfl⟩⟩
  | cons input rest inductionHypothesis =>
      rw [List.forall_mem_cons, ← inductionHypothesis, mapM_cons_eq_match]
      cases compute input with
      | error failure => simp
      | ok result => cases rest.mapM compute <;> simp [Except.map]

/-- A computation fails if it fails on some input. -/
theorem exists_mapM_eq_error_iff (inputs : List Input) :
    (∃ failure, inputs.mapM compute = .error failure) ↔
      ∃ input ∈ inputs, ∃ failure, compute input = .error failure := by
  have eitherWay : ∀ {Value : Type} (computed : Except Failure Value),
      (∃ failure, computed = .error failure) ↔ ¬ ∃ value, computed = .ok value := by
    intro Value computed
    cases computed <;> simp
  simp only [eitherWay, exists_mapM_eq_ok_iff, not_forall, exists_prop]

/-- A computation ends with the failure of the first input that fails. -/
theorem mapM_eq_error_iff (inputs : List Input) (failure : Failure) :
    inputs.mapM compute = .error failure ↔
      ∃ before input after, inputs = before ++ input :: after ∧
        (∀ earlier ∈ before, ∃ result, compute earlier = .ok result) ∧
        compute input = .error failure := by
  induction inputs with
  | nil => simp [pure, Except.pure]
  | cons first rest inductionHypothesis =>
      rw [mapM_cons_eq_match]
      cases computed : compute first with
      | error found =>
          constructor
          · intro equal
            cases equal
            exact ⟨[], first, rest, rfl, by simp, computed⟩
          · rintro ⟨before, input, after, split, earlier, fails⟩
            cases before with
            | nil =>
                cases split
                rw [← computed, fails]
            | cons head tail =>
                cases split
                obtain ⟨result, succeeds⟩ := earlier first List.mem_cons_self
                rw [computed] at succeeds
                cases succeeds
      | ok result =>
          simp only [map_eq_error_iff]
          rw [inductionHypothesis]
          constructor
          · rintro ⟨before, input, after, split, earlier, fails⟩
            refine ⟨first :: before, input, after, by rw [split]; rfl, ?_, fails⟩
            exact List.forall_mem_cons.mpr ⟨⟨result, computed⟩, earlier⟩
          · rintro ⟨before, input, after, split, earlier, fails⟩
            cases before with
            | nil =>
                cases split
                rw [computed] at fails
                cases fails
            | cons head tail =>
                cases split
                exact ⟨tail, input, after, rfl, (List.forall_mem_cons.mp earlier).2, fails⟩

end FunctionAtlas.FirstFailure
