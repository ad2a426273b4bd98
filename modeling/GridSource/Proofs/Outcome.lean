import Mathlib.Data.List.Forall2

/-!
# Steps that may fail

A run of steps succeeds exactly when every step does, and fails where the first of
them fails.  These lemmas split a run into its steps.
-/

namespace GridSource.Outcome

variable {ε ε' α β : Type}

@[simp]
theorem ok_bind (value : α) (next : α → Except ε β) : (Except.ok value >>= next) = next value :=
  rfl

@[simp]
theorem error_bind (failure : ε) (next : α → Except ε β) :
    (Except.error failure >>= next) = .error failure :=
  rfl

@[simp]
theorem mapError_ok (relabel : ε → ε') (value : α) :
    (Except.ok value : Except ε α).mapError relabel = .ok value :=
  rfl

@[simp]
theorem mapError_error (relabel : ε → ε') (failure : ε) :
    (Except.error failure : Except ε α).mapError relabel = .error (relabel failure) :=
  rfl

@[simp]
theorem bind_eq_ok_iff {first : Except ε α} {next : α → Except ε β} {result : β} :
    (first >>= next) = .ok result ↔ ∃ value, first = .ok value ∧ next value = .ok result := by
  cases first <;> simp

theorem bind_eq_error_iff {first : Except ε α} {next : α → Except ε β} {failure : ε} :
    (first >>= next) = .error failure ↔
      first = .error failure ∨ ∃ value, first = .ok value ∧ next value = .error failure := by
  cases first <;> simp

@[simp]
theorem pure_ne_error (value : α) (failure : ε) : (pure value : Except ε α) ≠ .error failure := by
  simp [pure, Except.pure]

/-- One step after another does not fail with what neither of them fails with. -/
theorem bind_ne_error {first : Except ε α} {next : α → Except ε β} {failure : ε}
    (hfirst : first ≠ .error failure) (hnext : ∀ value, next value ≠ .error failure) :
    (first >>= next) ≠ .error failure := by
  rw [ne_eq, bind_eq_error_iff]
  rintro (hfailure | ⟨value, -, hfailure⟩)
  · exact hfirst hfailure
  · exact hnext value hfailure

@[simp]
theorem map_eq_ok_iff {f : α → β} {outcome : Except ε α} {result : β} :
    outcome.map f = .ok result ↔ ∃ value, outcome = .ok value ∧ f value = result := by
  cases outcome <;> simp [Except.map]

@[simp]
theorem map_eq_error_iff {f : α → β} {outcome : Except ε α} {failure : ε} :
    outcome.map f = .error failure ↔ outcome = .error failure := by
  cases outcome <;> simp [Except.map]

theorem mapError_eq_error_iff {relabel : ε → ε'} {outcome : Except ε α} {failure : ε'} :
    outcome.mapError relabel = .error failure ↔
      ∃ cause, outcome = .error cause ∧ relabel cause = failure := by
  cases outcome <;> simp

@[simp]
theorem mapError_eq_ok_iff {relabel : ε → ε'} {outcome : Except ε α} {result : α} :
    outcome.mapError relabel = .ok result ↔ outcome = .ok result := by
  cases outcome <;> simp

/-- A list of steps succeeds when each of its items does. -/
theorem mapM_eq_ok_iff {step : α → Except ε β} {items : List α} {results : List β} :
    items.mapM step = .ok results ↔
      List.Forall₂ (fun item result => step item = .ok result) items results := by
  induction items generalizing results with
  | nil =>
      rw [List.mapM_nil, List.forall₂_nil_left_iff]
      exact ⟨fun h => (Except.ok.inj h).symm, fun h => h ▸ rfl⟩
  | cons item items ih =>
      rw [List.mapM_cons, bind_eq_ok_iff, List.forall₂_cons_left_iff]
      constructor
      · rintro ⟨result, hresult, hrest⟩
        obtain ⟨others, hothers, heq⟩ := bind_eq_ok_iff.mp hrest
        exact ⟨result, others, hresult, ih.mp hothers, (Except.ok.inj heq).symm⟩
      · rintro ⟨result, others, hresult, hothers, rfl⟩
        exact ⟨result, hresult, bind_eq_ok_iff.mpr ⟨others, ih.mpr hothers, rfl⟩⟩

/-- A list of steps that succeeds has taken every one of them. -/
theorem exists_of_mem_of_mapM {step : α → Except ε β} {items : List α} {results : List β}
    (hresults : items.mapM step = .ok results) {item : α} (hitem : item ∈ items) :
    ∃ result, step item = .ok result := by
  induction mapM_eq_ok_iff.mp hresults with
  | nil => contradiction
  | @cons first result rest others hfirst hrest ih =>
      rcases List.mem_cons.mp hitem with rfl | hitem
      · exact ⟨result, hfirst⟩
      · exact ih (mapM_eq_ok_iff.mpr hrest) hitem

/-- A list of steps fails as one of them does. -/
theorem exists_of_mapM_eq_error {step : α → Except ε β} {items : List α} {failure : ε}
    (hfailure : items.mapM step = .error failure) : ∃ item ∈ items, step item = .error failure := by
  induction items with
  | nil => contradiction
  | cons first rest ih =>
      rw [List.mapM_cons, bind_eq_error_iff] at hfailure
      rcases hfailure with hfirst | ⟨result, -, hfailure⟩
      · exact ⟨first, List.mem_cons_self, hfirst⟩
      · rcases bind_eq_error_iff.mp hfailure with hrest | ⟨others, -, hdone⟩
        · obtain ⟨item, hitem, hstep⟩ := ih hrest
          exact ⟨item, List.mem_cons_of_mem _ hitem, hstep⟩
        · contradiction

theorem mapM_ne_error {step : α → Except ε β} {items : List α} {failure : ε}
    (hstep : ∀ item ∈ items, step item ≠ .error failure) : items.mapM step ≠ .error failure := by
  intro hfailure
  obtain ⟨item, hitem, hfailure⟩ := exists_of_mapM_eq_error hfailure
  exact hstep item hitem hfailure

theorem exists_mapM_eq_ok_iff {step : α → Except ε β} {items : List α} :
    (∃ results, items.mapM step = .ok results) ↔
      ∀ item ∈ items, ∃ result, step item = .ok result := by
  refine ⟨fun ⟨results, hresults⟩ item hitem => exists_of_mem_of_mapM hresults hitem, ?_⟩
  intro hitems
  cases houtcome : items.mapM step with
  | ok results => exact ⟨results, rfl⟩
  | error failure =>
      obtain ⟨item, hitem, hstep⟩ := exists_of_mapM_eq_error houtcome
      obtain ⟨result, hresult⟩ := hitems item hitem
      rw [hresult] at hstep
      contradiction

/-- A list of steps fails with the first of them that does. -/
theorem mapM_eq_error {step : α → Except ε β} {before after : List α} {item : α} {failure : ε}
    (hbefore : ∀ earlier ∈ before, ∃ result, step earlier = .ok result)
    (hfailure : step item = .error failure) :
    (before ++ item :: after).mapM step = .error failure := by
  induction before with
  | nil =>
      rw [List.nil_append, List.mapM_cons, hfailure]
      rfl
  | cons earlier rest ih =>
      obtain ⟨result, hresult⟩ := hbefore earlier List.mem_cons_self
      rw [List.cons_append, List.mapM_cons, hresult, ok_bind,
        ih fun other hother => hbefore other (List.mem_cons_of_mem _ hother)]
      rfl

end GridSource.Outcome
