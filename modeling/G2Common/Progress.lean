import G2Common.Transition

/-!
Runs told by their steps. A measure that no step raises, and that each turn of a party lowers,
is used up after as many turns, in whatever order the other steps come. And what the steps
contribute, such as the requests that were taken, says in what state a run ends.
-/

namespace G2Common.Transition

variable {σ ι ε γ : Type*} {step : σ → ι → σ} {machine : σ → ι → σ × List ε} {inv : σ → Prop}

/-- The turns of the party are taken off the measure. -/
theorem run_measure_le (turn : ι → Bool) (measure : σ → Nat)
    (hinv : ∀ s input, inv s → inv (step s input))
    (hle : ∀ s input, inv s → measure (step s input) ≤ measure s - (turn input).toNat)
    {s : σ} (hs : inv s) (inputs : List ι) :
    measure (run step s inputs) ≤ measure s - inputs.countP turn := by
  induction inputs generalizing s with
  | nil => exact Nat.le_refl _
  | cons input rest ih =>
      have hrest := ih (hinv s input hs)
      have hstep := hle s input hs
      rw [run_cons, List.countP_cons]
      cases h : turn input with
      | true =>
          rw [h, Bool.toNat_true] at hstep
          simp only [if_true]
          omega
      | false =>
          rw [h, Bool.toNat_false] at hstep
          simp only [Bool.false_eq_true, if_false]
          omega

/-- A budget that each step pays from for the letters it adds to the log. -/
theorem run_countP_le (p : ε → Bool) (budget : σ → Nat)
    (hinv : ∀ s input, inv s → inv (machine s input).1)
    (hpay : ∀ s input, inv s →
      (machine s input).2.countP p + budget (machine s input).1 ≤ budget s)
    {t : Traced σ ε} (ht : inv t.state) (inputs : List ι) :
    (run (Traced.step machine) t inputs).log.countP p +
        budget (run (Traced.step machine) t inputs).state ≤
      t.log.countP p + budget t.state := by
  induction inputs generalizing t with
  | nil => exact Nat.le_refl _
  | cons input rest ih =>
      have hrest := ih (t := t.step machine input) (hinv t.state input ht)
      have hstep := hpay t.state input ht
      rw [Traced.step_log, List.countP_append] at hrest
      change _ ≤ _ + budget (machine t.state input).1 at hrest
      rw [run_cons]
      omega

/-- What is sent is pending until it is in the log, in this order. -/
theorem run_delivers (pending : σ → List γ) {done : ε → Option γ} {sent : ι → List γ}
    {p : ι → Prop}
    (hstep : ∀ s input, p input →
      (machine s input).2.filterMap done ++ pending (machine s input).1 = pending s ++ sent input)
    {t : Traced σ ε} {inputs : List ι} (h : ∀ input ∈ inputs, p input) :
    (run (Traced.step machine) t inputs).log.filterMap done ++
        pending (run (Traced.step machine) t inputs).state =
      t.log.filterMap done ++ pending t.state ++ inputs.flatMap sent := by
  induction inputs generalizing t with
  | nil => rw [run_nil, List.flatMap_nil, List.append_nil]
  | cons input rest ih =>
      obtain ⟨hinput, hrest⟩ := List.forall_mem_cons.mp h
      rw [run_cons, ih hrest, Traced.step_log, List.filterMap_append, List.flatMap_cons]
      change _ ++ _ ++ pending (machine t.state input).1 ++ _ = _
      rw [List.append_assoc (t.log.filterMap done), hstep t.state input hinput]
      simp only [List.append_assoc]

/-- What the steps of the run contribute, each told by the state before it and its input. -/
def contributions (step : σ → ι → σ) (yields : σ → ι → List γ) : σ → List ι → List γ
  | _, [] => []
  | s, input :: rest => yields s input ++ contributions step yields (step s input) rest

/-- What each step that the guard allows keeps, with its contribution added, every run keeps. -/
theorem run_contributions {yields : σ → ι → List γ} {inv : σ → List γ → Prop}
    {guard : σ → ι → Prop}
    (hstep : ∀ s input given, inv s given → guard s input →
      inv (step s input) (given ++ yields s input))
    {s : σ} {given : List γ} (hs : inv s given) {inputs : List ι} (h : Meets step guard s inputs) :
    inv (run step s inputs) (given ++ contributions step yields s inputs) := by
  induction inputs generalizing s given with
  | nil =>
      rw [contributions, List.append_nil]
      exact hs
  | cons input rest ih =>
      rw [run_cons, contributions, ← List.append_assoc]
      apply ih
      · exact hstep s input given hs h.1
      · exact h.2

/-- Contributions that are told by the inputs. -/
theorem contributions_eq_flatMap (step : σ → ι → σ) (f : ι → List γ) (s : σ) (inputs : List ι) :
    contributions step (fun _ input => f input) s inputs = inputs.flatMap f := by
  induction inputs generalizing s with
  | nil => rfl
  | cons input rest ih => rw [contributions, ih, List.flatMap_cons]

/-- A guard that looks at the inputs only. -/
theorem meets_of_forall {p : ι → Prop} (step : σ → ι → σ) (s : σ) {inputs : List ι}
    (h : ∀ input ∈ inputs, p input) : Meets step (fun _ input => p input) s inputs := by
  induction inputs generalizing s with
  | nil => trivial
  | cons input rest ih =>
      constructor
      · exact h input List.mem_cons_self
      · exact ih (step s input) fun other hother => h other (List.mem_cons_of_mem _ hother)

end G2Common.Transition
