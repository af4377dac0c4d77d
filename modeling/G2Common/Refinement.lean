import G2Common.Transition

/-!
Machines that report one event in each step. A machine that works on memory may
fault, and is proved correct against one that cannot: step by step it does not
fault, and reports what the other one reports.
-/

namespace G2Common.Transition

variable {σ τ ι ε : Type*}

/-- One step of a machine that may fault. Nothing happens after a fault. -/
def Traced.attempt (machine : σ → ι → Option (σ × ε)) (t : Traced (Option σ) ε) (input : ι) :
    Traced (Option σ) ε :=
  match t.state.bind (machine · input) with
  | some result => ⟨some result.1, t.log ++ [result.2]⟩
  | none => ⟨none, t.log⟩

/-- One step of a machine that cannot fault. -/
def Traced.emit (machine : σ → ι → σ × ε) (t : Traced σ ε) (input : ι) : Traced σ ε :=
  ⟨(machine t.state input).1, t.log ++ [(machine t.state input).2]⟩

section Refinement

variable {machine : σ → ι → Option (σ × ε)} {spec : τ → ι → τ × ε} {R : σ → τ → Prop}

/-- The machine does not fault where `R` relates it to the specification, and
does what the specification says. -/
def Refines (machine : σ → ι → Option (σ × ε)) (spec : τ → ι → τ × ε) (R : σ → τ → Prop) : Prop :=
  ∀ s t input, R s t →
    ∃ s', machine s input = some (s', (spec t input).2) ∧ R s' (spec t input).1

theorem Refines.attempt (h : Refines machine spec R) {s : σ} {t : τ} (hR : R s t) (log : List ε)
    (input : ι) :
    ∃ s', Traced.attempt machine ⟨some s, log⟩ input =
        ⟨some s', (Traced.emit spec ⟨t, log⟩ input).log⟩ ∧
      R s' (Traced.emit spec ⟨t, log⟩ input).state := by
  obtain ⟨s', hs', hR'⟩ := h s t input hR
  refine ⟨s', ?_, hR'⟩
  simp only [Traced.attempt, Option.bind_some, hs']
  rfl

/-- The simulation rule: a run of the machine ends without a fault, with the log
of the specification's run and in a related state. -/
theorem Refines.run (h : Refines machine spec R) {s : σ} {t : τ} (hR : R s t) (log : List ε)
    (inputs : List ι) :
    ∃ s', run (Traced.attempt machine) ⟨some s, log⟩ inputs =
        ⟨some s', (run (Traced.emit spec) ⟨t, log⟩ inputs).log⟩ ∧
      R s' (run (Traced.emit spec) ⟨t, log⟩ inputs).state := by
  induction inputs generalizing s t log with
  | nil => exact ⟨s, rfl, hR⟩
  | cons input rest ih =>
      obtain ⟨s', hs', hR'⟩ := h.attempt hR log input
      rw [run_cons, run_cons, hs']
      exact ih hR' _

end Refinement

end G2Common.Transition
