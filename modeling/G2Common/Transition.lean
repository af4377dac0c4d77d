import Mathlib.Data.List.Basic
import Mathlib.Logic.Function.Basic

/-!
Runs of deterministic machines that are driven by a list of inputs. An input
that is not enabled in a state leaves that state unchanged, so every list of
inputs has exactly one run and "every interleaving" is "every list of inputs".
Guards restrict the runs: `Meets` says that each step of a run is taken in a
state and on an input that the guard allows.
-/

namespace G2Common.Transition

variable {σ τ ι κ ε γ : Type*}

/-- The state reached from `s` by the inputs, the first one taken first. -/
def run (step : σ → ι → σ) (s : σ) (inputs : List ι) : σ :=
  inputs.foldl step s

@[simp] theorem run_nil (step : σ → ι → σ) (s : σ) : run step s [] = s := rfl

@[simp] theorem run_cons (step : σ → ι → σ) (s : σ) (input : ι) (rest : List ι) :
    run step s (input :: rest) = run step (step s input) rest := rfl

theorem run_append (step : σ → ι → σ) (s : σ) (first second : List ι) :
    run step s (first ++ second) = run step (run step s first) second := List.foldl_append

/-- Each step of the run is allowed by the guard, which sees the state before
the step and the input. -/
def Meets (step : σ → ι → σ) (guard : σ → ι → Prop) : σ → List ι → Prop
  | _, [] => True
  | s, input :: rest => guard s input ∧ Meets step guard (step s input) rest

instance Meets.decidable (step : σ → ι → σ) (guard : σ → ι → Prop)
    [∀ s input, Decidable (guard s input)] :
    ∀ s inputs, Decidable (Meets step guard s inputs)
  | _, [] => isTrue trivial
  | s, input :: rest =>
      have := Meets.decidable step guard (step s input) rest
      inferInstanceAs (Decidable (guard s input ∧ _))

theorem meets_append {step : σ → ι → σ} {guard : σ → ι → Prop} {s : σ}
    {first second : List ι} :
    Meets step guard s (first ++ second) ↔
      Meets step guard s first ∧ Meets step guard (run step s first) second := by
  induction first generalizing s with
  | nil => simp [Meets]
  | cons input rest ih => simp [Meets, ih, and_assoc]

theorem meets_true (step : σ → ι → σ) (s : σ) (inputs : List ι) :
    Meets step (fun _ _ => True) s inputs := by
  induction inputs generalizing s with
  | nil => trivial
  | cons input rest ih => exact ⟨trivial, ih (step s input)⟩

/-- A run is guarded if the guard allows each of its inputs where it is taken. -/
theorem meets_iff_split {step : σ → ι → σ} {guard : σ → ι → Prop} {s : σ} {inputs : List ι} :
    Meets step guard s inputs ↔
      ∀ before input after, inputs = before ++ input :: after →
        guard (run step s before) input := by
  constructor
  · rintro h before input after rfl
    exact (meets_append.mp h).2.1
  · intro h
    induction inputs generalizing s with
    | nil => trivial
    | cons input rest ih =>
        refine ⟨h [] input rest rfl, ih ?_⟩
        rintro before other after rfl
        exact h (input :: before) other after rfl

/-- The induction rule for guarded runs: what every allowed step keeps, every
guarded run keeps. -/
theorem run_invariant {step : σ → ι → σ} {guard : σ → ι → Prop} {inv : σ → Prop}
    (hstep : ∀ s input, inv s → guard s input → inv (step s input))
    {s : σ} {inputs : List ι} (hs : inv s) (h : Meets step guard s inputs) :
    inv (run step s inputs) := by
  induction inputs generalizing s with
  | nil => exact hs
  | cons input rest ih => exact ih (hstep s input hs h.1) h.2

/-- The induction rule for unguarded runs. -/
theorem run_invariant_all {step : σ → ι → σ} {inv : σ → Prop}
    (hstep : ∀ s input, inv s → inv (step s input))
    {s : σ} (hs : inv s) (inputs : List ι) : inv (run step s inputs) :=
  run_invariant (fun s input h _ => hstep s input h) hs (meets_true step s inputs)

/-- Two guards that agree in the states with an invariant allow the same runs. -/
theorem meets_congr {step : σ → ι → σ} {guard guard' : σ → ι → Prop} {inv : σ → Prop}
    (hinv : ∀ s input, inv s → inv (step s input))
    (hguard : ∀ s input, inv s → (guard s input ↔ guard' s input))
    {s : σ} (hs : inv s) (inputs : List ι) :
    Meets step guard s inputs ↔ Meets step guard' s inputs := by
  induction inputs generalizing s with
  | nil => exact Iff.rfl
  | cons input rest ih => rw [Meets, Meets, hguard s input hs, ih (hinv s input hs)]

/-- If a step makes a state good exactly if the state was good and the guard allows
the step, then a run ends in a good state exactly if it is guarded. -/
theorem run_iff_meets {step : σ → ι → σ} {guard : σ → ι → Prop} {inv good : σ → Prop}
    (hinv : ∀ s input, inv s → inv (step s input))
    (hgood : ∀ s input, inv s → (good (step s input) ↔ good s ∧ guard s input))
    {s : σ} (hs : inv s) (inputs : List ι) :
    good (run step s inputs) ↔ good s ∧ Meets step guard s inputs := by
  induction inputs generalizing s with
  | nil => exact (and_iff_left trivial).symm
  | cons input rest ih =>
      rw [run_cons, ih (hinv s input hs), hgood s input hs, Meets, and_assoc]

/-- The number of steps of the run that have a property, which sees the state
before the step and the input. -/
def steps (step : σ → ι → σ) (p : σ → ι → Bool) : σ → List ι → Nat
  | _, [] => 0
  | s, input :: rest => (p s input).toNat + steps step p (step s input) rest

/-- A number that goes up by one in each step with the property. -/
theorem run_counts_up {step : σ → ι → σ} {p : σ → ι → Bool} {number : σ → Nat}
    (hstep : ∀ s input, number (step s input) = number s + (p s input).toNat)
    (s : σ) (inputs : List ι) :
    number (run step s inputs) = number s + steps step p s inputs := by
  induction inputs generalizing s with
  | nil => rfl
  | cons input rest ih =>
      rw [run_cons, ih, hstep, steps, Nat.add_assoc]

/-- A number that goes down by one in each step with the property, on the inputs
that the guard allows. -/
theorem run_counts_down {step : σ → ι → σ} {guard : ι → Prop} {p : σ → ι → Bool}
    {number : σ → Nat}
    (hstep : ∀ s input, guard input → number (step s input) + (p s input).toNat = number s)
    (s : σ) {inputs : List ι} (h : ∀ input ∈ inputs, guard input) :
    number (run step s inputs) + steps step p s inputs = number s := by
  induction inputs generalizing s with
  | nil => rfl
  | cons input rest ih =>
      have hrest := ih (step s input) (fun other hother => h other (List.mem_cons_of_mem _ hother))
      have := hstep s input (h input List.mem_cons_self)
      rw [run_cons, steps]
      omega

/-- A machine together with the log of what happened so far, oldest first. -/
structure Traced (σ ε : Type*) where
  state : σ
  log : List ε

/-- One step of a machine that reports what happened in the step. -/
def Traced.step (machine : σ → ι → σ × List ε) (t : Traced σ ε) (input : ι) :
    Traced σ ε :=
  ⟨(machine t.state input).1, t.log ++ (machine t.state input).2⟩

@[simp] theorem Traced.step_log (machine : σ → ι → σ × List ε) (t : Traced σ ε)
    (input : ι) :
    (t.step machine input).log = t.log ++ (machine t.state input).2 := rfl

/-- The state of a partial automaton after reading a word, `none` once a letter
was refused. -/
def accepts (delta : γ → ε → Option γ) (g : γ) (word : List ε) : Option γ :=
  word.foldlM delta g

@[simp] theorem accepts_nil (delta : γ → ε → Option γ) (g : γ) :
    accepts delta g [] = some g := rfl

@[simp] theorem accepts_cons (delta : γ → ε → Option γ) (g : γ) (letter : ε)
    (rest : List ε) :
    accepts delta g (letter :: rest) =
      (delta g letter).bind (accepts delta · rest) := rfl

theorem accepts_append (delta : γ → ε → Option γ) (g : γ) (first second : List ε) :
    accepts delta g (first ++ second) =
      (accepts delta g first).bind (accepts delta · second) := by
  simp only [accepts, List.foldlM_append]
  rfl

section Latch

variable {sets clears : ε → Bool} {flag : Bool} {log : List ε}

/-- The last letter that sets or clears the flag decides. -/
def latch (sets clears : ε → Bool) (flag : Bool) (log : List ε) : Bool :=
  log.foldl (fun flag e => if sets e then true else if clears e then false else flag) flag

theorem latch_append (first second : List ε) :
    latch sets clears flag (first ++ second) =
      latch sets clears (latch sets clears flag first) second :=
  List.foldl_append

/-- A flag that is up was set in the log, or was up before and not cleared. -/
theorem latch_cases (h : latch sets clears flag log = true) :
    (∃ e ∈ log, sets e = true) ∨ (flag = true ∧ ∀ e ∈ log, clears e = false) := by
  induction log generalizing flag with
  | nil => exact .inr ⟨h, by simp⟩
  | cons e rest ih =>
      rcases ih h with ⟨e', he', hsets⟩ | ⟨hflag, hclears⟩
      · exact .inl ⟨e', List.mem_cons_of_mem _ he', hsets⟩
      · cases hset : sets e with
        | true => exact .inl ⟨e, List.mem_cons_self, hset⟩
        | false =>
            cases hclear : clears e with
            | true => simp [hset, hclear] at hflag
            | false =>
                refine .inr ⟨by simpa [hset, hclear] using hflag, ?_⟩
                intro e' he'
                rcases List.mem_cons.mp he' with rfl | he'
                · exact hclear
                · exact hclears e' he'

theorem latch_stays (hclears : ∀ e ∈ log, clears e = false) (hflag : flag = true) :
    latch sets clears flag log = true := by
  induction log generalizing flag with
  | nil => exact hflag
  | cons e rest ih =>
      apply ih (fun e' he' => hclears e' (List.mem_cons_of_mem _ he'))
      simp [hflag, hclears e List.mem_cons_self]

theorem latch_set (hclears : ∀ e ∈ log, clears e = false)
    (hset : ∃ e ∈ log, sets e = true) : latch sets clears flag log = true := by
  obtain ⟨e, he, hsets⟩ := hset
  obtain ⟨before, after, rfl⟩ := List.append_of_mem he
  rw [latch_append]
  change latch sets clears (if sets e = true then true else _) after = true
  rw [if_pos hsets]
  exact latch_stays (fun e' he' => hclears e' (by simp [he'])) rfl

end Latch

end G2Common.Transition
