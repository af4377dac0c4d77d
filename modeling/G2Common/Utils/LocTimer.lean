import G2Common.Transition

/-!
The timer of `loc_timer.c`: one `timer_thread`, and any number of calls of
`loc_timer_stop` while the handle is live. A critical section is one step. The
wait of the thread ends at any time, with or without a signal, and before the
thread has the mutex again other threads may take it. The time itself is not
modelled.
-/

namespace G2Common.Utils

open Transition

/-- `enum timer_state`. -/
inductive TimerState where
  | ready | waiting | done | abort
  deriving DecidableEq, Repr

def ETIMEDOUT : Int := 110

/-- Where `timer_thread` is, with the value of `ret` where it is read later. -/
inductive Phase where
  | start
  | waiting
  /-- The wait has ended, and the thread has not re-acquired the mutex yet. -/
  | woken (ret : Int)
  | unlocked (ret : Int)
  | called
  | ended
  deriving DecidableEq, Repr

/-- `timer_data`, the thread, and the threads in `loc_timer_stop` that have passed
its first check. -/
structure Timer where
  state : TimerState
  phase : Phase
  stopping : List Nat
  deriving DecidableEq, Repr

inductive TimerEvent where
  /-- `loc_timer_stop` sets the state to `ABORT`. -/
  | abort
  | callback (ret : Int)
  deriving DecidableEq, Repr

namespace Timer

/-- `loc_timer_start`. -/
def init : Timer := ⟨.ready, .start, []⟩

def stoppable (s : Timer) : Bool := s.state = .ready ∨ s.state = .waiting

/-- `timer_thread` takes the mutex, and waits or gives it back. -/
def lock (s : Timer) : Timer :=
  match s.phase with
  | .start =>
      if s.state = .ready then { s with state := .waiting, phase := .waiting }
      else { s with phase := .unlocked (-ETIMEDOUT) }
  | _ => s

/-- The wait times out, or returns 0 without a signal. -/
def leave (s : Timer) (timedOut : Bool) : Timer :=
  match s.phase with
  | .waiting => { s with phase := .woken (if timedOut then ETIMEDOUT else 0) }
  | _ => s

/-- The thread has the mutex again, and gives it back. -/
def relock (s : Timer) : Timer :=
  match s.phase with
  | .woken ret => { s with state := .done, phase := .unlocked ret }
  | _ => s

def callback (s : Timer) : Timer × List TimerEvent :=
  match s.phase with
  | .unlocked ret => ({ s with phase := .called }, if ret = ETIMEDOUT then [.callback ret] else [])
  | _ => (s, [])

/-- The thread frees the handle. -/
def exit (s : Timer) : Timer :=
  match s.phase with
  | .called => { s with phase := .ended }
  | _ => s

/-- `loc_timer_stop` up to the mutex. -/
def stop (s : Timer) (thread : Nat) : Timer :=
  if s.phase ≠ .ended ∧ s.stoppable then { s with stopping := thread :: s.stopping } else s

/-- The signal ends the wait, if the thread is in it. -/
def signal (s : Timer) : Timer :=
  match s.phase with
  | .waiting => { s with phase := .woken 0 }
  | _ => s

/-- The critical section of `loc_timer_stop`. -/
def stopLocked (s : Timer) (thread : Nat) : Timer × List TimerEvent :=
  if s.phase ≠ .ended ∧ thread ∈ s.stopping then
    let s := { s with stopping := s.stopping.erase thread }
    if s.stoppable then ({ s.signal with state := .abort }, [.abort]) else (s, [])
  else (s, [])

inductive Input where
  | lock | leave (timedOut : Bool) | relock | callback | exit
  | stop (thread : Nat) | stopLocked (thread : Nat)
  deriving DecidableEq, Repr

def machine (s : Timer) : Input → Timer × List TimerEvent
  | .lock => (s.lock, [])
  | .leave timedOut => (s.leave timedOut, [])
  | .relock => (s.relock, [])
  | .callback => s.callback
  | .exit => (s.exit, [])
  | .stop thread => (s.stop thread, [])
  | .stopLocked thread => s.stopLocked thread

abbrev Run := Traced Timer TimerEvent

def step : Run → Input → Run := Traced.step machine

/-- A new timer after these steps. -/
def after (inputs : List Input) : Run := run step ⟨init, []⟩ inputs

/-- No callback after an `ABORT`; and without one, exactly one callback of a thread
that has ended. -/
def FiresUnlessStopped (t : Run) : Prop :=
  (∀ before rest, t.log = before ++ .abort :: rest → ∀ ret, .callback ret ∉ rest) ∧
    (.abort ∉ t.log → t.state.phase = .ended → ∃ ret, t.log = [.callback ret])

/-- No call of `loc_timer_stop` finds the thread between its time-out and the
mutex; and if the wait returned 0 then there is such a call before the thread has
the mutex again. -/
def agrees (t : Run) : Input → Prop
  | .stopLocked thread =>
      thread ∈ t.state.stopping → t.state.stoppable → t.state.phase ≠ .woken ETIMEDOUT
  | .relock => t.state.phase = .woken 0 → t.state.state = .abort
  | _ => True

instance (t : Run) : ∀ input, Decidable (agrees t input)
  | .stopLocked _ => inferInstanceAs (Decidable (_ → _ → _))
  | .relock => inferInstanceAs (Decidable (_ → _))
  | .lock | .leave _ | .callback | .exit | .stop _ => isTrue trivial

/-- What the log can be in each phase. The state is set to `ABORT` only once, since
it is not `READY` or `WAITING` from then on. -/
def Inv (t : Run) : Prop :=
  match t.state.phase with
  | .start =>
      (t.state.state = .ready ∧ t.log = []) ∨ (t.state.state = .abort ∧ t.log = [.abort])
  | .waiting => t.state.state = .waiting ∧ t.log = []
  | .woken ret =>
      (ret = 0 ∨ ret = ETIMEDOUT) ∧
        ((t.state.state = .waiting ∧ t.log = []) ∨ (t.state.state = .abort ∧ t.log = [.abort]))
  | .unlocked _ => t.state.stoppable = false ∧ (t.log = [] ∨ t.log = [.abort])
  | .called | .ended =>
      t.state.stoppable = false ∧
        (t.log = [] ∨ t.log = [.abort] ∨ t.log = [.callback ETIMEDOUT] ∨
          t.log = [.abort, .callback ETIMEDOUT])

/-- The value that the wait returned and the state have not disagreed so far. -/
def Agreed (t : Run) : Prop :=
  match t.state.phase with
  | .start | .waiting => True
  | .woken ret => ret = ETIMEDOUT → t.log = []
  | .unlocked ret => ret = ETIMEDOUT ↔ t.log = []
  | .called | .ended => t.log = [.abort] ∨ t.log = [.callback ETIMEDOUT]

/-- The step keeps the invariant, and is the first disagreement or none. -/
def Follows (t : Run) (input : Input) : Prop :=
  Inv (step t input) ∧ (Agreed (step t input) ↔ Agreed t ∧ agrees t input)

theorem follows_idle {t : Run} {input : Input} (h : Inv t) (hstep : step t input = t)
    (hagrees : agrees t input) : Follows t input := by
  rw [Follows, hstep]
  exact ⟨h, (and_iff_left hagrees).symm⟩

theorem lock_follows {t : Run} (h : Inv t) : Follows t .lock := by
  obtain ⟨⟨state, phase, stopping⟩, log⟩ := t
  cases phase with
  | start =>
      rcases h with ⟨rfl, rfl⟩ | ⟨rfl, rfl⟩ <;>
        simp [Follows, Inv, Agreed, agrees, step, Traced.step, machine, lock, stoppable, ETIMEDOUT]
  | _ => exact follows_idle h (by simp [step, Traced.step, machine, lock]) trivial

theorem leave_follows {t : Run} (h : Inv t) (timedOut : Bool) : Follows t (.leave timedOut) := by
  obtain ⟨⟨state, phase, stopping⟩, log⟩ := t
  cases phase with
  | waiting =>
      obtain ⟨rfl, rfl⟩ := h
      cases timedOut <;>
        simp [Follows, Inv, Agreed, agrees, step, Traced.step, machine, leave]
  | _ => exact follows_idle h (by simp [step, Traced.step, machine, leave]) trivial

theorem relock_follows {t : Run} (h : Inv t) : Follows t .relock := by
  obtain ⟨⟨state, phase, stopping⟩, log⟩ := t
  cases phase with
  | woken ret =>
      obtain ⟨rfl | rfl, ⟨rfl, rfl⟩ | ⟨rfl, rfl⟩⟩ := h <;>
        simp [Follows, Inv, Agreed, agrees, step, Traced.step, machine, relock, stoppable,
          ETIMEDOUT]
  | _ => exact follows_idle h (by simp [step, Traced.step, machine, relock]) (by simp [agrees])

theorem callback_follows {t : Run} (h : Inv t) : Follows t .callback := by
  obtain ⟨⟨state, phase, stopping⟩, log⟩ := t
  cases phase with
  | unlocked ret =>
      obtain ⟨hstate, rfl | rfl⟩ := h <;> by_cases hret : ret = ETIMEDOUT <;>
        simpa [Follows, Inv, Agreed, agrees, step, Traced.step, machine, callback, hret, stoppable]
          using hstate
  | _ => exact follows_idle h (by simp [step, Traced.step, machine, callback]) trivial

theorem exit_follows {t : Run} (h : Inv t) : Follows t .exit := by
  obtain ⟨⟨state, phase, stopping⟩, log⟩ := t
  cases phase with
  | called =>
      have hstep : step ⟨⟨state, .called, stopping⟩, log⟩ .exit =
          ⟨⟨state, .ended, stopping⟩, log⟩ := by
        simp [step, Traced.step, machine, exit]
      rw [Follows, hstep]
      exact ⟨h, (and_iff_left trivial).symm⟩
  | _ => exact follows_idle h (by simp [step, Traced.step, machine, exit]) trivial

theorem stop_follows {t : Run} (h : Inv t) (thread : Nat) : Follows t (.stop thread) := by
  have hstep : step t (.stop thread) = ⟨t.state.stop thread, t.log⟩ := by
    simp [step, Traced.step, machine]
  rw [Follows, hstep]
  unfold stop
  split <;> exact ⟨h, (and_iff_left trivial).symm⟩

theorem stopLocked_eq {s : Timer} {thread : Nat} (hended : s.phase ≠ .ended)
    (hthread : thread ∈ s.stopping) (hstop : s.stoppable = true) :
    s.stopLocked thread =
      (⟨.abort, s.signal.phase, s.stopping.erase thread⟩, [.abort]) := by
  obtain ⟨state, phase, stopping⟩ := s
  cases phase <;> simp_all [stopLocked, stoppable, signal]

theorem stopLocked_follows {t : Run} (h : Inv t) (thread : Nat) :
    Follows t (.stopLocked thread) := by
  obtain ⟨s, log⟩ := t
  by_cases henabled : s.phase ≠ .ended ∧ thread ∈ s.stopping
  · cases hstop : s.stoppable with
    | false =>
        have hstep : step ⟨s, log⟩ (.stopLocked thread) =
            ⟨{ s with stopping := s.stopping.erase thread }, log⟩ := by
          have hstop' : stoppable { s with stopping := s.stopping.erase thread } = false := hstop
          simp [step, Traced.step, machine, stopLocked, henabled, hstop']
        have hagrees : agrees ⟨s, log⟩ (.stopLocked thread) := by
          intro _ hstop'
          rw [hstop] at hstop'
          cases hstop'
        rw [Follows, hstep]
        exact ⟨h, (and_iff_left hagrees).symm⟩
    | true =>
        have hstep : step ⟨s, log⟩ (.stopLocked thread) =
            ⟨⟨.abort, s.signal.phase, s.stopping.erase thread⟩, log ++ [.abort]⟩ := by
          simp [step, Traced.step, machine, stopLocked_eq henabled.1 henabled.2 hstop]
        have hagrees : agrees ⟨s, log⟩ (.stopLocked thread) ↔ s.phase ≠ .woken ETIMEDOUT :=
          ⟨fun hall => hall henabled.2 hstop, fun hphase _ _ => hphase⟩
        rw [Follows, hstep, hagrees]
        obtain ⟨state, phase, stopping⟩ := s
        cases phase with
        | start =>
            rcases h with ⟨rfl, rfl⟩ | ⟨rfl, rfl⟩
            · simp [Inv, Agreed, signal]
            · simp [stoppable] at hstop
        | waiting =>
            obtain ⟨rfl, rfl⟩ := h
            simp [Inv, Agreed, signal, ETIMEDOUT]
        | woken ret =>
            rcases h with ⟨hret, ⟨rfl, rfl⟩ | ⟨rfl, rfl⟩⟩
            · simp [Inv, Agreed, signal, hret]
            · simp [stoppable] at hstop
        | unlocked ret => simp [h.1] at hstop
        | called => simp [h.1] at hstop
        | ended => exact absurd rfl henabled.1
  · apply follows_idle h
    · simp [step, Traced.step, machine, stopLocked, henabled]
    · intro hthread _ hphase
      exact henabled ⟨by rw [hphase]; simp, hthread⟩

theorem follows {t : Run} (h : Inv t) (input : Input) : Follows t input := by
  cases input with
  | lock => exact lock_follows h
  | leave timedOut => exact leave_follows h timedOut
  | relock => exact relock_follows h
  | callback => exact callback_follows h
  | exit => exact exit_follows h
  | stop thread => exact stop_follows h thread
  | stopLocked thread => exact stopLocked_follows h thread

theorem inv_init : Inv ⟨init, []⟩ := Or.inl ⟨rfl, rfl⟩

theorem inv_after (inputs : List Input) : Inv (after inputs) := by
  apply run_invariant_all _ inv_init
  exact fun t input h => (follows h input).1

theorem agreed_after (inputs : List Input) :
    Agreed (after inputs) ↔ Meets step agrees ⟨init, []⟩ inputs := by
  have hrun := run_iff_meets (fun _ input h => (follows h input).1)
    (fun _ input h => (follows h input).2) inv_init inputs
  rw [after, hrun]
  exact and_iff_right trivial

/-- What the log must be, whatever comes next. -/
theorem fires_of_log {t : Run}
    (h : (t.log = [] ∧ t.state.phase ≠ .ended) ∨ t.log = [.abort] ∨
      t.log = [.callback ETIMEDOUT]) : FiresUnlessStopped t := by
  constructor
  · intro before rest hlog ret hret
    rcases h with ⟨hnil, -⟩ | habort | hcallback
    · simp [hnil] at hlog
    · rw [habort] at hlog
      obtain rfl : before = [] := by
        cases before with
        | nil => rfl
        | cons event before => simp at hlog
      cases hlog
      cases hret
    · rw [hcallback] at hlog
      cases before with
      | nil => cases hlog
      | cons event before => simp at hlog
  · intro habort hended
    rcases h with ⟨-, hnot⟩ | hlog | hlog
    · exact absurd hended hnot
    · simp [hlog] at habort
    · exact ⟨ETIMEDOUT, hlog⟩

theorem fires_of_agreed {t : Run} (h : Inv t) (hagreed : Agreed t) : FiresUnlessStopped t := by
  apply fires_of_log
  obtain ⟨⟨state, phase, stopping⟩, log⟩ := t
  cases phase with
  | start => rcases h with ⟨-, rfl⟩ | ⟨-, rfl⟩ <;> simp
  | waiting =>
      obtain ⟨-, rfl⟩ := h
      simp
  | woken ret => rcases h with ⟨-, ⟨-, rfl⟩ | ⟨-, rfl⟩⟩ <;> simp
  | unlocked ret => rcases h.2 with rfl | rfl <;> simp
  | called => exact .inr hagreed
  | ended => exact .inr hagreed

theorem agreed_of_fires {t : Run} (h : Inv t) (hended : t.state.phase = .ended)
    (hfires : FiresUnlessStopped t) : Agreed t := by
  obtain ⟨⟨state, phase, stopping⟩, log⟩ := t
  obtain rfl : phase = .ended := hended
  rcases h.2 with hlog | hlog | hlog | hlog <;> obtain rfl := hlog
  · obtain ⟨ret, hret⟩ := hfires.2 (by simp) rfl
    cases hret
  · exact Or.inl rfl
  · exact Or.inr rfl
  · exact absurd (List.mem_singleton_self _) (hfires.1 [] _ rfl ETIMEDOUT)

/-- In a run in which the wait and the state agree the callback is not invoked
after a stop, and is invoked once without one; and a run that ended has both only
if they agreed. -/
theorem timer_fires_iff (inputs : List Input) :
    (Meets step agrees ⟨init, []⟩ inputs → FiresUnlessStopped (after inputs)) ∧
      ((after inputs).state.phase = .ended →
        (FiresUnlessStopped (after inputs) ↔ Meets step agrees ⟨init, []⟩ inputs)) := by
  have hinv := inv_after inputs
  rw [← agreed_after]
  exact ⟨fires_of_agreed hinv,
    fun hended => ⟨agreed_of_fires hinv hended, fires_of_agreed hinv⟩⟩

/-- The timer is stopped in time, and the signal ends the wait. -/
theorem timer_fires_iff_stopped :
    FiresUnlessStopped (after [.lock, .stop 7, .stopLocked 7, .relock, .callback, .exit]) :=
  (timer_fires_iff _).1 (by decide)

/-- The thread has timed out when it is stopped, and invokes the callback; and the
wait ends early, and nothing happens. -/
theorem timer_ignores_stop :
    ¬ FiresUnlessStopped
        (after [.lock, .leave true, .stop 7, .stopLocked 7, .relock, .callback, .exit]) ∧
      ¬ FiresUnlessStopped (after [.lock, .leave false, .relock, .callback, .exit]) := by
  constructor
  · rintro ⟨hafter, -⟩
    exact hafter [] [.callback ETIMEDOUT] rfl ETIMEDOUT (List.mem_singleton_self _)
  · rintro ⟨-, hfires⟩
    obtain ⟨ret, hret⟩ := hfires (by decide) rfl
    cases hret

end Timer

end G2Common.Utils
