import G2Common.Lease
import G2Common.Agps.Nif

/-!
The data connection as a lease of the framework. Over every run of a plain
machine the state and the subscriber list stay consistent, and the requests
handed to the servicer follow the lease automaton, with the lease held exactly
in Pending and Acquired.
-/

namespace G2Common.Agps.Nif

open Transition AgpsStateMachine

/-- A state in which the machine counts on the connection. -/
def holds : AgpsState → Bool
  | .pending | .acquired => true
  | _ => false

/-- The letters of the lease in a run: the requests handed to the servicer,
and a denial in Pending or a release in Acquired as the loss. -/
def leaseLetter : Entry → Option Lease.Letter
  | .input .pending (.onRsrcEvent .denied) => some .lost
  | .input .acquired (.onRsrcEvent .released) => some .lost
  | .input _ _ => none
  | .effect (.requestRsrc nifRequest) =>
      match nifRequest.status with
      | .requestAgpsDataConn => some .request
      | .releaseAgpsDataConn => some .release
  | .effect _ => none

def requestLetter : AGpsStatusValue → Lease.Letter
  | .requestAgpsDataConn => .request
  | .releaseAgpsDataConn => .release

@[simp] theorem leaseLetter_subscribeRsrc (state : AgpsState) (s : Subscriber) :
    leaseLetter (.input state (.subscribeRsrc s)) = none := by
  cases state <;> rfl

@[simp] theorem leaseLetter_unsubscribeRsrc (state : AgpsState) (s : Subscriber) :
    leaseLetter (.input state (.unsubscribeRsrc s)) = none := by
  cases state <;> rfl

theorem leaseLetters_effects (effects : List Effect) :
    (effects.map Entry.effect).filterMap leaseLetter =
      (requestsIn effects).map requestLetter := by
  induction effects with
  | nil => rfl
  | cons e rest ih =>
      have hcons : requestsIn (e :: rest) = requestsIn [e] ++ requestsIn rest :=
        requestsIn_append [e] rest
      rw [hcons, List.map_append, ← ih, List.map_cons]
      cases e with
      | requestRsrc nifRequest =>
          obtain ⟨_, status, _, _, _, _⟩ := nifRequest
          cases status <;> rfl
      | _ => rfl

theorem mem_added {x s : Subscriber} {l : List Subscriber} (h : x ∈ l) : x ∈ added s l := by
  unfold added
  split
  · exact h
  · exact List.mem_cons_of_mem _ h

theorem Consistent.ne_released {state : AgpsState} {l : List Subscriber} {x : Subscriber}
    (h : Consistent state l) (hx : x ∈ l) : state ≠ .released := by
  rintro rfl
  simp only [Consistent] at h
  simp [h] at hx

theorem consistent_afterClose {state : AgpsState} (hstate : state ≠ .released)
    (l : List Subscriber) : Consistent (afterClose state l).1 l := by
  have hactive (h : l.all (·.isInactive) = false) : ∃ x ∈ l, x.isInactive = false := by
    simpa using h
  have hempty : l.isEmpty = true ↔ l = [] := List.isEmpty_iff
  cases state with
  | released => exact absurd rfl hstate
  | pending | acquired | releasing =>
      cases h : l.isEmpty <;> cases h' : l.all (·.isInactive) <;>
        simp only [afterClose, h, h'] <;> simp_all [Consistent]

theorem consistent_of_moves {enforce : Bool} {state next : AgpsState}
    {l l' : List Subscriber} {input : Input} {told : List (UInt32 × AgpsRsrcStatus)}
    {requests : List AGpsStatusValue} (h : Consistent state l)
    (hmoves : Moves enforce state l input next l' told requests) : Consistent next l' := by
  cases hmoves with
  | refused | unknown | granted | ignored => exact h
  | opened => exact ⟨_, List.mem_cons_self, clone_isInactive _⟩
  | joined hstate =>
      rcases hstate with rfl | rfl
      · obtain ⟨x, hx, hactive⟩ := h
        exact ⟨x, mem_added hx, hactive⟩
      · obtain ⟨x, hx⟩ := List.exists_mem_of_ne_nil l h
        exact List.ne_nil_of_mem (mem_added hx)
  | joinedGranted =>
      obtain ⟨x, hx, hactive⟩ := h
      exact ⟨x, mem_added hx, hactive⟩
  | left hx => exact consistent_afterClose (h.ne_released hx) _
  | deactivated hx => exact consistent_afterClose (h.ne_released (List.mem_of_getElem? hx)) _
  | lost | closed => rfl
  | reopened _ hl =>
      obtain ⟨x, hx, hactive⟩ := hl
      exact ⟨x, by simp [hx, hactive], hactive⟩

theorem accepts_afterClose {state : AgpsState} (hstate : state ≠ .released)
    (l : List Subscriber) :
    accepts Lease.delta (holds state) ((afterClose state l).2.map requestLetter) =
      some (holds (afterClose state l).1) := by
  cases state with
  | released => exact absurd rfl hstate
  | pending | acquired | releasing =>
      cases h : l.isEmpty <;> cases h' : l.all (·.isInactive) <;>
        simp [afterClose, h, h'] <;> rfl

/-- The letters of one step, the input first. -/
theorem accepts_of_moves {enforce : Bool} {state next : AgpsState}
    {l l' : List Subscriber} {input : Input} {told : List (UInt32 × AgpsRsrcStatus)}
    {requests : List AGpsStatusValue} (h : Consistent state l)
    (hmoves : Moves enforce state l input next l' told requests) :
    accepts Lease.delta (holds state)
        ([Entry.input state input].filterMap leaseLetter ++ requests.map requestLetter) =
      some (holds next) := by
  cases hmoves with
  | refused | unknown | joined => simp
  | opened | joinedGranted | granted => rfl
  | left hx => simpa using accepts_afterClose (h.ne_released hx) _
  | deactivated hx =>
      simpa using accepts_afterClose (h.ne_released (List.mem_of_getElem? hx)) _
  | lost hlost => rcases hlost with ⟨rfl, rfl⟩ | ⟨rfl, rfl⟩ <;> rfl
  | closed hevent | reopened hevent => rcases hevent with rfl | rfl <;> rfl
  | ignored hevent =>
      revert hevent
      rename_i event
      cases state <;> cases event <;> decide

/-- What holds of every run of a plain machine. -/
def Disciplined (t : Traced AgpsStateMachine Entry) : Prop :=
  Consistent t.state.mStatePtr t.state.mSubscribers ∧
    accepts Lease.delta false (t.log.filterMap leaseLetter) = some (holds t.state.mStatePtr)

theorem disciplined_step (t : Traced AgpsStateMachine Entry) (input : Input)
    (h : Disciplined t) : Disciplined (step t input) := by
  obtain ⟨hconsistent, haccepts⟩ := h
  have hmoves := (steps_machine hconsistent input).1
  refine ⟨consistent_of_moves hconsistent hmoves, ?_⟩
  have hlog : (step t input).log.filterMap leaseLetter =
      t.log.filterMap leaseLetter ++
        ([Entry.input t.state.mStatePtr input].filterMap leaseLetter ++
          (requestsIn (machine t.state input).1.effects).map requestLetter) := by
    rw [← leaseLetters_effects, ← List.filterMap_append]
    exact List.filterMap_append
  rw [hlog, accepts_append, haccepts]
  exact accepts_of_moves hconsistent hmoves

/-- The state/list invariant and the request discipline of a plain machine, for
any mix of subscribers and any order of calls and events. -/
theorem lease_discipline (type : AGpsExtType) (enforce : Bool) (inputs : List Input) :
    let t := run step (start type enforce) inputs
    let letters := t.log.filterMap leaseLetter
    Consistent t.state.mStatePtr t.state.mSubscribers ∧
      accepts Lease.delta false letters =
        some (decide (t.state.mStatePtr = .pending ∨ t.state.mStatePtr = .acquired)) ∧
      (∀ before between after, letters = before ++ .request :: between ++ .request :: after →
        .release ∈ between ∨ .lost ∈ between) ∧
      ∀ before between after, letters = before ++ .release :: between ++ .release :: after →
        .request ∈ between := by
  intro t letters
  have hstart : Disciplined (start type enforce) := ⟨rfl, rfl⟩
  have hrun : Disciplined t := run_invariant_all disciplined_step hstart inputs
  have hholds : holds t.state.mStatePtr =
      decide (t.state.mStatePtr = .pending ∨ t.state.mStatePtr = .acquired) := by
    cases t.state.mStatePtr <;> rfl
  have haccepted : accepts Lease.delta false letters ≠ none := by
    simp [letters, hrun.2]
  refine ⟨hrun.1, hholds ▸ hrun.2, ?_, ?_⟩
  · intro before between after heq
    exact Lease.separated_requests (heq ▸ haccepted)
  · intro before between after heq
    exact Lease.separated_releases (heq ▸ haccepted)

end G2Common.Agps.Nif
