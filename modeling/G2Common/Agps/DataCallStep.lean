import Mathlib.Data.List.Find
import Mathlib.Data.List.Nodup
import G2Common.Agps.DataServices

/-!
What one call of a `DSStateMachine` can do. The list of such a machine holds
`DSSubscriber`s with distinct handles only, all of them active in Released, and
somebody is active in Pending and Acquired. `Moves` lists the steps from such a
list with all their effects.
-/

namespace G2Common.Agps.DataCall

open Transition AgpsStateMachine DSStateMachine

inductive Op where
  | request (handle : UInt32)
  | release (handle : UInt32)
  | event (event : AgpsRsrcStatus)
  deriving DecidableEq, Repr

/-- The machine's part of a step. -/
def apply (answers : Answers) (m : AgpsStateMachine) : Op → AgpsStateMachine
  | .request handle => request handle answers m
  | .release handle => release handle answers m
  | .event event => DSStateMachine.onRsrcEvent answers event m

/-- A request of this handle on the list: it is added unless it is listed,
active or not. -/
def join (handle : UInt32) (l : List Subscriber) : List Subscriber :=
  if l.any (·.ID == handle) then l else DSSubscriber handle :: l

def deactivate (handle : UInt32) (l : List Subscriber) : List Subscriber :=
  l.map fun s => if s.ID = handle then s.inactivated else s

def actives (l : List Subscriber) : List Subscriber := l.filter (!·.isInactive)

def inactives (l : List Subscriber) : List Subscriber := l.filter (·.isInactive)

/-- The handle a start of the data call is made for. -/
def firstHandle (l : List Subscriber) : UInt32 :=
  ((l.find? (!·.isInactive)).map (·.ID)).getD noHandle

/-- The effects of `DSSubscriber::notifyRsrcStatus`. -/
def informs (status : AgpsRsrcStatus) (handle : UInt32) : List Effect :=
  .notified handle status :: match status with
    | .unsubscribe => [.atlCloseStatus handle true]
    | .released => [.closeDataCall]
    | .denied => [.requestATL handle .supl]
    | .granted => [.atlOpenStatus handle true none .invalid .invalid]
    | _ => []

def retriesAfter (status : AgpsRsrcStatus) (told : List Subscriber) (retries : UInt8) : UInt8 :=
  if status = .denied ∧ told ≠ [] then 0 else retries

/-- Does a start with this result give up and fall back to `requestATL`? -/
def fallsBack (ret : Int) (retries : UInt8) : Bool :=
  ret == LOC_API_ADAPTER_ERR_UNSUPPORTED || ret == -1 ||
    (ret == LOC_API_ADAPTER_ERR_ENGINE_BUSY && retries + 1 > MAX_START_DATA_CALL_RETRIES)

/-- A start of the data call: the retries after it and its effects. -/
def startCall (answers : Answers) (handle : UInt32) (retries : UInt8) : UInt8 × List Effect :=
  if fallsBack answers.ret retries then
    (0, [.openAndStartDataCall answers.ret, .requestATL handle .supl])
  else if answers.ret = LOC_API_ADAPTER_ERR_ENGINE_BUSY then
    (retries + 1,
      [.openAndStartDataCall answers.ret, .locTimerStart (decide (answers.timer = .started))])
  else
    (retries, [.openAndStartDataCall answers.ret])

/-- The events that a state acts on. -/
def heeds : AgpsState → AgpsRsrcStatus → Bool
  | .pending, .granted | .pending, .denied | .pending, .released
  | .acquired, .released | .releasing, .released | .releasing, .denied => true
  | _, _ => false

/-- State, list and retries before, the operation, state, list and retries
after, and the effects in order. -/
inductive Moves (answers : Answers) :
    AgpsState → List Subscriber → UInt8 → Op → AgpsState → List Subscriber → UInt8 →
      List Effect → Prop
  | started {l retries h} :
      Moves answers .released l retries (.request h)
        (if answers.ret = LOC_API_ADAPTER_ERR_SUCCESS then .pending else .released) (join h l)
        (startCall answers (firstHandle (join h l)) retries).1
        (startCall answers (firstHandle (join h l)) retries).2
  | joined {state l retries h} (hstate : state = .pending ∨ state = .releasing) :
      Moves answers state l retries (.request h) state (join h l) retries []
  | joinedGranted {l retries h} :
      Moves answers .acquired l retries (.request h) .acquired (join h l) retries
        (informs .granted h)
  | unknown {state l retries h} (hh : ∀ s ∈ l, s.ID ≠ h) :
      Moves answers state l retries (.release h) state l retries []
  | toldOnly {l retries h} (hh : ∃ s ∈ l, s.ID = h) :
      Moves answers .released l retries (.release h) .released l retries
        (informs .unsubscribe h)
  | deactivated {state l retries h} (hh : ∃ s ∈ l, s.ID = h) (hstate : state ≠ .released)
      (hkeep : state = .releasing ∨ ∃ s ∈ deactivate h l, s.isInactive = false) :
      Moves answers state l retries (.release h) state (deactivate h l) retries
        [.atlCloseStatus h true]
  | stopped {state l retries h} (hh : ∃ s ∈ l, s.ID = h)
      (hstate : state = .pending ∨ state = .acquired)
      (hnone : ∀ s ∈ deactivate h l, s.isInactive = true) :
      Moves answers state l retries (.release h) .releasing (deactivate h l) retries
        [.atlCloseStatus h true, .stopDataCall]
  | granted {l retries} :
      Moves answers .pending l retries (.event .granted) .acquired l retries
        ((actives l).flatMap (informs .granted ·.ID))
  | denied {l retries event} (hevent : event = .denied ∨ event = .released) :
      Moves answers .pending l retries (.event event) .released []
        (retriesAfter .denied l retries) (l.flatMap (informs .denied ·.ID))
  | forced {l retries} :
      Moves answers .acquired l retries (.event .released) .released [] retries
        (l.flatMap (informs .released ·.ID))
  | closed {l retries event} (hevent : event = .denied ∨ event = .released)
      (hnone : ∀ s ∈ l, s.isInactive = true) :
      Moves answers .releasing l retries (.event event) .released []
        (retriesAfter event l retries) (l.flatMap (informs event ·.ID))
  | reopened {l retries event} (hevent : event = .denied ∨ event = .released)
      (hactive : ∃ s ∈ l, s.isInactive = false) :
      Moves answers .releasing l retries (.event event) .pending (actives l)
        (startCall answers (firstHandle (actives l))
          (retriesAfter event (inactives l) retries)).1
        ((inactives l).flatMap (informs event ·.ID) ++
          (startCall answers (firstHandle (actives l))
            (retriesAfter event (inactives l) retries)).2)
  | ignored {state l retries event} (hevent : heeds state event = false) :
      Moves answers state l retries (.event event) state l retries []

/-- What holds of the state and the list of a `DSStateMachine` in every run. -/
structure Consistent (state : AgpsState) (l : List Subscriber) : Prop where
  isDS : ∀ s ∈ l, s.isDS = true
  nodup : (l.map (·.ID)).Nodup
  released : state = .released → ∀ s ∈ l, s.isInactive = false
  active : state = .pending ∨ state = .acquired → ∃ s ∈ l, s.isInactive = false

/-- The machine with state, list, retries and effects replaced. -/
def put (state : AgpsState) (l : List Subscriber) (retries : UInt8) (effects : List Effect)
    (m : AgpsStateMachine) : AgpsStateMachine :=
  { m with mStatePtr := state, mSubscribers := l, mRetries := retries, effects := effects }

theorem calls_eq_informs {s : Subscriber} (hs : s.isDS = true) (m : AgpsStateMachine)
    (status : AgpsRsrcStatus) :
    .notified s.ID status :: s.calls m status = informs status s.ID := by
  obtain ⟨id, bytes, cls⟩ := s
  cases cls <;> simp_all [Subscriber.isDS]
  cases status <;> rfl

theorem notifySubscribers_put {n : Notification} (hn : n.rsrcStatus.isTold)
    (m : AgpsStateMachine) (hds : ∀ s ∈ m.mSubscribers, s.isDS = true) :
    m.notifySubscribers n =
      put m.mStatePtr
        (if n.postNotifyDelete then m.mSubscribers.filter (!·.forMe n) else m.mSubscribers)
        (retriesAfter n.rsrcStatus (m.mSubscribers.filter (·.forMe n)) m.mRetries)
        (m.effects ++
          (m.mSubscribers.filter (·.forMe n)).flatMap (informs n.rsrcStatus ·.ID)) m := by
  have htold : ∀ s ∈ m.mSubscribers.filter (·.forMe n), s.isDS = true :=
    fun s hs => hds s (List.mem_filter.mp hs).1
  rw [notifySubscribers_eq hn, Subscriber.foldl_told]
  generalize m.mSubscribers.filter (·.forMe n) = told at htold
  have heffects : (told.flatMap fun s => .notified s.ID n.rsrcStatus :: s.calls m n.rsrcStatus) =
      told.flatMap (informs n.rsrcStatus ·.ID) := by
    rw [List.flatMap_def, List.flatMap_def]
    congr 1
    exact List.map_congr_left fun s hs => calls_eq_informs (htold s hs) m _
  have hany : told.any (·.isDS) = !told.isEmpty := by
    cases told with
    | nil => rfl
    | cons s rest => simp [htold s List.mem_cons_self]
  rw [heffects, hany]
  by_cases hdenied : n.rsrcStatus = .denied <;> cases told <;>
    simp [put, retriesAfter, hdenied]

theorem closeSubscriber_put {m : AgpsStateMachine} {data : Nat} {s : Subscriber}
    (hs : m.mSubscribers[data]? = some s) (hds : s.isDS = true) :
    m.closeSubscriber data =
      put m.mStatePtr (m.mSubscribers.set data s.inactivated) m.mRetries
        (m.effects ++ [.atlCloseStatus s.ID true]) m := by
  obtain ⟨id, bytes, cls⟩ := s
  cases cls <;> simp_all [Subscriber.isDS]
  simp [closeSubscriber, hs, Subscriber.waitForCloseComplete, setInactive, informStatus, did,
    put]

theorem sendRsrcRequest_release (answers : Answers) (m : AgpsStateMachine) :
    DSStateMachine.sendRsrcRequest answers .releaseAgpsDataConn m = (0, m.did .stopDataCall) :=
  rfl

theorem sendRsrcRequest_request (answers : Answers) (m : AgpsStateMachine) :
    ∃ ret : Int, (ret = 0 ↔ answers.ret = 0) ∧
      DSStateMachine.sendRsrcRequest answers .requestAgpsDataConn m =
        (ret, put m.mStatePtr m.mSubscribers
          (startCall answers (firstHandle m.mSubscribers) m.mRetries).1
          (m.effects ++ (startCall answers (firstHandle m.mSubscribers) m.mRetries).2) m) := by
  have hfirst : ((m.search (.matchGroup .active)).map (·.ID)).getD noHandle =
      firstHandle m.mSubscribers := rfl
  obtain ⟨ret, timer⟩ := answers
  simp only [DSStateMachine.sendRsrcRequest, hfirst, dataCallCb]
  by_cases hbusy : ret = LOC_API_ADAPTER_ERR_ENGINE_BUSY
  · subst hbusy
    by_cases hmax : m.mRetries + 1 > MAX_START_DATA_CALL_RETRIES
    · refine ⟨LOC_API_ADAPTER_ERR_ENGINE_BUSY, by decide, ?_⟩
      simp [hmax, startCall, fallsBack, did, informStatus, put]
    · refine ⟨if timer = .noMemory then LOC_API_ADAPTER_ERR_ENGINE_BUSY else -1, ?_, ?_⟩
      · cases timer <;> decide
      · have hnot : fallsBack LOC_API_ADAPTER_ERR_ENGINE_BUSY m.mRetries = false := by
          simp [fallsBack, hmax, LOC_API_ADAPTER_ERR_ENGINE_BUSY, LOC_API_ADAPTER_ERR_UNSUPPORTED]
        cases timer <;> simp [hmax, hnot, startCall, startRetryTimer, did, put]
  · refine ⟨ret, Iff.rfl, ?_⟩
    by_cases hunsupported : ret = LOC_API_ADAPTER_ERR_UNSUPPORTED
    · subst hunsupported
      simp [hbusy, startCall, fallsBack, did, informStatus, put]
    · by_cases hsuccess : ret = LOC_API_ADAPTER_ERR_SUCCESS
      · subst hsuccess
        simp [startCall, fallsBack, did, put, LOC_API_ADAPTER_ERR_SUCCESS,
          LOC_API_ADAPTER_ERR_ENGINE_BUSY, LOC_API_ADAPTER_ERR_UNSUPPORTED]
      · by_cases hnull : ret = -1
        · subst hnull
          simp [startCall, fallsBack, did, informStatus, put, LOC_API_ADAPTER_ERR_SUCCESS,
            LOC_API_ADAPTER_ERR_ENGINE_BUSY, LOC_API_ADAPTER_ERR_UNSUPPORTED]
        · simp [hbusy, hunsupported, hsuccess, hnull, startCall, fallsBack, did, put]

theorem equals_DSSubscriber {s : Subscriber} (hs : s.isDS = true) (h : UInt32) :
    s.equals (DSSubscriber h) = (s.ID == h) := by
  obtain ⟨id, bytes, cls⟩ := s
  cases cls <;> simp_all [Subscriber.isDS]
  rfl

theorem search_DSSubscriber {m : AgpsStateMachine} (hds : ∀ s ∈ m.mSubscribers, s.isDS = true)
    (h : UInt32) :
    m.search (.matchSubscriber (DSSubscriber h)) = m.mSubscribers.find? (·.ID == h) :=
  List.find?_congr fun s hs => equals_DSSubscriber (hds s hs) h

theorem addSubscriber_put {m : AgpsStateMachine} (hds : ∀ s ∈ m.mSubscribers, s.isDS = true)
    (h : UInt32) :
    m.addSubscriber (DSSubscriber h) = { m with mSubscribers := join h m.mSubscribers } := by
  have hsome := congrArg Option.isSome (search_DSSubscriber hds h)
  rw [List.isSome_find?] at hsome
  cases hsearch : m.search (.matchSubscriber (DSSubscriber h)) with
  | none =>
      rw [hsearch] at hsome
      simp [addSubscriber, hsearch, join, ← hsome]
      rfl
  | some s =>
      rw [hsearch] at hsome
      simp [addSubscriber, hsearch, join, ← hsome]

theorem set_eq_deactivate {l : List Subscriber} {data : Nat} {s : Subscriber}
    (hnodup : (l.map (·.ID)).Nodup) (hs : l[data]? = some s) :
    l.set data s.inactivated = deactivate s.ID l := by
  induction l generalizing data with
  | nil => simp at hs
  | cons x rest ih =>
      obtain ⟨hnew, hrest⟩ := List.nodup_cons.mp hnodup
      cases data with
      | zero =>
          obtain rfl : x = s := by simpa using hs
          have hothers : deactivate x.ID rest = rest := by
            refine (List.map_congr_left fun y hy => ?_).trans (List.map_id rest)
            have hne : y.ID ≠ x.ID := fun hID => hnew (List.mem_map.mpr ⟨y, hy, hID⟩)
            rw [if_neg hne, id]
          rw [List.set_cons_zero]
          simp only [deactivate, List.map_cons, if_true] at hothers ⊢
          rw [hothers]
      | succ data =>
          have hs' : rest[data]? = some s := by simpa using hs
          have hne : x.ID ≠ s.ID := fun hID =>
            hnew (List.mem_map.mpr ⟨s, List.mem_of_getElem? hs', hID.symm⟩)
          have htail := ih hrest hs'
          simp only [deactivate, List.set_cons_succ, List.map_cons, if_neg hne] at htail ⊢
          rw [htail]

theorem stateEvent_eq {m : AgpsStateMachine} {send : SendRsrcRequest} {event : RsrcEvent}
    {next : AgpsState × AgpsStateMachine}
    (hnext : AgpsState.onRsrcEvent send m event = next) :
    m.stateEvent send event = { next.2 with mStatePtr := next.1 } := by
  subst hnext
  rfl

section Dispatch

variable {m : AgpsStateMachine} (send : SendRsrcRequest) (event : RsrcEvent)

theorem onRsrcEvent_released (hstate : m.mStatePtr = .released) :
    AgpsState.onRsrcEvent send m event = AgpsReleasedState.onRsrcEvent send m event := by
  rw [AgpsState.onRsrcEvent, hstate]

theorem onRsrcEvent_pending (hstate : m.mStatePtr = .pending) :
    AgpsState.onRsrcEvent send m event = AgpsPendingState.onRsrcEvent send m event := by
  rw [AgpsState.onRsrcEvent, hstate]

theorem onRsrcEvent_acquired (hstate : m.mStatePtr = .acquired) :
    AgpsState.onRsrcEvent send m event = AgpsAcquiredState.onRsrcEvent send m event := by
  rw [AgpsState.onRsrcEvent, hstate]

theorem onRsrcEvent_releasing (hstate : m.mStatePtr = .releasing) :
    AgpsState.onRsrcEvent send m event = AgpsReleasingState.onRsrcEvent send m event := by
  rw [AgpsState.onRsrcEvent, hstate]

end Dispatch

section Cases

variable {answers : Answers} {m : AgpsStateMachine}

/-- The step relation between two machines, the first with no effects. -/
def Steps (answers : Answers) (m : AgpsStateMachine) (op : Op) (next : AgpsStateMachine) :
    Prop :=
  Moves answers m.mStatePtr m.mSubscribers m.mRetries op next.mStatePtr next.mSubscribers
      next.mRetries next.effects ∧
    next.mEnforceSingleSubscriber = m.mEnforceSingleSubscriber

theorem steps_of_put {op : Op} {state : AgpsState} {l : List Subscriber} {retries : UInt8}
    {effects : List Effect} {next : AgpsStateMachine} (hput : next = put state l retries effects m)
    (h : Moves answers m.mStatePtr m.mSubscribers m.mRetries op state l retries effects) :
    Steps answers m op next := by
  subst hput
  exact ⟨h, rfl⟩

variable (hm : m.effects = []) (hconsistent : Consistent m.mStatePtr m.mSubscribers)

include hm hconsistent

theorem steps_request (hsingle : m.mEnforceSingleSubscriber = false) (h : UInt32) :
    Steps answers m (.request h) (request h answers m) := by
  have hadd := addSubscriber_put hconsistent.isDS h
  have hrequest : request h answers m =
      m.stateEvent (DSStateMachine.sendRsrcRequest answers) (.subscribe (DSSubscriber h)) := by
    simp [request, subscribeRsrc, hsingle]
  rw [hrequest]
  cases hstate : m.mStatePtr with
  | released =>
      obtain ⟨ret, hret, hsend⟩ :=
        sendRsrcRequest_request answers { m with mSubscribers := join h m.mSubscribers }
      have hput : m.stateEvent (DSStateMachine.sendRsrcRequest answers)
            (.subscribe (DSSubscriber h)) =
          put (if answers.ret = LOC_API_ADAPTER_ERR_SUCCESS then .pending else .released)
            (join h m.mSubscribers)
            (startCall answers (firstHandle (join h m.mSubscribers)) m.mRetries).1
            (startCall answers (firstHandle (join h m.mSubscribers)) m.mRetries).2 m := by
        apply (stateEvent_eq (onRsrcEvent_released _ _ hstate)).trans
        simp only [AgpsReleasedState.onRsrcEvent, hadd, hsend, hret]
        by_cases hsuccess : answers.ret = 0 <;>
          simp [put, hm, hsuccess, LOC_API_ADAPTER_ERR_SUCCESS]
      apply steps_of_put hput
      rw [hstate]
      exact .started
  | acquired =>
      have htold : (DSSubscriber h).notifyRsrcStatus
            (.toSubscriber (DSSubscriber h) .granted false) m =
          (true, { m with effects := informs .granted h }) := by
        rw [Subscriber.notifyRsrcStatus_eq rfl, if_pos]
        · simp only [Subscriber.told, hm, List.nil_append]
          rfl
        · exact (equals_DSSubscriber (s := DSSubscriber h) rfl h).trans (beq_self_eq_true h)
      have hput : m.stateEvent (DSStateMachine.sendRsrcRequest answers)
            (.subscribe (DSSubscriber h)) =
          put .acquired (join h m.mSubscribers) m.mRetries (informs .granted h) m := by
        apply (stateEvent_eq (onRsrcEvent_acquired _ _ hstate)).trans
        simp only [AgpsAcquiredState.onRsrcEvent, htold,
          addSubscriber_put (m := { m with effects := informs .granted h }) hconsistent.isDS h]
        rfl
      apply steps_of_put hput
      rw [hstate]
      exact .joinedGranted
  | pending | releasing =>
      have hput : m.stateEvent (DSStateMachine.sendRsrcRequest answers)
            (.subscribe (DSSubscriber h)) =
          put m.mStatePtr (join h m.mSubscribers) m.mRetries [] m := by
        simp [stateEvent, AgpsState.onRsrcEvent, hstate, AgpsPendingState.onRsrcEvent,
          AgpsReleasingState.onRsrcEvent, hadd, put, hm]
      apply steps_of_put hput
      rw [hstate]
      exact .joined (by simp)

omit hm hconsistent in
/-- The end of an unsubscribe in Pending and Acquired. -/
theorem steps_releaseIfUnused {h : UInt32}
    (hstate : m.mStatePtr = .pending ∨ m.mStatePtr = .acquired)
    (hlisted : ∃ s ∈ m.mSubscribers, s.ID = h) :
    let next := releaseIfUnused (DSStateMachine.sendRsrcRequest answers) m.mStatePtr
      (put m.mStatePtr (deactivate h m.mSubscribers) m.mRetries [.atlCloseStatus h true] m)
    Steps answers m (.release h) { next.2 with mStatePtr := next.1 } := by
  intro next
  have hnonempty : deactivate h m.mSubscribers ≠ [] := by
    obtain ⟨s, hs, -⟩ := hlisted
    simpa [deactivate] using List.ne_nil_of_mem hs
  have hsubscribers : (put m.mStatePtr (deactivate h m.mSubscribers) m.mRetries
      [.atlCloseStatus h true] m).hasSubscribers = true := by
    simp [hasSubscribers, put, hnonempty]
  have hany : (put m.mStatePtr (deactivate h m.mSubscribers) m.mRetries
      [.atlCloseStatus h true] m).hasActiveSubscribers =
        (deactivate h m.mSubscribers).any (!·.isInactive) := hasActiveSubscribers_eq _
  by_cases hactive : ∃ s ∈ deactivate h m.mSubscribers, s.isInactive = false
  · have hsome : (deactivate h m.mSubscribers).any (!·.isInactive) = true := by
      simpa using hactive
    have hput : { next.2 with mStatePtr := next.1 } =
        put m.mStatePtr (deactivate h m.mSubscribers) m.mRetries [.atlCloseStatus h true] m := by
      simp only [next, releaseIfUnused, hsubscribers, hany, hsome, Bool.not_true,
        Bool.false_eq_true, if_false]
      rfl
    refine steps_of_put hput (.deactivated hlisted ?_ (.inr hactive))
    rcases hstate with hstate | hstate <;> simp [hstate]
  · have hinactive : ∀ s ∈ deactivate h m.mSubscribers, s.isInactive = true := by
      simpa using hactive
    have hsome : (deactivate h m.mSubscribers).any (!·.isInactive) = false := by
      simpa using hinactive
    have hput : { next.2 with mStatePtr := next.1 } =
        put .releasing (deactivate h m.mSubscribers) m.mRetries
          [.atlCloseStatus h true, .stopDataCall] m := by
      simp only [next, releaseIfUnused, hsubscribers, hany, hsome, Bool.not_true,
        Bool.not_false, Bool.false_eq_true, if_false, if_true, sendRsrcRequest_release]
      rfl
    exact steps_of_put hput (.stopped hlisted hstate hinactive)

theorem steps_release (h : UInt32) :
    Steps answers m (.release h) (release h answers m) := by
  cases hfind : m.mSubscribers.findIdx? (·.forMe (.matchSubscriber (DSSubscriber h))) with
  | none =>
      have hput : release h answers m = put m.mStatePtr m.mSubscribers m.mRetries [] m := by
        simp [release, unsubscribeRsrc, hfind, put, ← hm]
      refine steps_of_put hput (.unknown fun s hs hID => ?_)
      have hnot := List.findIdx?_eq_none_iff.mp hfind s hs
      rw [Subscriber.forMe, Notification.matchSubscriber] at hnot
      simp [equals_DSSubscriber (hconsistent.isDS s hs), hID] at hnot
  | some data =>
      obtain ⟨hdata, heq, -⟩ := List.findIdx?_eq_some_iff_getElem.mp hfind
      have hs := List.getElem?_eq_getElem hdata
      generalize m.mSubscribers[data] = s at hs heq
      have hmem := List.mem_of_getElem? hs
      have hds := hconsistent.isDS s hmem
      have hID : s.ID = h := by
        rw [Subscriber.forMe, Notification.matchSubscriber] at heq
        simpa [equals_DSSubscriber hds] using heq
      have hrelease : release h answers m =
          m.stateEvent (DSStateMachine.sendRsrcRequest answers) (.unsubscribe data) := by
        simp [release, unsubscribeRsrc, hfind]
      have hlisted : ∃ s ∈ m.mSubscribers, s.ID = h := ⟨s, hmem, hID⟩
      have hclose := closeSubscriber_put hs hds
      rw [set_eq_deactivate hconsistent.nodup hs, hID, hm, List.nil_append] at hclose
      have hnonempty : deactivate h m.mSubscribers ≠ [] := by
        simpa [deactivate] using List.ne_nil_of_mem hmem
      rw [hrelease]
      cases hstate : m.mStatePtr with
      | released =>
          have hput : m.stateEvent (DSStateMachine.sendRsrcRequest answers) (.unsubscribe data) =
              put .released m.mSubscribers m.mRetries (informs .unsubscribe h) m := by
            have hme : s.forMe (.toSubscriber s .unsubscribe false) = true := equals_self s
            apply (stateEvent_eq (onRsrcEvent_released _ _ hstate)).trans
            simp only [AgpsReleasedState.onRsrcEvent, hs, Subscriber.notifyRsrcStatus_eq
              (n := .toSubscriber s .unsubscribe false) rfl, hme, if_true]
            have hcalls := calls_eq_informs hds m .unsubscribe
            rw [hID] at hcalls
            simp [Subscriber.told, Notification.toSubscriber, hcalls, hm, hID, put]
          apply steps_of_put hput
          rw [hstate]
          exact .toldOnly hlisted
      | pending =>
          have hevent : m.stateEvent (DSStateMachine.sendRsrcRequest answers)
              (.unsubscribe data) = _ :=
            stateEvent_eq (onRsrcEvent_pending _ _ hstate)
          rw [AgpsPendingState.onRsrcEvent, hclose] at hevent
          rw [hevent, ← hstate]
          exact steps_releaseIfUnused (.inl hstate) hlisted
      | acquired =>
          have hevent : m.stateEvent (DSStateMachine.sendRsrcRequest answers)
              (.unsubscribe data) = _ :=
            stateEvent_eq (onRsrcEvent_acquired _ _ hstate)
          rw [AgpsAcquiredState.onRsrcEvent, hclose] at hevent
          rw [hevent, ← hstate]
          exact steps_releaseIfUnused (.inr hstate) hlisted
      | releasing =>
          have hput : m.stateEvent (DSStateMachine.sendRsrcRequest answers) (.unsubscribe data) =
              put .releasing (deactivate h m.mSubscribers) m.mRetries
                [.atlCloseStatus h true] m := by
            apply (stateEvent_eq (onRsrcEvent_releasing _ _ hstate)).trans
            simp only [AgpsReleasingState.onRsrcEvent, hclose, hasSubscribers]
            simp [put, hnonempty]
          apply steps_of_put hput
          rw [hstate]
          exact .deactivated hlisted (by decide) (.inl rfl)

theorem notify_put (group : Broadcast) (status : AgpsRsrcStatus) (delete : Bool)
    (hstatus : status.isTold = true) {told : List Subscriber}
    (htold : m.mSubscribers.filter (·.forMe (.toGroup group status delete)) = told) :
    m.notifySubscribers (.toGroup group status delete) =
      put m.mStatePtr
        (if delete then m.mSubscribers.filter (!·.forMe (.toGroup group status delete))
          else m.mSubscribers)
        (retriesAfter status told m.mRetries) (told.flatMap (informs status ·.ID)) m := by
  subst htold
  have hput := notifySubscribers_put (n := .toGroup group status delete) hstatus m hconsistent.isDS
  rwa [hm, List.nil_append] at hput

theorem steps_granted (hstate : m.mStatePtr = .pending) :
    Steps answers m (.event .granted) (DSStateMachine.onRsrcEvent answers .granted m) := by
  have hnotify := notify_put hm hconsistent .active .granted false rfl
    (show _ = actives m.mSubscribers from rfl)
  have hput : DSStateMachine.onRsrcEvent answers .granted m =
      put .acquired m.mSubscribers m.mRetries
        ((actives m.mSubscribers).flatMap (informs .granted ·.ID)) m := by
    apply (stateEvent_eq (onRsrcEvent_pending _ _ hstate)).trans
    simp only [AgpsPendingState.onRsrcEvent, hnotify]
    rfl
  apply steps_of_put hput
  rw [hstate]
  exact .granted

theorem steps_denied (hstate : m.mStatePtr = .pending) {event : AgpsRsrcStatus}
    (hevent : event = .denied ∨ event = .released) :
    Steps answers m (.event event) (DSStateMachine.onRsrcEvent answers event m) := by
  have hnotify := notify_put hm hconsistent .all .denied true rfl
    (show _ = m.mSubscribers by simp [Notification.toGroup, Subscriber.forMe])
  have hdenied : m.stateEvent (DSStateMachine.sendRsrcRequest answers) .denied =
      put .released [] (retriesAfter .denied m.mSubscribers m.mRetries)
        (m.mSubscribers.flatMap (informs .denied ·.ID)) m := by
    apply (stateEvent_eq (onRsrcEvent_pending _ _ hstate)).trans
    simp only [AgpsPendingState.onRsrcEvent, hnotify]
    simp [put, Notification.toGroup, Subscriber.forMe]
  have hreleased : m.stateEvent (DSStateMachine.sendRsrcRequest answers) .released = m := by
    apply (stateEvent_eq (onRsrcEvent_pending _ _ hstate)).trans
    simp only [AgpsPendingState.onRsrcEvent, ← hstate]
  have hput : DSStateMachine.onRsrcEvent answers event m =
      put .released [] (retriesAfter .denied m.mSubscribers m.mRetries)
        (m.mSubscribers.flatMap (informs .denied ·.ID)) m := by
    rcases hevent with rfl | rfl
    · exact hdenied
    · simp [DSStateMachine.onRsrcEvent, hreleased, hdenied]
  apply steps_of_put hput
  rw [hstate]
  exact .denied hevent

theorem steps_forced (hstate : m.mStatePtr = .acquired) :
    Steps answers m (.event .released) (DSStateMachine.onRsrcEvent answers .released m) := by
  have hnotify := notify_put hm hconsistent .all .released true rfl
    (show _ = m.mSubscribers by simp [Notification.toGroup, Subscriber.forMe])
  have hreleased : m.stateEvent (DSStateMachine.sendRsrcRequest answers) .released =
      put .released [] m.mRetries (m.mSubscribers.flatMap (informs .released ·.ID)) m := by
    apply (stateEvent_eq (onRsrcEvent_acquired _ _ hstate)).trans
    simp only [AgpsAcquiredState.onRsrcEvent, hnotify]
    simp [put, Notification.toGroup, Subscriber.forMe, retriesAfter]
  have hput : DSStateMachine.onRsrcEvent answers .released m =
      put .released [] m.mRetries (m.mSubscribers.flatMap (informs .released ·.ID)) m := by
    simp [DSStateMachine.onRsrcEvent, hreleased, hstate, put]
  apply steps_of_put hput
  rw [hstate]
  exact .forced

/-- The branch of Releasing that RELEASED and DENIED share. -/
theorem steps_closed (hstate : m.mStatePtr = .releasing) {event : AgpsRsrcStatus}
    (hevent : event = .denied ∨ event = .released) :
    Steps answers m (.event event) (DSStateMachine.onRsrcEvent answers event m) := by
  have hstatus : event.isTold = true := by
    rcases hevent with rfl | rfl <;> rfl
  have hnotify := notify_put hm hconsistent .inactive event true hstatus
    (show _ = inactives m.mSubscribers from rfl)
  let closed := AgpsReleasingState.onClosed (DSStateMachine.sendRsrcRequest answers) event m
  have hleaves : closed.1 ≠ .releasing := by
    simp only [closed, AgpsReleasingState.onClosed]
    split <;> simp
  have hput : DSStateMachine.onRsrcEvent answers event m =
      { closed.2 with mStatePtr := closed.1 } := by
    rcases hevent with rfl | rfl
    · exact stateEvent_eq (onRsrcEvent_releasing _ _ hstate)
    · have hreleased : m.stateEvent (DSStateMachine.sendRsrcRequest answers) .released =
          { closed.2 with mStatePtr := closed.1 } :=
        stateEvent_eq (onRsrcEvent_releasing _ _ hstate)
      rw [DSStateMachine.onRsrcEvent, hreleased, if_pos (hstate ▸ hleaves)]
  have hactive : (m.notifySubscribers (.toGroup .inactive event true)).hasActiveSubscribers =
      (actives m.mSubscribers).any (!·.isInactive) := by
    rw [hasActiveSubscribers_eq, hnotify]
    rfl
  by_cases hsome : ∃ s ∈ m.mSubscribers, s.isInactive = false
  · have hany : (actives m.mSubscribers).any (!·.isInactive) = true := by
      simpa [actives] using hsome
    obtain ⟨ret, -, hsend⟩ := sendRsrcRequest_request answers
      (m.notifySubscribers (.toGroup .inactive event true))
    rw [hput]
    have hclosed : { closed.2 with mStatePtr := closed.1 } =
        put .pending (actives m.mSubscribers)
          (startCall answers (firstHandle (actives m.mSubscribers))
            (retriesAfter event (inactives m.mSubscribers) m.mRetries)).1
          ((inactives m.mSubscribers).flatMap (informs event ·.ID) ++
            (startCall answers (firstHandle (actives m.mSubscribers))
              (retriesAfter event (inactives m.mSubscribers) m.mRetries)).2) m := by
      simp only [closed, AgpsReleasingState.onClosed, hactive, hany, if_true, hsend]
      rw [hnotify]
      rfl
    apply steps_of_put hclosed
    rw [hstate]
    exact .reopened hevent hsome
  · have hnone : ∀ s ∈ m.mSubscribers, s.isInactive = true := by
      simpa using hsome
    have hactives : actives m.mSubscribers = [] := by
      simpa [actives] using hnone
    have hinactives : inactives m.mSubscribers = m.mSubscribers := by
      simpa [inactives] using hnone
    rw [hput]
    have hclosed : { closed.2 with mStatePtr := closed.1 } =
        put .released [] (retriesAfter event m.mSubscribers m.mRetries)
          (m.mSubscribers.flatMap (informs event ·.ID)) m := by
      simp only [closed, AgpsReleasingState.onClosed, hactive, hactives, List.any_nil,
        Bool.false_eq_true, if_false]
      rw [hnotify, hinactives, ← hactives]
      rfl
    apply steps_of_put hclosed
    rw [hstate]
    exact .closed hevent hnone

omit hconsistent in
theorem steps_ignored {event : AgpsRsrcStatus} (hevent : heeds m.mStatePtr event = false) :
    Steps answers m (.event event) (DSStateMachine.onRsrcEvent answers event m) := by
  have hput : DSStateMachine.onRsrcEvent answers event m =
      put m.mStatePtr m.mSubscribers m.mRetries [] m := by
    obtain ⟨state, l, type, apn, bearer, enforce, retries, effects⟩ := m
    obtain rfl : effects = [] := hm
    cases state <;> cases event <;> first | rfl | exact absurd hevent (by simp [heeds])
  exact steps_of_put hput (.ignored hevent)

omit hm hconsistent in
theorem heeds_cases {state : AgpsState} {event : AgpsRsrcStatus}
    (h : heeds state event = true) :
    (state = .pending ∧ event = .granted) ∨
      (state = .pending ∧ (event = .denied ∨ event = .released)) ∨
      (state = .acquired ∧ event = .released) ∨
      (state = .releasing ∧ (event = .denied ∨ event = .released)) := by
  revert h
  cases state <;> cases event <;> decide

theorem steps_event (event : AgpsRsrcStatus) :
    Steps answers m (.event event) (DSStateMachine.onRsrcEvent answers event m) := by
  cases hheeds : heeds m.mStatePtr event with
  | false => exact steps_ignored hm hheeds
  | true =>
      obtain ⟨hstate, rfl⟩ | ⟨hstate, hevent⟩ | ⟨hstate, rfl⟩ | ⟨hstate, hevent⟩ :=
        heeds_cases hheeds
      · exact steps_granted hm hconsistent hstate
      · exact steps_denied hm hconsistent hstate hevent
      · exact steps_forced hm hconsistent hstate
      · exact steps_closed hm hconsistent hstate hevent

end Cases

/-- What one call of the machine can do. -/
theorem steps_apply {m : AgpsStateMachine} (hm : m.effects = [])
    (hconsistent : Consistent m.mStatePtr m.mSubscribers)
    (hsingle : m.mEnforceSingleSubscriber = false) (answers : Answers) (op : Op) :
    Steps answers m op (apply answers m op) := by
  cases op with
  | request handle => exact steps_request hm hconsistent hsingle handle
  | release handle => exact steps_release hm hconsistent handle
  | event event => exact steps_event hm hconsistent event

theorem mem_join {h : UInt32} {l : List Subscriber} {s : Subscriber} :
    s ∈ join h l ↔ s ∈ l ∨ (s = DSSubscriber h ∧ ∀ x ∈ l, x.ID ≠ h) := by
  by_cases hlisted : ∃ x ∈ l, x.ID = h
  · have hany : l.any (·.ID == h) = true := by simpa using hlisted
    have hnot : ¬∀ x ∈ l, x.ID ≠ h := by simpa using hlisted
    simp [join, hany, hnot]
  · have hany : l.any (·.ID == h) = false := by simpa using hlisted
    have hall : ∀ x ∈ l, x.ID ≠ h := by simpa using hlisted
    rw [join, if_neg (by simp [hany]), List.mem_cons, or_comm, and_iff_left hall]

theorem mem_deactivate {h : UInt32} {l : List Subscriber} {s : Subscriber} :
    s ∈ deactivate h l ↔
      (s ∈ l ∧ s.ID ≠ h) ∨ ∃ x ∈ l, x.ID = h ∧ x.inactivated = s := by
  simp only [deactivate, List.mem_map]
  constructor
  · rintro ⟨x, hx, heq⟩
    by_cases hID : x.ID = h
    · exact .inr ⟨x, hx, hID, by simpa [hID] using heq⟩
    · rw [if_neg hID] at heq
      exact .inl ⟨heq ▸ hx, heq ▸ hID⟩
  · rintro (⟨hs, hID⟩ | ⟨x, hx, hID, heq⟩)
    · exact ⟨s, hs, if_neg hID⟩
    · exact ⟨x, hx, by rw [if_pos hID, heq]⟩

theorem inactivated_isDS (s : Subscriber) : s.inactivated.isDS = s.isDS := by
  obtain ⟨id, bytes, cls⟩ := s
  cases cls <;> rfl

theorem inactivated_of_isDS {s : Subscriber} (hs : s.isDS = true) :
    s.inactivated.isInactive = true := by
  apply inactivated_isInactive
  obtain ⟨id, bytes, cls⟩ := s
  cases cls <;> simp_all [Subscriber.isDS]
  rfl

theorem map_ID_deactivate (h : UInt32) (l : List Subscriber) :
    (deactivate h l).map (·.ID) = l.map (·.ID) := by
  rw [deactivate, List.map_map]
  refine List.map_congr_left fun s _ => ?_
  by_cases hID : s.ID = h <;> simp [hID, inactivated_ID]

theorem nodup_join {h : UInt32} {l : List Subscriber} (hnodup : (l.map (·.ID)).Nodup) :
    ((join h l).map (·.ID)).Nodup := by
  by_cases hlisted : ∃ x ∈ l, x.ID = h
  · have hany : l.any (·.ID == h) = true := by simpa using hlisted
    simpa [join, hany] using hnodup
  · have hany : l.any (·.ID == h) = false := by simpa using hlisted
    simp only [join, hany, Bool.false_eq_true, if_false, List.map_cons, List.nodup_cons]
    refine ⟨?_, hnodup⟩
    intro hmem
    obtain ⟨x, hx, hID⟩ := List.mem_map.mp hmem
    exact hlisted ⟨x, hx, hID⟩

theorem exists_mem_join (h : UInt32) (l : List Subscriber) : ∃ x ∈ join h l, x.ID = h := by
  by_cases hlisted : ∃ x ∈ l, x.ID = h
  · obtain ⟨x, hx, hID⟩ := hlisted
    exact ⟨x, mem_join.mpr (.inl hx), hID⟩
  · exact ⟨DSSubscriber h, mem_join.mpr (.inr ⟨rfl, by simpa using hlisted⟩), rfl⟩

theorem active_of_mem_join {h : UInt32} {l : List Subscriber}
    (hactive : ∀ x ∈ l, x.isInactive = false) : ∀ x ∈ join h l, x.isInactive = false := by
  intro x hx
  rcases mem_join.mp hx with hx | ⟨rfl, -⟩
  · exact hactive x hx
  · rfl

theorem consistent_of_moves {answers : Answers} {state next : AgpsState}
    {l l' : List Subscriber} {retries retries' : UInt8} {op : Op} {effects : List Effect}
    (h : Consistent state l)
    (hmoves : Moves answers state l retries op next l' retries' effects) :
    Consistent next l' := by
  have hjoinDS {handle : UInt32} : ∀ s ∈ join handle l, s.isDS = true := by
    intro s hs
    rcases mem_join.mp hs with hs | ⟨rfl, -⟩
    · exact h.isDS s hs
    · rfl
  have hdeactivateDS {handle : UInt32} : ∀ s ∈ deactivate handle l, s.isDS = true := by
    intro s hs
    rcases mem_deactivate.mp hs with ⟨hs, -⟩ | ⟨x, hx, -, rfl⟩
    · exact h.isDS s hs
    · rw [inactivated_isDS]
      exact h.isDS x hx
  have hdeactivateNodup {handle : UInt32} : ((deactivate handle l).map (·.ID)).Nodup :=
    map_ID_deactivate handle l ▸ h.nodup
  have hnil {state : AgpsState} (hstate : state = .released) : Consistent state [] :=
    ⟨by simp, by simp, by simp, by simp [hstate]⟩
  cases hmoves with
  | @started _ _ handle =>
      have hactives := active_of_mem_join (h := handle) (h.released rfl)
      refine ⟨hjoinDS, nodup_join h.nodup, fun _ => hactives, fun _ => ?_⟩
      obtain ⟨x, hx, -⟩ := exists_mem_join handle l
      exact ⟨x, hx, hactives x hx⟩
  | joined hstate =>
      refine ⟨hjoinDS, nodup_join h.nodup, ?_, fun hactive => ?_⟩
      · rcases hstate with rfl | rfl <;> intro hstate <;> cases hstate
      · obtain ⟨s, hs, hinactive⟩ := h.active hactive
        exact ⟨s, mem_join.mpr (.inl hs), hinactive⟩
  | joinedGranted =>
      refine ⟨hjoinDS, nodup_join h.nodup, by simp, fun hactive => ?_⟩
      obtain ⟨s, hs, hinactive⟩ := h.active hactive
      exact ⟨s, mem_join.mpr (.inl hs), hinactive⟩
  | unknown | toldOnly | ignored => exact h
  | deactivated hlisted hstate hkeep =>
      refine ⟨hdeactivateDS, hdeactivateNodup, fun hreleased => absurd hreleased hstate, ?_⟩
      intro hactive
      rcases hkeep with rfl | hkeep
      · simp at hactive
      · exact hkeep
  | stopped => exact ⟨hdeactivateDS, hdeactivateNodup, by simp, by simp⟩
  | granted => exact ⟨h.isDS, h.nodup, by simp, fun _ => h.active (.inl rfl)⟩
  | denied | forced | closed => exact hnil rfl
  | reopened _ hactive =>
      refine ⟨fun s hs => h.isDS s (List.mem_filter.mp hs).1,
        h.nodup.sublist (List.filter_sublist.map _), by simp, fun _ => ?_⟩
      obtain ⟨s, hs, hinactive⟩ := hactive
      exact ⟨s, List.mem_filter.mpr ⟨hs, by simp [hinactive]⟩, hinactive⟩

/-- What an input asks of the machine, and what is left of the posted retry
requests. -/
inductive Takes : List UInt32 → Input → Op → Answers → List UInt32 → Prop
  | requestSuplEs {posted h answers} :
      Takes posted (.requestSuplEs h answers) (.request h) answers posted
  | retrySuplEs {posted h answers} :
      Takes (h :: posted) (.retrySuplEs answers) (.request h) answers posted
  | releaseATL {posted h answers} :
      Takes posted (.releaseATL h answers) (.release h) answers posted
  | onRsrcEvent {posted event answers} :
      Takes posted (.onRsrcEvent event answers) (.event event) answers posted

/-- The steps of the system, with what they add to the log. -/
inductive SystemStep (s : System) : Input → System → List Entry → Prop
  | idle {input} (hinput : input = .timerFires ∨ ∃ answers, input = .retrySuplEs answers) :
      SystemStep s input s []
  | called {input op answers posted next} (htakes : Takes s.posted input op answers posted)
      (hmoves : Moves answers s.machine.mStatePtr s.machine.mSubscribers s.machine.mRetries op
        next.mStatePtr next.mSubscribers next.mRetries next.effects) :
      SystemStep s input
        ⟨next, s.timers + timersIn next.effects, posted,
          s.log ++ .input input :: next.effects.map .effect⟩
        (.input input :: next.effects.map .effect)
  | expired {timers} (htimers : s.timers = timers + 1)
      (hnone : ∀ x ∈ s.machine.mSubscribers, x.isInactive = true) :
      SystemStep s .timerFires
        { s with timers := timers, log := s.log ++ [.input .timerFires] } [.input .timerFires]
  | posted {timers x} (htimers : s.timers = timers + 1) (hx : x ∈ s.machine.mSubscribers)
      (hactive : x.isInactive = false) :
      SystemStep s .timerFires
        { s with
          timers := timers
          posted := s.posted ++ [x.ID]
          log := s.log ++ [.input .timerFires, .effect (.requestSuplES x.ID)] }
        [.input .timerFires, .effect (.requestSuplES x.ID)]

theorem SystemStep.log_eq {s t : System} {input : Input} {entries : List Entry}
    (h : SystemStep s input t entries) : t.log = s.log ++ entries := by
  cases h with
  | idle => simp
  | _ => rfl

theorem SystemStep.logs_input {s t : System} {input : Input} {entries : List Entry}
    (h : SystemStep s input t entries) : t = s ∨ .input input ∈ entries := by
  cases h with
  | idle => exact .inl rfl
  | _ => exact .inr List.mem_cons_self

/-- The machine of a run is a `DSStateMachine` with a consistent list. -/
structure Sound (s : System) : Prop where
  consistent : Consistent s.machine.mStatePtr s.machine.mSubscribers
  single : s.machine.mEnforceSingleSubscriber = false

theorem systemStep {s : System} (hs : Sound s) (input : Input) :
    ∃ entries, SystemStep s input (step s input) entries := by
  have hsteps (answers : Answers) (op : Op) :=
    (steps_apply (m := { s.machine with effects := [] }) rfl hs.consistent hs.single
      answers op).1
  cases input with
  | requestSuplEs handle answers => exact ⟨_, .called .requestSuplEs (hsteps answers _)⟩
  | releaseATL handle answers => exact ⟨_, .called .releaseATL (hsteps answers _)⟩
  | onRsrcEvent event answers => exact ⟨_, .called .onRsrcEvent (hsteps answers _)⟩
  | retrySuplEs answers =>
      obtain ⟨machine, timers, posted, log⟩ := s
      cases posted with
      | nil => exact ⟨[], .idle (.inr ⟨answers, rfl⟩)⟩
      | cons handle rest => exact ⟨_, .called .retrySuplEs (hsteps answers _)⟩
  | timerFires =>
      obtain ⟨machine, timers, posted, log⟩ := s
      cases timers with
      | zero => exact ⟨[], .idle (.inl rfl)⟩
      | succ timers =>
          have hcallback : retryCallback machine =
              (machine.mSubscribers.find? (!·.isInactive)).map (·.ID) := rfl
          cases hfind : machine.mSubscribers.find? (!·.isInactive) with
          | none =>
              rw [hfind, Option.map_none] at hcallback
              simp only [step, hcallback]
              exact ⟨_, .expired rfl (by simpa using hfind)⟩
          | some x =>
              rw [hfind, Option.map_some] at hcallback
              simp only [step, hcallback]
              refine ⟨_, .posted rfl (List.mem_of_find?_eq_some hfind) ?_⟩
              simpa using List.find?_some hfind

theorem sound_step {s : System} (hs : Sound s) (input : Input) : Sound (step s input) := by
  have hsteps (answers : Answers) (op : Op) :=
    steps_apply (m := { s.machine with effects := [] }) rfl hs.consistent hs.single answers op
  have hsound (answers : Answers) (op : Op) {timers posted log} :
      Sound ⟨apply answers { s.machine with effects := [] } op, timers, posted, log⟩ :=
    ⟨consistent_of_moves hs.consistent (hsteps answers op).1,
      (hsteps answers op).2.trans hs.single⟩
  cases input with
  | requestSuplEs handle answers => exact hsound answers (.request handle)
  | releaseATL handle answers => exact hsound answers (.release handle)
  | onRsrcEvent event answers => exact hsound answers (.event event)
  | retrySuplEs answers =>
      obtain ⟨machine, timers, posted, log⟩ := s
      cases posted with
      | nil => exact hs
      | cons handle rest => exact hsound answers (.request handle)
  | timerFires =>
      obtain ⟨machine, timers, posted, log⟩ := s
      cases timers with
      | zero => exact hs
      | succ timers =>
          simp only [step]
          split <;> exact ⟨hs.consistent, hs.single⟩

theorem sound_start : Sound start :=
  ⟨⟨by simp [start, DSStateMachine.new, AgpsStateMachine.new], List.nodup_nil,
    by simp [start, DSStateMachine.new, AgpsStateMachine.new],
    by simp [start, DSStateMachine.new, AgpsStateMachine.new]⟩, rfl⟩

end G2Common.Agps.DataCall
