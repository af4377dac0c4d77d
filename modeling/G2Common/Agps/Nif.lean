import G2Common.Transition
import G2Common.Agps.Notify

/-!
The runs of a plain `AgpsStateMachine`, one that uses the base
`sendRsrcRequest`, and what one step of such a run can do. `Moves` lists the
steps that occur from a consistent state; every result about runs is derived
from it. Subscribers are values here and a deleted one is off the list: that
`notifySubscribers` looks once more at the receiver it has deleted shows only in
the memory of `NotifyStore`.
-/

namespace G2Common.Agps.Nif

open Transition AgpsStateMachine

inductive Input where
  | subscribeRsrc (subscriber : Subscriber)
  | unsubscribeRsrc (subscriber : Subscriber)
  | onRsrcEvent (event : AgpsRsrcStatus)
  deriving DecidableEq, Repr

/-- What a run writes down: each input with the state it was processed in, and
the effects it had. -/
inductive Entry where
  | input (state : AgpsState) (input : Input)
  | effect (e : Effect)
  deriving DecidableEq, Repr

def apply (m : AgpsStateMachine) : Input → AgpsStateMachine
  | .subscribeRsrc subscriber => m.subscribeRsrc sendRsrcRequest subscriber
  | .unsubscribeRsrc subscriber => (m.unsubscribeRsrc sendRsrcRequest subscriber).2
  | .onRsrcEvent event => m.onRsrcEvent sendRsrcRequest event

/-- One step; `effects` holds those of the last step only. -/
def machine (m : AgpsStateMachine) (input : Input) : AgpsStateMachine × List Entry :=
  let next := apply { m with effects := [] } input
  (next, .input m.mStatePtr input :: next.effects.map .effect)

def step : Traced AgpsStateMachine Entry → Input → Traced AgpsStateMachine Entry :=
  Traced.step machine

/-- A machine from construction on. -/
def start (type : AGpsExtType) (enforceSingleSubscriber : Bool) :
    Traced AgpsStateMachine Entry :=
  ⟨.new type enforceSingleSubscriber, []⟩

/-- The notifications among the effects, with the ID of who took them. -/
def toldIn (effects : List Effect) : List (UInt32 × AgpsRsrcStatus) :=
  effects.filterMap fun
    | .notified ID status => some (ID, status)
    | _ => none

/-- The requests handed to the servicer among the effects. -/
def requestsIn (effects : List Effect) : List AGpsStatusValue :=
  effects.filterMap fun
    | .requestRsrc nifRequest => some nifRequest.status
    | _ => none

/-- `addSubscriber` on the list alone. -/
def added (s : Subscriber) (l : List Subscriber) : List Subscriber :=
  if l.any (·.equals s) then l else s.clone :: l

/-- The state after an unsubscribe that left the list `l`, and what is asked of
the servicer. -/
def afterClose (state : AgpsState) (l : List Subscriber) :
    AgpsState × List AGpsStatusValue :=
  if state = .releasing then (if l.isEmpty then .released else .releasing, [])
  else if l.isEmpty then (.released, [.releaseAgpsDataConn])
  else if l.all (·.isInactive) then (.releasing, [.releaseAgpsDataConn])
  else (state, [])

/-- The events that a state acts on. -/
def heeds : AgpsState → AgpsRsrcStatus → Bool
  | .pending, .granted | .pending, .denied | .acquired, .released
  | .releasing, .released | .releasing, .denied => true
  | _, _ => false

/-- The steps of a plain machine: state and list before, input, state and list
after, whom it told what, and what it asked of the servicer. -/
inductive Moves (enforce : Bool) :
    AgpsState → List Subscriber → Input → AgpsState → List Subscriber →
      List (UInt32 × AgpsRsrcStatus) → List AGpsStatusValue → Prop
  | refused {state l s} (henforce : enforce = true) (hl : l ≠ []) :
      Moves enforce state l (.subscribeRsrc s) state l [(s.ID, .denied)] []
  | opened {s} :
      Moves enforce .released [] (.subscribeRsrc s) .pending [s.clone] []
        [.requestAgpsDataConn]
  | joined {state l s} (hstate : state = .pending ∨ state = .releasing) :
      Moves enforce state l (.subscribeRsrc s) state (added s l) [] []
  | joinedGranted {l s} :
      Moves enforce .acquired l (.subscribeRsrc s) .acquired (added s l)
        [(s.ID, .granted)] []
  | unknown {state l s} (hs : ∀ x ∈ l, x.equals s = false) :
      Moves enforce state l (.unsubscribeRsrc s) state l [] []
  | left {state l s x} (hx : x ∈ l) (heq : x.equals s = true)
      (hwait : x.waitForCloseComplete = false) :
      Moves enforce state l (.unsubscribeRsrc s)
        (afterClose state (l.filter (!·.equals x))).1 (l.filter (!·.equals x))
        ((l.filter (·.equals x)).map (·.ID, .unsubscribe))
        (afterClose state (l.filter (!·.equals x))).2
  | deactivated {state l s data x} (hx : l[data]? = some x) (heq : x.equals s = true)
      (hwait : x.waitForCloseComplete = true) :
      Moves enforce state l (.unsubscribeRsrc s)
        (afterClose state (l.set data x.inactivated)).1 (l.set data x.inactivated) []
        (afterClose state (l.set data x.inactivated)).2
  | granted {l} :
      Moves enforce .pending l (.onRsrcEvent .granted) .acquired l
        ((l.filter (!·.isInactive)).map (·.ID, .granted)) []
  | lost {state l event}
      (hlost : state = .pending ∧ event = .denied ∨ state = .acquired ∧ event = .released) :
      Moves enforce state l (.onRsrcEvent event) .released [] (l.map (·.ID, event)) []
  | closed {l event} (hevent : event = .released ∨ event = .denied)
      (hl : ∀ s ∈ l, s.isInactive = true) :
      Moves enforce .releasing l (.onRsrcEvent event) .released [] (l.map (·.ID, event)) []
  | reopened {l event} (hevent : event = .released ∨ event = .denied)
      (hl : ∃ s ∈ l, s.isInactive = false) :
      Moves enforce .releasing l (.onRsrcEvent event) .pending (l.filter (!·.isInactive))
        ((l.filter (·.isInactive)).map (·.ID, event)) [.requestAgpsDataConn]
  | ignored {state l event} (hevent : heeds state event = false) :
      Moves enforce state l (.onRsrcEvent event) state l [] []

/-- Released has nobody to serve, Pending and Acquired somebody active, and
Releasing somebody to tell when the connection is closed. -/
def Consistent : AgpsState → List Subscriber → Prop
  | .released, l => l = []
  | .pending, l | .acquired, l => ∃ s ∈ l, s.isInactive = false
  | .releasing, l => l ≠ []

@[simp] theorem toldIn_nil : toldIn [] = [] := rfl

@[simp] theorem requestsIn_nil : requestsIn [] = [] := rfl

@[simp] theorem toldIn_append (first second : List Effect) :
    toldIn (first ++ second) = toldIn first ++ toldIn second := by
  simp [toldIn]

@[simp] theorem requestsIn_append (first second : List Effect) :
    requestsIn (first ++ second) = requestsIn first ++ requestsIn second := by
  simp [requestsIn]

@[simp] theorem toldIn_calls (m : AgpsStateMachine) (status : AgpsRsrcStatus)
    (s : Subscriber) : toldIn (s.calls m status) = [] := by
  obtain ⟨id, bytes, cls⟩ := s
  cases cls <;> cases status <;> rfl

@[simp] theorem requestsIn_calls (m : AgpsStateMachine) (status : AgpsRsrcStatus)
    (s : Subscriber) : requestsIn (s.calls m status) = [] := by
  obtain ⟨id, bytes, cls⟩ := s
  cases cls <;> cases status <;> rfl

theorem toldIn_broadcast (m : AgpsStateMachine) (status : AgpsRsrcStatus)
    (l : List Subscriber) :
    toldIn (l.flatMap fun s => .notified s.ID status :: s.calls m status) =
      l.map (·.ID, status) := by
  induction l with
  | nil => rfl
  | cons s rest ih =>
      rw [List.flatMap_cons, toldIn_append, ih]
      have hcalls := toldIn_calls m status s
      simp only [toldIn] at hcalls
      simp [toldIn, hcalls]

theorem requestsIn_broadcast (m : AgpsStateMachine) (status : AgpsRsrcStatus)
    (l : List Subscriber) :
    requestsIn (l.flatMap fun s => .notified s.ID status :: s.calls m status) = [] := by
  induction l with
  | nil => rfl
  | cons s rest ih =>
      rw [List.flatMap_cons, requestsIn_append, ih]
      have hcalls := requestsIn_calls m status s
      simp only [requestsIn] at hcalls
      simp [requestsIn, hcalls]

section Notify

variable {n : Notification} (hn : n.rsrcStatus.isTold) (m : AgpsStateMachine)

include hn

theorem toldIn_notifySubscribers :
    toldIn (m.notifySubscribers n).effects =
      toldIn m.effects ++
        (m.mSubscribers.filter (·.forMe n)).map (·.ID, n.rsrcStatus) := by
  rw [notifySubscribers_effects hn, toldIn_append, toldIn_broadcast]

theorem requestsIn_notifySubscribers :
    requestsIn (m.notifySubscribers n).effects = requestsIn m.effects := by
  rw [notifySubscribers_effects hn, requestsIn_append, requestsIn_broadcast, List.append_nil]

end Notify

/-- Does the direction of a request fit the list? -/
def fits (action : AGpsStatusValue) (l : List Subscriber) : Bool :=
  match action with
  | .requestAgpsDataConn => l.any (!·.isInactive)
  | .releaseAgpsDataConn => l.all (·.isInactive)

theorem sendRsrcRequest_eq (action : AGpsStatusValue) (m : AgpsStateMachine) :
    ∃ nifRequest : AGpsExtStatus, nifRequest.status = action ∧
      sendRsrcRequest action m =
        (0, if fits action m.mSubscribers then m.did (.requestRsrc nifRequest) else m) := by
  refine ⟨m.nifRequest action (m.search (.matchGroup .active)), ?_, ?_⟩
  · cases m.search (.matchGroup .active) <;> rfl
  · have hnone : (m.search (.matchGroup .active)).isNone = !m.hasActiveSubscribers := by
      simp [hasActiveSubscribers]
    simp only [sendRsrcRequest, hnone, hasActiveSubscribers_eq]
    have hall : m.mSubscribers.all (·.isInactive) = !m.mSubscribers.any (!·.isInactive) := by
      simp [List.not_any_eq_all_not]
    simp only [fits, hall]
    cases action <;> cases m.mSubscribers.any (!·.isInactive) <;> rfl

/-- What the steps can change, effects read as notifications and requests. -/
structure View where
  mStatePtr : AgpsState
  mSubscribers : List Subscriber
  mEnforceSingleSubscriber : Bool
  told : List (UInt32 × AgpsRsrcStatus)
  requests : List AGpsStatusValue

def view (m : AgpsStateMachine) : View :=
  ⟨m.mStatePtr, m.mSubscribers, m.mEnforceSingleSubscriber, toldIn m.effects,
    requestsIn m.effects⟩

theorem view_mSubscribers (m : AgpsStateMachine) : (view m).mSubscribers = m.mSubscribers := rfl

theorem view_withSubscribers (m : AgpsStateMachine) (l : List Subscriber) :
    view { m with mSubscribers := l } = { view m with mSubscribers := l } := rfl

theorem view_withState (m : AgpsStateMachine) (state : AgpsState) :
    view { m with mStatePtr := state } = { view m with mStatePtr := state } := rfl

theorem view_sendRsrcRequest (action : AGpsStatusValue) (m : AgpsStateMachine) :
    view (sendRsrcRequest action m).2 =
      { view m with
        requests := requestsIn m.effects ++
          if fits action m.mSubscribers then [action] else [] } := by
  obtain ⟨nifRequest, hstatus, heq⟩ := sendRsrcRequest_eq action m
  rw [heq]
  split <;> simp [view, did, toldIn, requestsIn, hstatus]

theorem view_notifySubscribers {n : Notification} (hn : n.rsrcStatus.isTold)
    (m : AgpsStateMachine) :
    view (m.notifySubscribers n) =
      { view m with
        mSubscribers :=
          if n.postNotifyDelete then m.mSubscribers.filter (!·.forMe n) else m.mSubscribers
        told := toldIn m.effects ++
          (m.mSubscribers.filter (·.forMe n)).map (·.ID, n.rsrcStatus) } := by
  simp only [view, notifySubscribers_mStatePtr hn, notifySubscribers_mSubscribers hn,
    notifySubscribers_mEnforceSingleSubscriber hn, toldIn_notifySubscribers hn,
    requestsIn_notifySubscribers hn]

theorem view_notifyRsrcStatus {n : Notification} (hn : n.rsrcStatus.isTold) (s : Subscriber)
    (m : AgpsStateMachine) :
    view (s.notifyRsrcStatus n m).2 =
      { view m with
        told := toldIn m.effects ++ if s.forMe n then [(s.ID, n.rsrcStatus)] else [] } := by
  have hone := toldIn_broadcast m n.rsrcStatus [s]
  have hnone := requestsIn_broadcast m n.rsrcStatus [s]
  simp only [List.flatMap_cons, List.flatMap_nil, List.append_nil, List.map_cons,
    List.map_nil] at hone hnone
  rw [Subscriber.notifyRsrcStatus_eq hn]
  split <;> simp [view, Subscriber.told, hone, hnone]

theorem view_closeSubscriber {m : AgpsStateMachine} {data : Nat} {x : Subscriber}
    (hx : m.mSubscribers[data]? = some x) :
    view (m.closeSubscriber data) =
      if x.waitForCloseComplete then
        { view m with mSubscribers := m.mSubscribers.set data x.inactivated }
      else
        { view m with
          mSubscribers := m.mSubscribers.filter (!·.equals x)
          told := toldIn m.effects ++
            (m.mSubscribers.filter (·.equals x)).map (·.ID, .unsubscribe) } := by
  simp only [closeSubscriber, hx]
  split
  · obtain ⟨id, bytes, cls⟩ := x
    cases cls <;> simp [setInactive, view, informStatus, did, toldIn, requestsIn]
  · rw [view_notifySubscribers rfl]
    rfl

theorem view_releaseIfUnused (state : AgpsState) (hstate : state ≠ .releasing)
    (m : AgpsStateMachine) :
    (m.releaseIfUnused sendRsrcRequest state).1 = (afterClose state m.mSubscribers).1 ∧
      view (m.releaseIfUnused sendRsrcRequest state).2 =
        { view m with
          requests := requestsIn m.effects ++ (afterClose state m.mSubscribers).2 } := by
  have hall : m.mSubscribers.all (·.isInactive) = !m.hasActiveSubscribers := by
    simp [hasActiveSubscribers_eq, List.not_any_eq_all_not]
  by_cases hempty : m.mSubscribers = []
  · simp [releaseIfUnused, hasSubscribers, afterClose, hstate, hempty, view_sendRsrcRequest,
      fits]
  · cases hactive : m.hasActiveSubscribers <;>
      simp [releaseIfUnused, hasSubscribers, afterClose, hstate, hempty, hactive, hall,
        view_sendRsrcRequest, fits]
    rfl

@[simp] theorem clone_isInactive (s : Subscriber) : s.clone.isInactive = false := by
  obtain ⟨id, bytes, cls⟩ := s
  cases cls <;> rfl

theorem addSubscriber_eq (s : Subscriber) (m : AgpsStateMachine) :
    m.addSubscriber s = { m with mSubscribers := added s m.mSubscribers } := by
  have hsome : (m.search (.matchSubscriber s)).isSome = m.mSubscribers.any (·.equals s) := by
    rw [search, List.isSome_find?]
    rfl
  cases h : m.search (.matchSubscriber s) <;> simp_all [addSubscriber, added]

theorem view_stateEvent (send : SendRsrcRequest) (event : RsrcEvent)
    (m : AgpsStateMachine) :
    view (m.stateEvent send event) =
      { view (AgpsState.onRsrcEvent send m event).2 with
        mStatePtr := (AgpsState.onRsrcEvent send m event).1 } := rfl

section Cases

variable {m : AgpsStateMachine} (hm : m.effects = [])

/-- The step relation between two machines. -/
def Steps (m : AgpsStateMachine) (input : Input) (next : AgpsStateMachine) : Prop :=
  Moves m.mEnforceSingleSubscriber m.mStatePtr m.mSubscribers input next.mStatePtr
      next.mSubscribers (toldIn next.effects) (requestsIn next.effects) ∧
    next.mEnforceSingleSubscriber = m.mEnforceSingleSubscriber

theorem steps_of_view {input : Input} {state : AgpsState} {l : List Subscriber}
    {told : List (UInt32 × AgpsRsrcStatus)} {requests : List AGpsStatusValue}
    {next : AgpsStateMachine}
    (hview : view next = ⟨state, l, m.mEnforceSingleSubscriber, told, requests⟩)
    (h : Moves m.mEnforceSingleSubscriber m.mStatePtr m.mSubscribers input state l told
      requests) : Steps m input next := by
  obtain ⟨hstate, hl, henforce, htold, hrequests⟩ := View.mk.inj hview
  rw [Steps, hstate, hl, htold, hrequests]
  exact ⟨h, henforce⟩

include hm

/-- A machine that enforces a single subscriber turns another one away. -/
theorem view_refused (hrefuse : m.mEnforceSingleSubscriber && m.hasSubscribers)
    (s : Subscriber) :
    view (m.subscribeRsrc sendRsrcRequest s) =
      ⟨m.mStatePtr, m.mSubscribers, m.mEnforceSingleSubscriber, [(s.ID, .denied)], []⟩ := by
  rw [subscribeRsrc, if_pos hrefuse]
  apply (view_notifyRsrcStatus rfl s m).trans
  simp [view, hm, Subscriber.forMe, Notification.toGroup]

theorem steps_subscribe (h : Consistent m.mStatePtr m.mSubscribers) (s : Subscriber) :
    Steps m (.subscribeRsrc s) (m.subscribeRsrc sendRsrcRequest s) := by
  by_cases hrefuse : m.mEnforceSingleSubscriber && m.hasSubscribers
  · obtain ⟨henforce, hl⟩ : m.mEnforceSingleSubscriber = true ∧ m.mSubscribers ≠ [] := by
      simpa [hasSubscribers] using hrefuse
    exact steps_of_view (view_refused hm hrefuse s) (.refused henforce hl)
  · rw [subscribeRsrc, if_neg hrefuse]
    have hadd : view (m.addSubscriber s) =
        ⟨m.mStatePtr, added s m.mSubscribers, m.mEnforceSingleSubscriber, [], []⟩ := by
      simp [addSubscriber_eq, view, hm]
    cases hstate : m.mStatePtr with
    | released =>
        have hl : m.mSubscribers = [] := by simpa [Consistent, hstate] using h
        have hview : view (m.stateEvent sendRsrcRequest (.subscribe s)) =
            ⟨.pending, [s.clone], m.mEnforceSingleSubscriber, [], [.requestAgpsDataConn]⟩ := by
          have hret : (sendRsrcRequest .requestAgpsDataConn (m.addSubscriber s)).1 = 0 := by
            obtain ⟨_, _, heq⟩ := sendRsrcRequest_eq .requestAgpsDataConn (m.addSubscriber s)
            rw [heq]
          simp only [view_stateEvent, AgpsState.onRsrcEvent, hstate,
            AgpsReleasedState.onRsrcEvent, hret, view_sendRsrcRequest, hadd]
          simp [addSubscriber_eq, hl, added, fits, hm]
        apply steps_of_view hview
        rw [hstate, hl]
        exact .opened
    | pending =>
        have hview : view (m.stateEvent sendRsrcRequest (.subscribe s)) =
            ⟨.pending, added s m.mSubscribers, m.mEnforceSingleSubscriber, [], []⟩ := by
          simp only [view_stateEvent, AgpsState.onRsrcEvent, hstate,
            AgpsPendingState.onRsrcEvent, hadd]
        apply steps_of_view hview
        rw [hstate]
        exact .joined (.inl rfl)
    | acquired =>
        have htold : view (s.notifyRsrcStatus (.toSubscriber s .granted false) m).2 =
            ⟨m.mStatePtr, m.mSubscribers, m.mEnforceSingleSubscriber, [(s.ID, .granted)], []⟩ := by
          apply (view_notifyRsrcStatus rfl s m).trans
          simp [view, hm, Subscriber.forMe, Notification.toSubscriber]
        have hview : view (m.stateEvent sendRsrcRequest (.subscribe s)) =
            ⟨.acquired, added s m.mSubscribers, m.mEnforceSingleSubscriber,
              [(s.ID, .granted)], []⟩ := by
          simp only [view_stateEvent, AgpsState.onRsrcEvent, hstate,
            AgpsAcquiredState.onRsrcEvent, addSubscriber_eq, view_withSubscribers, htold]
          rw [← view_mSubscribers, htold]
        apply steps_of_view hview
        rw [hstate]
        exact .joinedGranted
    | releasing =>
        have hview : view (m.stateEvent sendRsrcRequest (.subscribe s)) =
            ⟨.releasing, added s m.mSubscribers, m.mEnforceSingleSubscriber, [], []⟩ := by
          simp only [view_stateEvent, AgpsState.onRsrcEvent, hstate,
            AgpsReleasingState.onRsrcEvent, hadd]
        apply steps_of_view hview
        rw [hstate]
        exact .joined (.inr rfl)

omit hm in
theorem view_unsubscribe {data : Nat} {l : List Subscriber} {enforce : Bool}
    {told : List (UInt32 × AgpsRsrcStatus)} (hstate : m.mStatePtr ≠ .released)
    (hclose : view (m.closeSubscriber data) = ⟨m.mStatePtr, l, enforce, told, []⟩) :
    view (m.stateEvent sendRsrcRequest (.unsubscribe data)) =
      ⟨(afterClose m.mStatePtr l).1, l, enforce, told, (afterClose m.mStatePtr l).2⟩ := by
  have hl : (m.closeSubscriber data).mSubscribers = l := congrArg View.mSubscribers hclose
  have hrequests : requestsIn (m.closeSubscriber data).effects = [] :=
    congrArg View.requests hclose
  cases hm' : m.mStatePtr with
  | released => exact absurd hm' hstate
  | pending | acquired =>
      obtain ⟨hnext, hview⟩ := view_releaseIfUnused m.mStatePtr (by simp [hm'])
        (m.closeSubscriber data)
      rw [hm'] at hnext hview
      simp only [view_stateEvent, AgpsState.onRsrcEvent, hm', AgpsPendingState.onRsrcEvent,
        AgpsAcquiredState.onRsrcEvent, hnext, hview, hclose, hl, hrequests, List.nil_append]
  | releasing =>
      simp only [view_stateEvent, AgpsState.onRsrcEvent, hm', AgpsReleasingState.onRsrcEvent,
        hclose, hasSubscribers, hl]
      simp [afterClose]

theorem steps_unsubscribe (h : Consistent m.mStatePtr m.mSubscribers) (s : Subscriber) :
    Steps m (.unsubscribeRsrc s) (m.unsubscribeRsrc sendRsrcRequest s).2 := by
  cases hfind : m.mSubscribers.findIdx? (·.forMe (.matchSubscriber s)) with
  | none =>
      have hview : view (m.unsubscribeRsrc sendRsrcRequest s).2 =
          ⟨m.mStatePtr, m.mSubscribers, m.mEnforceSingleSubscriber, [], []⟩ := by
        simp [unsubscribeRsrc, hfind, view, hm]
      exact steps_of_view hview (.unknown (List.findIdx?_eq_none_iff.mp hfind))
  | some data =>
      obtain ⟨hdata, heq, -⟩ := List.findIdx?_eq_some_iff_getElem.mp hfind
      have hx := List.getElem?_eq_getElem hdata
      generalize m.mSubscribers[data] = x at hx heq
      have hstate : m.mStatePtr ≠ .released := by
        intro hreleased
        simp only [Consistent, hreleased] at h
        simp [h] at hx
      have hclose := view_closeSubscriber hx
      rw [unsubscribeRsrc, hfind]
      cases hwait : x.waitForCloseComplete with
      | true =>
          have hclosed : view (m.closeSubscriber data) =
              ⟨m.mStatePtr, m.mSubscribers.set data x.inactivated,
                m.mEnforceSingleSubscriber, [], []⟩ := by
            rw [hclose, if_pos hwait]
            simp [view, hm]
          have hview := view_unsubscribe hstate hclosed
          exact steps_of_view hview (.deactivated hx heq hwait)
      | false =>
          have hclosed : view (m.closeSubscriber data) =
              ⟨m.mStatePtr, m.mSubscribers.filter (!·.equals x), m.mEnforceSingleSubscriber,
                (m.mSubscribers.filter (·.equals x)).map (·.ID, .unsubscribe), []⟩ := by
            rw [hclose, if_neg (by simp [hwait])]
            simp [view, hm]
          have hview := view_unsubscribe hstate hclosed
          exact steps_of_view hview (.left (List.mem_of_getElem? hx) heq hwait)

theorem steps_ignored {event : AgpsRsrcStatus} (hevent : heeds m.mStatePtr event = false) :
    Steps m (.onRsrcEvent event) (m.onRsrcEvent sendRsrcRequest event) := by
  have hview : view (m.onRsrcEvent sendRsrcRequest event) =
      ⟨m.mStatePtr, m.mSubscribers, m.mEnforceSingleSubscriber, [], []⟩ := by
    cases hstate : m.mStatePtr <;> cases event <;> simp only [hstate] at hevent <;>
      first
        | exact absurd hevent (by decide)
        | simp [onRsrcEvent, stateEvent, AgpsState.onRsrcEvent, hstate, view, hm,
            AgpsReleasedState.onRsrcEvent, AgpsPendingState.onRsrcEvent,
            AgpsAcquiredState.onRsrcEvent, AgpsReleasingState.onRsrcEvent]
  exact steps_of_view hview (.ignored hevent)

/-- Acquired on a forced release and Pending on a denial tell everybody and
drop the list. -/
theorem steps_lost {event : AgpsRsrcStatus}
    (hlost : m.mStatePtr = .pending ∧ event = .denied ∨
      m.mStatePtr = .acquired ∧ event = .released) :
    Steps m (.onRsrcEvent event) (m.onRsrcEvent sendRsrcRequest event) := by
  have hall : view (m.notifySubscribers (.toGroup .all event true)) =
      ⟨m.mStatePtr, [], m.mEnforceSingleSubscriber,
        m.mSubscribers.map (·.ID, event), []⟩ := by
    have htold : event.isTold = true := by
      rcases hlost with ⟨-, rfl⟩ | ⟨-, rfl⟩ <;> rfl
    apply (view_notifySubscribers htold m).trans
    simp [view, hm, Notification.toGroup, Subscriber.forMe]
  have hview : view (m.onRsrcEvent sendRsrcRequest event) =
      ⟨.released, [], m.mEnforceSingleSubscriber, m.mSubscribers.map (·.ID, event), []⟩ := by
    rcases hlost with ⟨hstate, rfl⟩ | ⟨hstate, rfl⟩ <;>
      simp only [onRsrcEvent, view_stateEvent, AgpsState.onRsrcEvent, hstate,
        AgpsPendingState.onRsrcEvent, AgpsAcquiredState.onRsrcEvent, hall]
  exact steps_of_view hview (.lost hlost)

theorem steps_granted (hstate : m.mStatePtr = .pending) :
    Steps m (.onRsrcEvent .granted) (m.onRsrcEvent sendRsrcRequest .granted) := by
  have hview : view (m.onRsrcEvent sendRsrcRequest .granted) =
      ⟨.acquired, m.mSubscribers, m.mEnforceSingleSubscriber,
        (m.mSubscribers.filter (!·.isInactive)).map (·.ID, .granted), []⟩ := by
    simp only [onRsrcEvent, view_stateEvent, AgpsState.onRsrcEvent, hstate,
      AgpsPendingState.onRsrcEvent,
      view_notifySubscribers (n := .toGroup .active .granted false) rfl]
    simp [view, hm, Notification.toGroup, Subscriber.forMe]
  apply steps_of_view hview
  rw [hstate]
  exact .granted

theorem steps_closed (hstate : m.mStatePtr = .releasing) {event : AgpsRsrcStatus}
    (hevent : event = .released ∨ event = .denied) :
    Steps m (.onRsrcEvent event) (m.onRsrcEvent sendRsrcRequest event) := by
  have hstatus : (Notification.toGroup .inactive event true).rsrcStatus.isTold = true := by
    rcases hevent with rfl | rfl <;> rfl
  have htold : view (m.notifySubscribers (.toGroup .inactive event true)) =
      ⟨.releasing, m.mSubscribers.filter (!·.isInactive), m.mEnforceSingleSubscriber,
        (m.mSubscribers.filter (·.isInactive)).map (·.ID, event), []⟩ := by
    apply (view_notifySubscribers hstatus m).trans
    simp [view, hm, hstate, Notification.toGroup, Subscriber.forMe]
  have hclosed : m.onRsrcEvent sendRsrcRequest event =
      { (AgpsReleasingState.onClosed sendRsrcRequest event m).2 with
        mStatePtr := (AgpsReleasingState.onClosed sendRsrcRequest event m).1 } := by
    rcases hevent with rfl | rfl <;>
      simp only [onRsrcEvent, stateEvent, AgpsState.onRsrcEvent, hstate,
        AgpsReleasingState.onRsrcEvent]
  have hl : (m.notifySubscribers (.toGroup .inactive event true)).mSubscribers =
      m.mSubscribers.filter (!·.isInactive) := congrArg View.mSubscribers htold
  have hactive : (m.notifySubscribers (.toGroup .inactive event true)).hasActiveSubscribers =
      m.mSubscribers.any (!·.isInactive) := by
    simp [hasActiveSubscribers_eq, hl]
  by_cases h : ∃ s ∈ m.mSubscribers, s.isInactive = false
  · have hview : view (m.onRsrcEvent sendRsrcRequest event) =
        ⟨.pending, m.mSubscribers.filter (!·.isInactive), m.mEnforceSingleSubscriber,
          (m.mSubscribers.filter (·.isInactive)).map (·.ID, event),
          [.requestAgpsDataConn]⟩ := by
      have hsome : m.mSubscribers.any (!·.isInactive) = true := by simpa using h
      have hfits : fits .requestAgpsDataConn (m.mSubscribers.filter (!·.isInactive)) = true := by
        simpa [fits] using h
      simp only [hclosed, AgpsReleasingState.onClosed, hactive, hsome, if_true,
        view_withState, view_sendRsrcRequest, htold, hl, hfits]
      simp [requestsIn_notifySubscribers hstatus, hm]
    apply steps_of_view hview
    rw [hstate]
    exact .reopened hevent h
  · have hinactive : ∀ s ∈ m.mSubscribers, s.isInactive = true := by
      simpa using h
    have hview : view (m.onRsrcEvent sendRsrcRequest event) =
        ⟨.released, [], m.mEnforceSingleSubscriber, m.mSubscribers.map (·.ID, event), []⟩ := by
      have hnone : m.mSubscribers.any (!·.isInactive) = false := by simpa using hinactive
      have hkept : m.mSubscribers.filter (!·.isInactive) = [] := by simpa using hinactive
      have hgone : m.mSubscribers.filter (·.isInactive) = m.mSubscribers := by
        simpa using hinactive
      simp [hclosed, AgpsReleasingState.onClosed, hactive, hnone, view_withState, htold,
        hkept, hgone]
    apply steps_of_view hview
    rw [hstate]
    exact .closed hevent hinactive

omit hm in
theorem heeds_cases {state : AgpsState} {event : AgpsRsrcStatus}
    (h : heeds state event = true) :
    (state = .pending ∧ event = .granted) ∨
      (state = .pending ∧ event = .denied ∨ state = .acquired ∧ event = .released) ∨
      (state = .releasing ∧ (event = .released ∨ event = .denied)) := by
  revert h
  cases state <;> cases event <;> decide

theorem steps_onRsrcEvent (event : AgpsRsrcStatus) :
    Steps m (.onRsrcEvent event) (m.onRsrcEvent sendRsrcRequest event) := by
  cases hheeds : heeds m.mStatePtr event with
  | false => exact steps_ignored hm hheeds
  | true =>
      rcases heeds_cases hheeds with ⟨hstate, rfl⟩ | hlost | ⟨hstate, hevent⟩
      · exact steps_granted hm hstate
      · exact steps_lost hm hlost
      · exact steps_closed hm hstate hevent

end Cases

/-- What one step of a plain machine can do from a consistent state. -/
theorem steps_machine {m : AgpsStateMachine} (h : Consistent m.mStatePtr m.mSubscribers)
    (input : Input) : Steps m input (machine m input).1 := by
  have hm : ({ m with effects := [] } : AgpsStateMachine).effects = [] := rfl
  cases input with
  | subscribeRsrc subscriber => exact steps_subscribe hm h subscriber
  | unsubscribeRsrc subscriber => exact steps_unsubscribe hm h subscriber
  | onRsrcEvent event => exact steps_onRsrcEvent hm event

end G2Common.Agps.Nif
