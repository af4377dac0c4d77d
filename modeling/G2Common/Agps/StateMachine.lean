import G2Common.Agps.Subscriber

/-!
`AgpsStateMachine` and its four states. The states call `sendRsrcRequest`,
which `DSStateMachine` overrides, so each state function takes it as the
argument `send`. The listed object that `unsubscribeRsrc` passes on by pointer
is given by its position in the list.
-/

namespace G2Common.Agps

/-- `linked_list_search` with a callback that may act on a state: the first
element the callback accepts and the list without it. -/
def linkedListSearch {α σ : Type*} (equal : α → σ → Bool × σ) :
    List α → σ → Option (α × List α) × σ
  | [], state => (none, state)
  | x :: rest, state =>
      match equal x state with
      | (true, state) => (some (x, rest), state)
      | (false, state) =>
          match linkedListSearch equal rest state with
          | (some (y, others), state) => (some (y, x :: others), state)
          | (none, state) => (none, state)

/-- What a state is told: `data` is the caller's object for a subscribe and the
listed object for an unsubscribe. -/
inductive RsrcEvent where
  | subscribe (data : Subscriber)
  | unsubscribe (data : Nat)
  | granted
  | released
  | denied
  deriving DecidableEq, Repr

/-- `GPS_REQUEST_AGPS_DATA_CONN` or `GPS_RELEASE_AGPS_DATA_CONN` in, the return
value and the machine afterwards out. -/
abbrev SendRsrcRequest := AGpsStatusValue → AgpsStateMachine → Int × AgpsStateMachine

namespace Notification

def toGroup (group : Broadcast) (status : AgpsRsrcStatus) (deleteAfterwards : Bool) :
    Notification :=
  ⟨.groupID group, status, deleteAfterwards⟩

def toSubscriber (subscriber : Subscriber) (status : AgpsRsrcStatus)
    (deleteAfterwards : Bool) : Notification :=
  ⟨.rcver subscriber, status, deleteAfterwards⟩

def matchGroup (group : Broadcast) : Notification := ⟨.groupID group, .statusMax, false⟩

def matchSubscriber (subscriber : Subscriber) : Notification :=
  ⟨.rcver subscriber, .statusMax, false⟩

end Notification

namespace AgpsStateMachine

/-- The constructor. -/
def new (type : AGpsExtType) (enforceSingleSubscriber : Bool) : AgpsStateMachine where
  mStatePtr := .released
  mSubscribers := []
  mType := type
  mAPN := none
  mBearer := .invalid
  mEnforceSingleSubscriber := enforceSingleSubscriber
  mRetries := 0
  effects := []

def setAPN (apn : Option (List UInt8)) (m : AgpsStateMachine) : AgpsStateMachine :=
  { m with mAPN := apn }

def setBearer (bearer : AGpsBearerType) (m : AgpsStateMachine) : AgpsStateMachine :=
  { m with mBearer := bearer }

/-- The search with `hasSubscriber`: the first listed subscriber that the
notification is for. -/
def search (notification : Notification) (m : AgpsStateMachine) : Option Subscriber :=
  m.mSubscribers.find? (·.forMe notification)

def hasSubscribers (m : AgpsStateMachine) : Bool := !m.mSubscribers.isEmpty

def hasActiveSubscribers (m : AgpsStateMachine) : Bool :=
  (m.search (.matchGroup .active)).isSome

def dropAllSubscribers (m : AgpsStateMachine) : AgpsStateMachine :=
  { m with mSubscribers := [] }

def notifySubscriber (notification : Notification) (s : Subscriber)
    (m : AgpsStateMachine) : Bool × AgpsStateMachine :=
  let (notified, m) := s.notifyRsrcStatus notification m
  (notified && notification.postNotifyDelete, m)

/-- The loop of `notifySubscribers`: each search deletes one subscriber, until
a search finds none. -/
def notifyAndDelete (notification : Notification) : Nat → AgpsStateMachine → AgpsStateMachine
  | 0, m => m
  | fuel + 1, m =>
      match linkedListSearch (notifySubscriber notification) m.mSubscribers m with
      | (some (_, others), m) =>
          notifyAndDelete notification fuel { m with mSubscribers := others }
      | (none, m) => m

def notifySubscribers (notification : Notification) (m : AgpsStateMachine) :
    AgpsStateMachine :=
  if notification.postNotifyDelete then
    notifyAndDelete notification (m.mSubscribers.length + 1) m
  else
    (linkedListSearch (notifySubscriber notification) m.mSubscribers m).2

def addSubscriber (subscriber : Subscriber) (m : AgpsStateMachine) : AgpsStateMachine :=
  match m.search (.matchSubscriber subscriber) with
  | none => { m with mSubscribers := subscriber.clone :: m.mSubscribers }
  | some _ => m

/-- The request built for the servicer, with `s` the first active subscriber. -/
def nifRequest (m : AgpsStateMachine) (action : AGpsStatusValue) :
    Option Subscriber → AGpsExtStatus
  | none => ⟨m.mType, action, some inaddrNone, false, [], []⟩
  | some s => ⟨m.mType, action, none, true, s.wifiInfo.1, s.wifiInfo.2⟩

/-- A request is dropped where its direction does not fit the list. -/
def sendRsrcRequest : SendRsrcRequest := fun action m =>
  let s := m.search (.matchGroup .active)
  if s.isNone = decide (action = .releaseAgpsDataConn) then
    (0, m.did (.requestRsrc (m.nifRequest action s)))
  else
    (0, m)

/-- `setInactive` of the listed subscriber `s` at position `data`. -/
def setInactive (data : Nat) (s : Subscriber) (m : AgpsStateMachine) : AgpsStateMachine :=
  let m := { m with mSubscribers := m.mSubscribers.set data s.inactivated }
  match s.cls with
  | .ds _ => m.informStatus .unsubscribe s.ID
  | _ => m

/-- How Pending, Acquired and Releasing begin an unsubscribe. -/
def closeSubscriber (data : Nat) (m : AgpsStateMachine) : AgpsStateMachine :=
  match m.mSubscribers[data]? with
  | none => m
  | some s =>
      if s.waitForCloseComplete then
        m.setInactive data s
      else
        m.notifySubscribers (.toSubscriber s .unsubscribe true)

/-- How Pending and Acquired end an unsubscribe. -/
def releaseIfUnused (send : SendRsrcRequest) (this : AgpsState) (m : AgpsStateMachine) :
    AgpsState × AgpsStateMachine :=
  if !m.hasSubscribers then
    (.released, (send .releaseAgpsDataConn m).2)
  else if !m.hasActiveSubscribers then
    (.releasing, (send .releaseAgpsDataConn m).2)
  else
    (this, m)

end AgpsStateMachine

open AgpsStateMachine

def AgpsReleasedState.onRsrcEvent (send : SendRsrcRequest) (m : AgpsStateMachine) :
    RsrcEvent → AgpsState × AgpsStateMachine
  | .subscribe data =>
      let (ret, m) := send .requestAgpsDataConn (m.addSubscriber data)
      (if ret = 0 then .pending else .released, m)
  | .unsubscribe data =>
      match m.mSubscribers[data]? with
      | none => (.released, m)
      | some s => (.released, (s.notifyRsrcStatus (.toSubscriber s .unsubscribe false) m).2)
  | _ => (.released, m)

def AgpsPendingState.onRsrcEvent (send : SendRsrcRequest) (m : AgpsStateMachine) :
    RsrcEvent → AgpsState × AgpsStateMachine
  | .subscribe data => (.pending, m.addSubscriber data)
  | .unsubscribe data => (m.closeSubscriber data).releaseIfUnused send .pending
  | .granted => (.acquired, m.notifySubscribers (.toGroup .active .granted false))
  | .released => (.pending, m)
  | .denied => (.released, m.notifySubscribers (.toGroup .all .denied true))

def AgpsAcquiredState.onRsrcEvent (send : SendRsrcRequest) (m : AgpsStateMachine) :
    RsrcEvent → AgpsState × AgpsStateMachine
  | .subscribe data =>
      let m := (data.notifyRsrcStatus (.toSubscriber data .granted false) m).2
      (.acquired, m.addSubscriber data)
  | .unsubscribe data => (m.closeSubscriber data).releaseIfUnused send .acquired
  | .granted => (.acquired, m)
  | .released => (.released, m.notifySubscribers (.toGroup .all .released true))
  | .denied => (.acquired, m)

/-- RELEASED and DENIED share one branch, which tells `status` to the inactive
subscribers and asks for the resource again for the active ones. -/
def AgpsReleasingState.onClosed (send : SendRsrcRequest) (status : AgpsRsrcStatus)
    (m : AgpsStateMachine) : AgpsState × AgpsStateMachine :=
  let m := m.notifySubscribers (.toGroup .inactive status true)
  if m.hasActiveSubscribers then
    (.pending, (send .requestAgpsDataConn m).2)
  else
    (.released, m)

def AgpsReleasingState.onRsrcEvent (send : SendRsrcRequest) (m : AgpsStateMachine) :
    RsrcEvent → AgpsState × AgpsStateMachine
  | .subscribe data => (.releasing, m.addSubscriber data)
  | .unsubscribe data =>
      let m := m.closeSubscriber data
      (if !m.hasSubscribers then .released else .releasing, m)
  | .denied => AgpsReleasingState.onClosed send .denied m
  | .released => AgpsReleasingState.onClosed send .released m
  | .granted => (.releasing, m)

/-- The virtual call through `mStatePtr`. -/
def AgpsState.onRsrcEvent (send : SendRsrcRequest) (m : AgpsStateMachine)
    (event : RsrcEvent) : AgpsState × AgpsStateMachine :=
  match m.mStatePtr with
  | .released => AgpsReleasedState.onRsrcEvent send m event
  | .pending => AgpsPendingState.onRsrcEvent send m event
  | .acquired => AgpsAcquiredState.onRsrcEvent send m event
  | .releasing => AgpsReleasingState.onRsrcEvent send m event

namespace AgpsStateMachine

/-- `mStatePtr = mStatePtr->onRsrcEvent(event, data)` -/
def stateEvent (send : SendRsrcRequest) (event : RsrcEvent) (m : AgpsStateMachine) :
    AgpsStateMachine :=
  let (next, m) := AgpsState.onRsrcEvent send m event
  { m with mStatePtr := next }

def onRsrcEvent (send : SendRsrcRequest) (event : AgpsRsrcStatus) (m : AgpsStateMachine) :
    AgpsStateMachine :=
  match event with
  | .granted => m.stateEvent send .granted
  | .released => m.stateEvent send .released
  | .denied => m.stateEvent send .denied
  | _ => m

def subscribeRsrc (send : SendRsrcRequest) (subscriber : Subscriber)
    (m : AgpsStateMachine) : AgpsStateMachine :=
  if m.mEnforceSingleSubscriber && m.hasSubscribers then
    (notifySubscriber (.toGroup .all .denied true) subscriber m).2
  else
    m.stateEvent send (.subscribe subscriber)

def unsubscribeRsrc (send : SendRsrcRequest) (subscriber : Subscriber)
    (m : AgpsStateMachine) : Bool × AgpsStateMachine :=
  match m.mSubscribers.findIdx? (·.forMe (.matchSubscriber subscriber)) with
  | some data => (true, m.stateEvent send (.unsubscribe data))
  | none => (false, m)

end AgpsStateMachine

end G2Common.Agps
