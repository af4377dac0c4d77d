import G2Common.Progress
import G2Common.Agps.LocEng
import G2Common.Agps.Notify

/-!
How the name and the bearer of an open connection come from the framework to the modem. The calls
of the framework, the modem and the daemon are put in the queue of the message thread, which
processes them on the four machines; the framework's calls name their machine when they are made.
-/

namespace G2Common.Agps

open Transition AgpsStateMachine

def MAX_APN_LEN : Nat := 100

/-- What `LocEngAtlOpenSuccess` carries to its machine. -/
structure OpenReport where
  nif : Nif
  apn : List UInt8
  bearerType : AGpsBearerType
  deriving DecidableEq, Repr

/-- The calls of `LocEngAdapter` that need `mSupportsAgpsRequests`. -/
inductive AdapterCall where
  | requestATL (connHandle : UInt32) (agps_type : AGpsExtType) (raw : Vector UInt8 16)
  | releaseATL (connHandle : UInt32) (raw : Vector UInt8 16)
  | requestSuplES (connHandle : UInt32) (raw : Vector UInt8 16)
  | reportDataCallOpened
  | reportDataCallClosed
  deriving DecidableEq, Repr

def AdapterCall.msg : AdapterCall → LocEng.Msg
  | .requestATL connHandle agps_type raw => .requestATL connHandle agps_type raw
  | .releaseATL connHandle raw => .releaseATL connHandle raw
  | .requestSuplES connHandle raw => .requestSuplEs connHandle raw
  | .reportDataCallOpened => .suplEsOpened
  | .reportDataCallClosed => .suplEsClosed

/-- The messages that the handlers of the daemon's thread send. -/
inductive DaemonCall where
  | bit (type : AGpsExtType) (ipv4 : UInt32) (ipv6 : Vector UInt8 16) (isReq : Bool)
  | wifi (type : AGpsExtType) (senderId : SenderId) (ssid password : Option (List UInt8))
      (raw : Vector UInt8 16) (isReq : Bool)
  deriving DecidableEq, Repr

def DaemonCall.msg : DaemonCall → LocEng.Msg
  | .bit type ipv4 ipv6 isReq => .reqRelBIT type ipv4 ipv6 isReq
  | .wifi type senderId ssid password raw isReq =>
      .reqRelWifi type senderId ssid password raw isReq

structure AgpsTarget where
  gnssType : GnssTarget
  mSupportsAgpsRequests : Bool
  USE_EMERGENCY_PDN_FOR_EMERGENCY_SUPL : Bool
  deriving DecidableEq, Repr

/-- The targets that get a machine for the modem's own connection. -/
def AgpsTarget.hasAgnss (target : AgpsTarget) : Bool :=
  target.gnssType ≠ .gss ∧ target.gnssType ≠ .qca1530

/-- An APN is given by its characters before the NUL. `ret` is what `initDataServiceClient` will
return when the message that calls it is processed. -/
inductive HandoverInput where
  | agpsInit (statusCb : Option Bool) (ret : Int)
  | agpsOpen (agpsType : AGpsExtType) (apn : Option (List UInt8)) (bearerType : AGpsBearerType)
  | agpsClosed (agpsType : AGpsExtType)
  | agpsOpenFailed (agpsType : AGpsExtType)
  | adapter (call : AdapterCall)
  | daemon (call : DaemonCall)
  | handleEngineDownEvent
  | handleEngineUpEvent
  | msgTask (answers : Answers)
  deriving DecidableEq, Repr

/-- What a function returns, a report that the thread hands to its machine, and the calls that a
machine makes; `none` stands for those that no machine makes. -/
inductive HandoverEntry where
  | returned (ret : Int)
  | took (report : OpenReport)
  | called (nif : Option Nif) (effect : Effect)
  deriving DecidableEq, Repr

/-- `launched` says that the daemon's thread runs. Once a method of a machine that does not exist
was called, nothing runs any more. -/
structure Handover where
  eng : LocEng
  launched : Bool
  queue : List LocEng.Msg
  nullCalled : Bool
  deriving DecidableEq, Repr

namespace LocEng

/-- Does `proc` call a method through a `NULL` pointer to a machine? -/
def callsNull (s : LocEng) : Msg → Bool
  | .reqRelBIT type _ _ _ => (s.nif (s.getAgpsStateMachine type)).isNone
  | .atlOpenSuccess nif _ _ | .atlClosed nif | .atlOpenFailed nif => (s.nif nif).isNone
  | _ => false

def Msg.report : Msg → Option OpenReport
  | .atlOpenSuccess nif apn bearerType => some ⟨nif, apn, bearerType⟩
  | _ => none

/-- The calls of the last step. -/
def calls (s : LocEng) : List HandoverEntry :=
  [Nif.agnss, .internet, .wifi, .ds].flatMap (fun nif =>
      ((s.nif nif).elim [] (·.effects)).map (.called (some nif))) ++
    s.effects.map (.called none)

end LocEng

namespace Handover

def sendMsg (s : Handover) (msg : LocEng.Msg) : Handover := { s with queue := s.queue ++ [msg] }

/-- `loc_eng_agps_init`, with the message and the thread that it starts. -/
def agpsInit (target : AgpsTarget) (statusCb : Option Bool) (ret : Int) (s : Handover) :
    Handover :=
  let next := { s with eng := s.eng.agpsInit statusCb target.gnssType }
  if !s.eng.agpsStatusCb && statusCb.isSome && target.hasAgnss && target.mSupportsAgpsRequests then
    { if target.USE_EMERGENCY_PDN_FOR_EMERGENCY_SUPL then next.sendMsg (.dataClientInit ret)
      else next with launched := true }
  else next

/-- `loc_eng_agps_open`, `loc_eng_agps_closed` and `loc_eng_agps_open_failed` after their check:
the message is made for the machine of the type. -/
def sendToNif (s : Handover) (agpsType : AGpsExtType) (msg : Nif → LocEng.Msg) :
    Handover × List HandoverEntry :=
  if s.eng.agpsStatusCb then (s.sendMsg (msg (s.eng.getAgpsStateMachine agpsType)), [.returned 0])
  else (s, [.returned (-1)])

def agpsOpen (s : Handover) (agpsType : AGpsExtType) (apn : Option (List UInt8))
    (bearerType : AGpsBearerType) : Handover × List HandoverEntry :=
  match apn with
  | none => (s, [.returned (if s.eng.agpsStatusCb then 0 else -1)])
  | some apn =>
      s.sendToNif agpsType fun nif => .atlOpenSuccess nif (apn.take MAX_APN_LEN) bearerType

/-- A turn of the message thread. -/
def msgTask (s : Handover) (answers : Answers) : Handover × List HandoverEntry :=
  match s.queue with
  | [] => (s, [])
  | msg :: queue =>
      if s.eng.callsNull msg then ({ s with nullCalled := true }, [])
      else
        ({ s with eng := s.eng.step (msg, answers), queue := queue },
          msg.report.toList.map .took ++ (s.eng.step (msg, answers)).calls)

def machine (target : AgpsTarget) (s : Handover) (input : HandoverInput) :
    Handover × List HandoverEntry :=
  if s.nullCalled then (s, [])
  else
    match input with
    | .agpsInit statusCb ret => (s.agpsInit target statusCb ret, [])
    | .agpsOpen agpsType apn bearerType => s.agpsOpen agpsType apn bearerType
    | .agpsClosed agpsType => s.sendToNif agpsType .atlClosed
    | .agpsOpenFailed agpsType => s.sendToNif agpsType .atlOpenFailed
    | .adapter call => (if target.mSupportsAgpsRequests then s.sendMsg call.msg else s, [])
    | .daemon call => (if s.launched then s.sendMsg call.msg else s, [])
    | .handleEngineDownEvent => (s.sendMsg .engineDown, [])
    | .handleEngineUpEvent => (s.sendMsg .engineUp, [])
    | .msgTask answers => s.msgTask answers

end Handover

abbrev HandoverRun := Traced Handover HandoverEntry

def Handover.step (target : AgpsTarget) : HandoverRun → HandoverInput → HandoverRun :=
  Traced.step (Handover.machine target)

def handoverStart : HandoverRun := ⟨⟨LocEng.start, false, [], false⟩, []⟩

def NoDS (m : AgpsStateMachine) : Prop := ∀ x ∈ m.mSubscribers, x.isDS = false

/-- An answer on a connection has the name and the bearer that the machine holds, and is a success
only where `ok` is met. -/
def Says (ok : Prop) (m : AgpsStateMachine) : Effect → Prop
  | .atlOpenStatus _ isSucc apn bearer type =>
      apn = m.mAPN ∧ bearer = m.mBearer ∧ (type = .invalid ∨ type = m.mType) ∧
        (isSucc = true → ok)
  | _ => True

/-- What a part of a step does to a machine without subscribers of the data services. -/
structure Tells (ok : Prop) (m next : AgpsStateMachine) : Prop where
  mAPN : next.mAPN = m.mAPN
  mBearer : next.mBearer = m.mBearer
  mType : next.mType = m.mType
  noDS : NoDS next
  said : ∃ more, next.effects = m.effects ++ more ∧ ∀ e ∈ more, Says ok m e

section Tells

variable {ok : Prop} {m next last : AgpsStateMachine}

theorem says_congr (hAPN : next.mAPN = m.mAPN) (hBearer : next.mBearer = m.mBearer)
    (hType : next.mType = m.mType) (e : Effect) : Says ok next e ↔ Says ok m e := by
  cases e with
  | atlOpenStatus =>
      rw [Says, Says, hAPN, hBearer, hType]
  | _ => exact Iff.rfl

theorem Tells.refl (hds : NoDS m) : Tells ok m m where
  mAPN := rfl
  mBearer := rfl
  mType := rfl
  noDS := hds
  said := ⟨[], (List.append_nil _).symm, fun _ he => absurd he List.not_mem_nil⟩

theorem Tells.trans (h : Tells ok m next) (h' : Tells ok next last) : Tells ok m last where
  mAPN := h'.mAPN.trans h.mAPN
  mBearer := h'.mBearer.trans h.mBearer
  mType := h'.mType.trans h.mType
  noDS := h'.noDS
  said := by
    obtain ⟨first, hfirst, hsays⟩ := h.said
    obtain ⟨second, hsecond, hsays'⟩ := h'.said
    refine ⟨first ++ second, by rw [hsecond, hfirst, List.append_assoc], ?_⟩
    intro e he
    rcases List.mem_append.mp he with he | he
    · exact hsays e he
    · exact (says_congr h.mAPN h.mBearer h.mType e).mp (hsays' e he)

/-- Another list. -/
theorem Tells.withSubscribers (h : Tells ok m next) {l : List Subscriber}
    (hl : ∀ x ∈ l, x.isDS = false) : Tells ok m { next with mSubscribers := l } :=
  ⟨h.mAPN, h.mBearer, h.mType, hl, h.said⟩

theorem Tells.withState (h : Tells ok m next) (state : AgpsState) :
    Tells ok m { next with mStatePtr := state } :=
  ⟨h.mAPN, h.mBearer, h.mType, h.noDS, h.said⟩

theorem says_calls {s : Subscriber} (hds : s.isDS = false) {status : AgpsRsrcStatus}
    (hok : status = .granted → ok) :
    ∀ e ∈ .notified s.ID status :: s.calls m status, Says ok m e := by
  intro e he
  rcases List.mem_cons.mp he with rfl | he
  · trivial
  obtain ⟨id, bytes, cls⟩ := s
  cases cls with
  | bit =>
      cases status
      all_goals simp only [Subscriber.calls, List.mem_singleton, List.not_mem_nil] at he
      all_goals rw [he]; trivial
  | atl compatible =>
      have htype : (if compatible then AGpsExtType.invalid else m.mType) = .invalid ∨
          (if compatible then AGpsExtType.invalid else m.mType) = m.mType := by
        cases compatible
        · exact .inr rfl
        · exact .inl rfl
      cases status with
      | denied =>
          rw [List.mem_singleton.mp he]
          exact ⟨rfl, rfl, htype, fun h => by cases h⟩
      | granted =>
          rw [List.mem_singleton.mp he]
          exact ⟨rfl, rfl, htype, fun _ => hok rfl⟩
      | unsubscribe | released =>
          rw [List.mem_singleton.mp he]
          trivial
      | subscribe | statusMax => cases he
  | wifi =>
      cases status
      all_goals simp only [Subscriber.calls, List.mem_singleton, List.not_mem_nil] at he
      all_goals rw [he]; trivial
  | ds => cases hds

theorem tells_notifySubscribers (hds : NoDS m) (n : Notification) (hn : n.rsrcStatus.isTold)
    (hok : n.rsrcStatus = .granted → ok) : Tells ok m (m.notifySubscribers n) := by
  rw [notifySubscribers_eq hn, Subscriber.foldl_told]
  refine ⟨rfl, rfl, rfl, ?_, _, rfl, ?_⟩
  · intro x hx
    dsimp only at hx
    split at hx
    · exact hds x (List.mem_filter.mp hx).1
    · exact hds x hx
  · intro e he
    obtain ⟨s, hs, he⟩ := List.mem_flatMap.mp he
    exact says_calls (hds s (List.mem_filter.mp hs).1) hok e he

theorem tells_notifyRsrcStatus (hds : NoDS m) {s : Subscriber} (hs : s.isDS = false)
    {n : Notification} (hn : n.rsrcStatus.isTold) (hok : n.rsrcStatus = .granted → ok) :
    Tells ok m (s.notifyRsrcStatus n m).2 := by
  rw [Subscriber.notifyRsrcStatus_eq hn]
  split
  · exact ⟨rfl, rfl, rfl, hds, _, rfl, says_calls hs hok⟩
  · exact Tells.refl hds

theorem tells_sendRsrcRequest (hds : NoDS m) (action : AGpsStatusValue) :
    Tells ok m (sendRsrcRequest action m).2 := by
  rw [sendRsrcRequest]
  split
  · refine ⟨rfl, rfl, rfl, hds, _, rfl, ?_⟩
    intro e he
    rw [List.mem_singleton.mp he]
    trivial
  · exact Tells.refl hds

theorem clone_isDS (s : Subscriber) : s.clone.isDS = s.isDS := by
  obtain ⟨id, bytes, cls⟩ := s
  cases cls
  all_goals rfl

theorem inactivated_isDS (s : Subscriber) : s.inactivated.isDS = s.isDS := by
  obtain ⟨id, bytes, cls⟩ := s
  cases cls
  all_goals rfl

theorem tells_addSubscriber (hds : NoDS m) {s : Subscriber} (hs : s.isDS = false) :
    Tells ok m (m.addSubscriber s) := by
  rw [addSubscriber]
  split
  · apply (Tells.refl hds).withSubscribers
    intro x hx
    rcases List.mem_cons.mp hx with rfl | hx
    · rw [clone_isDS, hs]
    · exact hds x hx
  · exact Tells.refl hds

theorem tells_closeSubscriber (hds : NoDS m) (data : Nat) :
    Tells ok m (m.closeSubscriber data) := by
  rw [closeSubscriber]
  cases hs : m.mSubscribers[data]? with
  | none => exact Tells.refl hds
  | some s =>
      have hmem : s ∈ m.mSubscribers := List.mem_of_getElem? hs
      dsimp only
      split
      · have hset : Tells ok m
            { m with mSubscribers := m.mSubscribers.set data s.inactivated } := by
          apply (Tells.refl hds).withSubscribers
          intro x hx
          rcases List.mem_or_eq_of_mem_set hx with hx | rfl
          · exact hds x hx
          · rw [inactivated_isDS, hds s hmem]
        rw [setInactive]
        have hcls := hds s hmem
        obtain ⟨id, bytes, cls⟩ := s
        cases cls with
        | ds => cases hcls
        | _ => exact hset
      · exact tells_notifySubscribers hds (.toSubscriber s .unsubscribe true) rfl
          fun h => by cases h

theorem tells_releaseIfUnused (hds : NoDS m) (state : AgpsState) :
    Tells ok m (m.releaseIfUnused sendRsrcRequest state).2 := by
  rw [releaseIfUnused]
  split
  · exact tells_sendRsrcRequest hds _
  · split
    · exact tells_sendRsrcRequest hds _
    · exact Tells.refl hds

theorem releaseIfUnused_state (send : SendRsrcRequest) (state : AgpsState) :
    (m.releaseIfUnused send state).1 = .acquired → state = .acquired := by
  rw [releaseIfUnused]
  split
  · exact fun h => by cases h
  · split
    · exact fun h => by cases h
    · exact id

end Tells

section Steps

variable {m : AgpsStateMachine}

/-- A machine may say that it has a connection, and go on to say so. -/
def Open (m : AgpsStateMachine) (event : RsrcEvent) : Prop :=
  m.mStatePtr = .acquired ∨ event = .granted

/-- The listed objects that an event names are not of the data services. -/
def eventDS : RsrcEvent → Bool
  | .subscribe data => data.isDS
  | _ => false

/-- What an event does to a machine and where it leaves it. -/
def Answering (m : AgpsStateMachine) (event : RsrcEvent) (result : AgpsState × AgpsStateMachine) :
    Prop :=
  Tells (Open m event) m result.2 ∧ (result.1 = .acquired → Open m event)

theorem answering_released (hds : NoDS m) {event : RsrcEvent} (hevent : eventDS event = false) :
    Answering m event (AgpsReleasedState.onRsrcEvent sendRsrcRequest m event) := by
  cases event with
  | subscribe data =>
      have hadd : Tells (Open m (.subscribe data)) m (m.addSubscriber data) :=
        tells_addSubscriber hds hevent
      refine ⟨hadd.trans (tells_sendRsrcRequest hadd.noDS _), ?_⟩
      rw [AgpsReleasedState.onRsrcEvent]
      dsimp only
      split
      all_goals exact fun h => by cases h
  | unsubscribe data =>
      rw [AgpsReleasedState.onRsrcEvent]
      cases hs : m.mSubscribers[data]? with
      | none => exact ⟨Tells.refl hds, fun h => by cases h⟩
      | some s =>
          have hmem : s ∈ m.mSubscribers := List.mem_of_getElem? hs
          exact ⟨tells_notifyRsrcStatus hds (hds s hmem) rfl (fun h => by cases h),
            fun h => by cases h⟩
  | _ => exact ⟨Tells.refl hds, fun h => by cases h⟩

theorem answering_pending (hds : NoDS m) {event : RsrcEvent} (hevent : eventDS event = false) :
    Answering m event (AgpsPendingState.onRsrcEvent sendRsrcRequest m event) := by
  cases event with
  | subscribe data => exact ⟨tells_addSubscriber hds hevent, fun h => by cases h⟩
  | unsubscribe data =>
      have hclose : Tells (Open m (.unsubscribe data)) m (m.closeSubscriber data) :=
        tells_closeSubscriber hds data
      refine ⟨hclose.trans (tells_releaseIfUnused hclose.noDS _), fun h => ?_⟩
      cases releaseIfUnused_state _ _ h
  | granted =>
      exact ⟨tells_notifySubscribers hds (.toGroup .active .granted false) rfl
        (fun _ => .inr rfl), fun _ => .inr rfl⟩
  | released => exact ⟨Tells.refl hds, fun h => by cases h⟩
  | denied =>
      exact ⟨tells_notifySubscribers hds (.toGroup .all .denied true) rfl (fun h => by cases h),
        fun h => by cases h⟩

theorem answering_acquired (hds : NoDS m) (hstate : m.mStatePtr = .acquired) {event : RsrcEvent}
    (hevent : eventDS event = false) :
    Answering m event (AgpsAcquiredState.onRsrcEvent sendRsrcRequest m event) := by
  have hopen : Open m event := .inl hstate
  refine ⟨?_, fun _ => hopen⟩
  cases event with
  | subscribe data =>
      have htold : Tells (Open m (.subscribe data)) m
          (data.notifyRsrcStatus (.toSubscriber data .granted false) m).2 :=
        tells_notifyRsrcStatus hds hevent rfl fun _ => hopen
      exact htold.trans (tells_addSubscriber htold.noDS hevent)
  | unsubscribe data =>
      have hclose : Tells (Open m (.unsubscribe data)) m (m.closeSubscriber data) :=
        tells_closeSubscriber hds data
      exact hclose.trans (tells_releaseIfUnused hclose.noDS _)
  | released =>
      exact tells_notifySubscribers hds (.toGroup .all .released true) rfl fun _ => hopen
  | granted | denied => exact Tells.refl hds

theorem answering_onClosed (hds : NoDS m) {event : RsrcEvent} {status : AgpsRsrcStatus}
    (hstatus : status = .released ∨ status = .denied) :
    Answering m event (AgpsReleasingState.onClosed sendRsrcRequest status m) := by
  have hisTold : status.isTold := by rcases hstatus with rfl | rfl <;> rfl
  have htold : Tells (Open m event) m (m.notifySubscribers (.toGroup .inactive status true)) := by
    apply tells_notifySubscribers hds _ hisTold
    intro h
    rcases hstatus with rfl | rfl
    all_goals cases h
  rw [AgpsReleasingState.onClosed]
  split
  · exact ⟨htold.trans (tells_sendRsrcRequest htold.noDS _), fun h => by cases h⟩
  · exact ⟨htold, fun h => by cases h⟩

theorem answering_releasing (hds : NoDS m) {event : RsrcEvent} (hevent : eventDS event = false) :
    Answering m event (AgpsReleasingState.onRsrcEvent sendRsrcRequest m event) := by
  cases event with
  | subscribe data => exact ⟨tells_addSubscriber hds hevent, fun h => by cases h⟩
  | unsubscribe data =>
      refine ⟨tells_closeSubscriber hds data, ?_⟩
      rw [AgpsReleasingState.onRsrcEvent]
      dsimp only
      split
      all_goals exact fun h => by cases h
  | granted => exact ⟨Tells.refl hds, fun h => by cases h⟩
  | released => exact answering_onClosed hds (.inl rfl)
  | denied => exact answering_onClosed hds (.inr rfl)

theorem answering_onRsrcEvent (hds : NoDS m) {event : RsrcEvent}
    (hevent : eventDS event = false) :
    Answering m event (AgpsState.onRsrcEvent sendRsrcRequest m event) := by
  rw [AgpsState.onRsrcEvent]
  cases hstate : m.mStatePtr with
  | released => exact answering_released hds hevent
  | pending => exact answering_pending hds hevent
  | acquired => exact answering_acquired hds hstate hevent
  | releasing => exact answering_releasing hds hevent

/-- What a call of a method does, where `granted` says that the call reports a connection. -/
structure Serves (granted : Prop) (m next : AgpsStateMachine) : Prop where
  tells : Tells (m.mStatePtr = .acquired ∨ granted) m next
  acquired : next.mStatePtr = .acquired → m.mStatePtr = .acquired ∨ granted

theorem Serves.refl (hds : NoDS m) (granted : Prop) : Serves granted m m :=
  ⟨Tells.refl hds, .inl⟩

theorem serves_stateEvent (hds : NoDS m) (event : RsrcEvent) (hevent : eventDS event = false) :
    Serves (event = .granted) m (m.stateEvent sendRsrcRequest event) := by
  obtain ⟨htells, hacquired⟩ := answering_onRsrcEvent hds hevent
  exact ⟨htells.withState _, hacquired⟩

theorem Serves.mono {granted granted' : Prop} {next : AgpsStateMachine}
    (h : Serves granted m next) (himp : granted → granted') : Serves granted' m next where
  tells := by
    obtain ⟨more, hmore, hsays⟩ := h.tells.said
    refine ⟨h.tells.mAPN, h.tells.mBearer, h.tells.mType, h.tells.noDS, more, hmore, ?_⟩
    intro e he
    have hsaid := hsays e he
    cases e with
    | atlOpenStatus =>
        obtain ⟨hAPN, hBearer, hType, hok⟩ := hsaid
        exact ⟨hAPN, hBearer, hType, fun hsucc => (hok hsucc).imp_right himp⟩
    | _ => trivial
  acquired hstate := (h.acquired hstate).imp_right himp

theorem serves_onRsrcEvent (hds : NoDS m) (event : AgpsRsrcStatus) :
    Serves (event = .granted) m (m.onRsrcEvent sendRsrcRequest event) := by
  cases event with
  | granted => exact (serves_stateEvent hds .granted rfl).mono fun _ => rfl
  | released => exact (serves_stateEvent hds .released rfl).mono fun h => by cases h
  | denied => exact (serves_stateEvent hds .denied rfl).mono fun h => by cases h
  | _ => exact Serves.refl hds _

theorem serves_subscribeRsrc (hds : NoDS m) {s : Subscriber} (hs : s.isDS = false) :
    Serves False m (m.subscribeRsrc sendRsrcRequest s) := by
  rw [subscribeRsrc]
  split
  · have htold : Tells (m.mStatePtr = .acquired ∨ False) m
        (s.notifyRsrcStatus (.toGroup .all .denied true) m).2 :=
      tells_notifyRsrcStatus hds hs rfl fun h => by cases h
    refine ⟨htold, ?_⟩
    change (s.notifyRsrcStatus (.toGroup .all .denied true) m).2.mStatePtr = .acquired → _
    rw [Subscriber.notifyRsrcStatus_eq rfl]
    split
    all_goals exact .inl
  · exact (serves_stateEvent hds (.subscribe s) hs).mono fun h => by cases h

theorem serves_unsubscribeRsrc (hds : NoDS m) (s : Subscriber) :
    Serves False m (m.unsubscribeRsrc sendRsrcRequest s).2 := by
  rw [unsubscribeRsrc]
  split
  · exact (serves_stateEvent hds (.unsubscribe _) rfl).mono fun h => by cases h
  · exact Serves.refl hds _

end Steps

end G2Common.Agps
