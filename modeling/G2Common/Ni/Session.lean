import G2Common.Transition

/-!
Network initiated requests, `loc_eng_ni`. There is one session for them and one
for emergency requests; each accepted request starts a thread that waits for the
user's response or for its timeout. The calls, the critical section of a thread
and its unlocked end are steps, taken in any order.
-/

namespace G2Common.Ni

/-- `session` and `sessionEs` -/
inductive Kind where
  | session | sessionEs
  deriving DecidableEq, Repr

def GPS_NI_RESPONSE_ACCEPT : Int := 1

def GPS_NI_RESPONSE_NORESP : Int := 3

def GPS_NI_RESPONSE_IGNORE : Int := 4

def LOC_NI_NO_RESPONSE_TIME : Int32 := 20

/-- `rawRequest` is the payload, named by the number of the request it came
with. -/
structure Session where
  respTimeLeft : Int32
  respRecvd : Bool
  rawRequest : Option Nat
  reqID : Int32
  resp : Int
  deriving DecidableEq, Repr

/-- How `loc_eng_ni_request_handler` fills in a session. -/
def Session.saveRequest (session : Session) (rawRequest : Option Nat) (reqID timeout : Int32) :
    Session :=
  { session with
    rawRequest := rawRequest
    reqID := reqID
    respTimeLeft := 5 + if timeout ≠ 0 then timeout else LOC_NI_NO_RESPONSE_TIME }

/-- A response is taken: `resp` is set and the thread is woken. -/
def Session.receive (session : Session) (resp : Int) : Session :=
  { session with resp := resp, respRecvd := true }

/-- The part of `loc_eng_ni_reset_on_engine_restart` that is done for each
session: the payload is dropped and the thread is woken to exit. -/
def Session.resetOnEngineRestart (session : Session) : Session :=
  if session.rawRequest.isSome then { session with rawRequest := none, respRecvd := true }
  else session

/-- What `ni_thread_proc` sends: nothing if the payload was dropped, or if the
request was cancelled. -/
def Session.message (session : Session) : Option (Int × Nat) :=
  match session.rawRequest with
  | some request =>
      if session.resp ≠ GPS_NI_RESPONSE_IGNORE then some (session.resp, request) else none
  | none => none

/-- A thread waits in its critical section; after it, it has a message to send
or none. -/
inductive Phase where
  | waiting
  | unlocked (msg : Option (Int × Nat))
  | finished
  deriving DecidableEq, Repr

/-- `request` is the request that the thread was created for. The source does
not keep it: a thread has a pointer to the session only. -/
structure Thread where
  pSession : Kind
  request : Nat
  phase : Phase
  deriving DecidableEq, Repr

/-- `notified` is the call of `ni_notify_cb`, `responded` a call of
`loc_eng_ni_respond`, `sent` a `LocEngInformNiResponse`. -/
inductive Entry where
  | notified (request : Nat) (notification_id : Int32)
  | responded (notif_id : Int32) (user_response : Int)
  | timedOut (request : Nat)
  | sent (resp : Int) (request : Nat)
  deriving DecidableEq, Repr

structure System where
  session : Session
  sessionEs : Session
  reqIDCounter : Int32
  requests : Nat
  threads : List Thread
  log : List Entry
  deriving DecidableEq, Repr

namespace System

def get (s : System) : Kind → Session
  | .session => s.session
  | .sessionEs => s.sessionEs

def set (s : System) (kind : Kind) (session : Session) : System :=
  match kind with
  | .session => { s with session := session }
  | .sessionEs => { s with sessionEs := session }

/-- `loc_eng_ni_init`, on memory that was zero. -/
def init : System where
  session := ⟨0, false, none, 0, 0⟩
  sessionEs := ⟨0, false, none, 0, 0⟩
  reqIDCounter := 0
  requests := 0
  threads := []
  log := []

/-- A request is dropped while a request is in session. -/
def inProgress (s : System) : Kind → Bool
  | .sessionEs => s.sessionEs.rawRequest.isSome
  | .session => s.session.rawRequest.isSome || s.sessionEs.rawRequest.isSome

/-- `loc_eng_ni_request_handler`. The payload may be missing, and the creation
of the thread may fail. -/
def requestHandler (s : System) (kind : Kind) (passThrough : Bool) (timeout : Int32)
    (created : Bool) : System :=
  if s.inProgress kind then
    { s with requests := s.requests + 1 }
  else
    let reqID := s.reqIDCounter + 1
    let rawRequest := if passThrough then some s.requests else none
    { s.set kind ((s.get kind).saveRequest rawRequest reqID timeout) with
      reqIDCounter := reqID
      requests := s.requests + 1
      threads := if created then s.threads ++ [⟨kind, s.requests, .waiting⟩] else s.threads
      log := s.log ++ [.notified s.requests reqID] }

/-- `loc_eng_ni_respond`. An accepted emergency request cancels the other
one. -/
def respond (s : System) (notif_id : Int32) (user_response : Int) : System :=
  let s := { s with log := s.log ++ [.responded notif_id user_response] }
  if notif_id = s.sessionEs.reqID ∧ s.sessionEs.rawRequest.isSome then
    { s with
      session :=
        if user_response = GPS_NI_RESPONSE_ACCEPT ∧ s.session.rawRequest.isSome then
          s.session.receive GPS_NI_RESPONSE_IGNORE
        else s.session
      sessionEs := s.sessionEs.receive user_response }
  else if notif_id = s.session.reqID ∧ s.session.rawRequest.isSome then
    { s with session := s.session.receive user_response }
  else
    s

def resetOnEngineRestart (s : System) : System :=
  { s with
    session := s.session.resetOnEngineRestart
    sessionEs := s.sessionEs.resetOnEngineRestart }

/-- The critical section of `ni_thread_proc`, which a timeout or a response
ends. -/
def critical (s : System) (thread : Nat) (timedOut : Bool) : System :=
  match s.threads[thread]? with
  | none => s
  | some t =>
      let session := s.get t.pSession
      if t.phase = .waiting ∧ (timedOut ∨ session.respRecvd) then
        let session :=
          if timedOut then { session with resp := GPS_NI_RESPONSE_NORESP } else session
        { s.set t.pSession { session with respRecvd := false, rawRequest := none } with
          threads := s.threads.set thread { t with phase := .unlocked session.message }
          log := s.log ++ if timedOut then [.timedOut t.request] else [] }
      else
        s

/-- The end of `ni_thread_proc`, after the unlock. -/
def finish (s : System) (thread : Nat) : System :=
  match s.threads[thread]? with
  | some ⟨pSession, request, .unlocked msg⟩ =>
      { s.set pSession { s.get pSession with respTimeLeft := 0, reqID := 0 } with
        threads := s.threads.set thread ⟨pSession, request, .finished⟩
        log := s.log ++ msg.toList.map fun (resp, request) => .sent resp request }
  | _ => s

end System

inductive Input where
  | request (kind : Kind) (passThrough : Bool) (timeout : Int32) (created : Bool)
  | respond (notif_id : Int32) (user_response : Int)
  | resetOnEngineRestart
  | critical (thread : Nat) (timedOut : Bool)
  | finish (thread : Nat)
  deriving DecidableEq, Repr

def step (s : System) : Input → System
  | .request kind passThrough timeout created =>
      s.requestHandler kind passThrough timeout created
  | .respond notif_id user_response => s.respond notif_id user_response
  | .resetOnEngineRestart => s.resetOnEngineRestart
  | .critical thread timedOut => s.critical thread timedOut
  | .finish thread => s.finish thread

end G2Common.Ni
