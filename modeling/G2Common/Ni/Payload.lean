import Mathlib.Data.List.Count
import G2Common.Ni.Slots

/-!
Who owns the payload of a request. It passes from `loc_eng_ni_request_handler`
to the slot of a session, from there to the message that the thread makes of it,
and with the message to the queue of the message thread. Each exit frees it. The
system of sessions and threads is the one of `Session`; here it runs together
with the queue and with `loc_eng_ni_init`.
-/

namespace G2Common.Ni

open Transition

/-- `handed` is a call of `loc_eng_ni_request_handler` with this payload,
`unhandled` its early return when `loc_eng_ni_init` has not happened yet,
`informed` a call of `informNiResponse`. -/
inductive Event where
  | handed (request : Nat)
  | unhandled (request : Nat)
  | freed (request : Nat)
  | informed (resp : Int) (request : Nat)
  deriving DecidableEq, Repr

/-- The payload that `ni_thread_proc` frees itself, which was cancelled. -/
def Session.ignored (session : Session) : Option Nat :=
  if session.resp = GPS_NI_RESPONSE_IGNORE then session.rawRequest else none

/-- How `loc_eng_ni_init` fills in a session. -/
def Session.niInit (session : Session) : Session :=
  { session with respTimeLeft := 0, respRecvd := false, rawRequest := none, reqID := 0 }

/-- The session as a thread finds it that wakes up in its critical section. -/
def System.woken (s : System) (thread : Nat) (timedOut : Bool) : Option Session :=
  match s.threads[thread]? with
  | some t =>
      let session := s.get t.pSession
      if t.phase = .waiting ∧ (timedOut ∨ session.respRecvd) then
        some (if timedOut then { session with resp := GPS_NI_RESPONSE_NORESP } else session)
      else
        none
  | none => none

/-- The message that a thread sends at its end. -/
def Thread.msg (t : Thread) : Option (Int × Nat) :=
  match t.phase with
  | .unlocked msg => msg
  | _ => none

/-- `ni_notify_cb` is set by `loc_eng_ni_init`; `msgs` are the
`LocEngInformNiResponse` in the queue of the message thread. -/
structure Payloads where
  ni_notify_cb : Bool
  ni : System
  msgs : List (Int × Nat)
  events : List Event
  deriving DecidableEq, Repr

namespace Payloads

def start : Payloads where
  ni_notify_cb := false
  ni := System.init
  msgs := []
  events := []

/-- `loc_eng_ni_init`. The callbacks may be NULL, and so may `notify_cb` in
them. -/
def niInit (s : Payloads) (callbacks : Option Bool) : Payloads :=
  match callbacks with
  | none => s
  | some notify_cb =>
      if notify_cb = false then s
      else if s.ni_notify_cb then s
      else
        { s with
          ni_notify_cb := true
          ni := { s.ni with
            sessionEs := s.ni.sessionEs.niInit
            session := s.ni.session.niInit } }

/-- `loc_eng_ni_request_handler`. A payload that is not taken into a session is
freed, but not the one that comes before `loc_eng_ni_init`. -/
def requestHandler (s : Payloads) (kind : Kind) (passThrough : Bool) (timeout : Int32)
    (created : Bool) : Payloads :=
  let payload := if passThrough then some s.ni.requests else none
  let s := { s with events := s.events ++ payload.toList.map Event.handed }
  if s.ni_notify_cb = false then
    { s with
      ni := { s.ni with requests := s.ni.requests + 1 }
      events := s.events ++ payload.toList.map Event.unhandled }
  else
    { s with
      ni := s.ni.requestHandler kind passThrough timeout created
      events := s.events ++ if s.ni.inProgress kind then payload.toList.map Event.freed else [] }

def respond (s : Payloads) (notif_id : Int32) (user_response : Int) : Payloads :=
  if s.ni_notify_cb = false then s
  else { s with ni := s.ni.respond notif_id user_response }

def resetOnEngineRestart (s : Payloads) : Payloads :=
  if s.ni_notify_cb = false then s
  else
    { s with
      ni := s.ni.resetOnEngineRestart
      events := s.events ++ s.ni.sessionEs.rawRequest.toList.map .freed ++
        s.ni.session.rawRequest.toList.map .freed }

/-- The critical section of `ni_thread_proc`. -/
def critical (s : Payloads) (thread : Nat) (timedOut : Bool) : Payloads :=
  { s with
    ni := s.ni.critical thread timedOut
    events := s.events ++
      ((s.ni.woken thread timedOut).bind Session.ignored).toList.map .freed }

/-- The end of `ni_thread_proc`, with `sendMsg`. -/
def finish (s : Payloads) (thread : Nat) : Payloads :=
  { s with
    ni := s.ni.finish thread
    msgs := s.msgs ++ (s.ni.threads[thread]?.bind Thread.msg).toList }

/-- The message thread takes the oldest message: `LocEngInformNiResponse::proc`,
then the destructor. -/
def process (s : Payloads) : Payloads :=
  match s.msgs with
  | (resp, request) :: msgs =>
      { s with msgs := msgs, events := s.events ++ [.informed resp request, .freed request] }
  | [] => s

inductive Input where
  | init (callbacks : Option Bool)
  | ni (input : Ni.Input)
  | process
  deriving DecidableEq, Repr

def step (s : Payloads) : Input → Payloads
  | .init callbacks => s.niInit callbacks
  | .ni (.request kind passThrough timeout created) =>
      s.requestHandler kind passThrough timeout created
  | .ni (.respond notif_id user_response) => s.respond notif_id user_response
  | .ni .resetOnEngineRestart => s.resetOnEngineRestart
  | .ni (.critical thread timedOut) => s.critical thread timedOut
  | .ni (.finish thread) => s.finish thread
  | .process => s.process

end Payloads

/-- How often the pointer is the payload of the request: once or not at all. -/
def holds (rawRequest : Option Nat) (request : Nat) : Nat :=
  if rawRequest = some request then 1 else 0

def System.slots (s : System) (request : Nat) : Nat :=
  holds s.session.rawRequest request + holds s.sessionEs.rawRequest request

def Thread.sends (request : Nat) (t : Thread) : Bool :=
  t.msg.map Prod.snd = some request

def System.sending (s : System) (request : Nat) : Nat :=
  s.threads.countP (Thread.sends request)

@[simp] theorem holds_none (request : Nat) : holds none request = 0 := rfl

theorem slots_update {s s' : System} {kind : Kind} {new : Session}
    (h : s'.get = Function.update s.get kind new) (request : Nat) :
    s'.slots request + holds (s.get kind).rawRequest request =
      s.slots request + holds new.rawRequest request := by
  change holds (s'.get .session).rawRequest request +
    holds (s'.get .sessionEs).rawRequest request + _ =
      holds (s.get .session).rawRequest request +
        holds (s.get .sessionEs).rawRequest request + _
  rw [h]
  cases kind with
  | session =>
      simp only [Function.update_self, Function.update_of_ne, ne_eq, reduceCtorEq,
        not_false_eq_true]
      omega
  | sessionEs =>
      simp only [Function.update_self, Function.update_of_ne, ne_eq, reduceCtorEq,
        not_false_eq_true]
      omega

theorem sending_set {threads : List Thread} {thread : Nat} {t : Thread} (t' : Thread)
    (hthread : threads[thread]? = some t) (request : Nat) :
    (threads.set thread t').countP (Thread.sends request) +
        holds (t.msg.map Prod.snd) request =
      threads.countP (Thread.sends request) + holds (t'.msg.map Prod.snd) request := by
  obtain ⟨hlt, rfl⟩ := List.getElem?_eq_some_iff.mp hthread
  have hpos : Thread.sends request threads[thread] = true →
      0 < threads.countP (Thread.sends request) := by
    intro hsends
    exact List.countP_pos_iff.mpr ⟨_, List.getElem_mem hlt, hsends⟩
  rw [List.countP_set hlt]
  simp only [Thread.sends, decide_eq_true_eq, holds] at hpos ⊢
  by_cases hsends : threads[thread].msg.map Prod.snd = some request
  · have := hpos hsends
    rw [if_pos hsends]
    omega
  · rw [if_neg hsends]
    omega

/-- A thread frees the payload or makes a message of it. -/
theorem holds_rawRequest (session : Session) (request : Nat) :
    holds session.rawRequest request =
      holds session.ignored request + holds (session.message.map Prod.snd) request := by
  unfold Session.ignored Session.message
  cases hraw : session.rawRequest with
  | none => simp
  | some payload =>
      by_cases hresp : session.resp = GPS_NI_RESPONSE_IGNORE
      · simp [hresp]
      · simp [hresp]

theorem rawRequest_of_free {s : System} {kind : Kind} (hfree : s.inProgress kind = false) :
    (s.get kind).rawRequest = none := by
  cases kind <;> simp_all [System.inProgress, System.get]

theorem get_accept {s : System} {kind : Kind} (hfree : s.inProgress kind = false)
    (passThrough : Bool) (timeout : Int32) (created : Bool) :
    (s.requestHandler kind passThrough timeout created).get =
      Function.update s.get kind ((s.get kind).saveRequest
        (if passThrough then some s.requests else none) (s.reqIDCounter + 1) timeout) := by
  unfold System.requestHandler
  rw [if_neg (by simp [hfree])]
  exact get_set _ _ _

/-- The payload of a request that is taken comes into a slot. -/
theorem slots_accept (s : System) (kind : Kind) (passThrough : Bool) (timeout : Int32)
    (created : Bool) (request : Nat) :
    (s.requestHandler kind passThrough timeout created).slots request =
      s.slots request + if s.inProgress kind then 0
        else holds (if passThrough then some s.requests else none) request := by
  cases hfree : s.inProgress kind with
  | true =>
      unfold System.requestHandler
      rw [if_pos hfree]
      rfl
  | false =>
      have hslots := slots_update (get_accept hfree passThrough timeout created) request
      rw [rawRequest_of_free hfree, holds_none] at hslots
      exact hslots

theorem sending_requestHandler (s : System) (kind : Kind) (passThrough : Bool) (timeout : Int32)
    (created : Bool) (request : Nat) :
    (s.requestHandler kind passThrough timeout created).sending request = s.sending request := by
  unfold System.requestHandler System.sending
  split
  · rfl
  · cases created <;> simp [Thread.sends, Thread.msg]

theorem rawRequest_respond (s : System) (notif_id : Int32) (user_response : Int) (kind : Kind) :
    ((s.respond notif_id user_response).get kind).rawRequest = (s.get kind).rawRequest := by
  unfold System.respond
  dsimp only
  split
  · cases kind with
    | session =>
        change (if _ then _ else _ : Session).rawRequest = s.session.rawRequest
        split <;> rfl
    | sessionEs => rfl
  · split
    · cases kind <;> rfl
    · rfl

theorem threads_respond (s : System) (notif_id : Int32) (user_response : Int) :
    (s.respond notif_id user_response).threads = s.threads := by
  unfold System.respond
  dsimp only
  split
  · rfl
  · split <;> rfl

theorem requests_respond (s : System) (notif_id : Int32) (user_response : Int) :
    (s.respond notif_id user_response).requests = s.requests := by
  unfold System.respond
  dsimp only
  split
  · rfl
  · split <;> rfl

theorem requests_requestHandler (s : System) (kind : Kind) (passThrough : Bool) (timeout : Int32)
    (created : Bool) :
    (s.requestHandler kind passThrough timeout created).requests = s.requests + 1 := by
  unfold System.requestHandler
  split <;> rfl

/-- A thread that wakes up takes the payload out of the slot. What it frees and
what it makes a message of is what was there. -/
theorem critical_cases (s : System) (thread : Nat) (timedOut : Bool) :
    (s.woken thread timedOut = none ∧ s.critical thread timedOut = s) ∨
    ∃ t session, s.threads[thread]? = some t ∧ t.phase = .waiting ∧
      s.woken thread timedOut = some session ∧
      session.rawRequest = (s.get t.pSession).rawRequest ∧
      (timedOut = false → session = s.get t.pSession) ∧
      (s.critical thread timedOut).get =
        Function.update s.get t.pSession { session with respRecvd := false, rawRequest := none } ∧
      (s.critical thread timedOut).threads =
        s.threads.set thread { t with phase := .unlocked session.message } ∧
      (s.critical thread timedOut).requests = s.requests := by
  unfold System.woken System.critical
  cases hthread : s.threads[thread]? with
  | none => exact .inl ⟨rfl, rfl⟩
  | some t =>
      dsimp only
      by_cases hwake : t.phase = .waiting ∧ (timedOut = true ∨ (s.get t.pSession).respRecvd = true)
      · right
        rw [if_pos hwake, if_pos hwake]
        refine ⟨t, _, rfl, hwake.1, rfl, ?_, ?_, get_set _ _ _, rfl, ?_⟩
        · split <;> rfl
        · rintro rfl
          rfl
        · cases t.pSession <;> rfl
      · left
        rw [if_neg hwake, if_neg hwake]
        exact ⟨rfl, rfl⟩

theorem finish_cases (s : System) (thread : Nat) :
    (s.threads[thread]?.bind Thread.msg = none ∧ s.finish thread = s) ∨
    ∃ t, s.threads[thread]? = some t ∧ t.phase ≠ .waiting ∧
      (∀ kind, ∃ respTimeLeft reqID, (s.finish thread).get kind =
        { s.get kind with respTimeLeft := respTimeLeft, reqID := reqID }) ∧
      (s.finish thread).threads = s.threads.set thread { t with phase := .finished } ∧
      (s.finish thread).requests = s.requests := by
  unfold System.finish
  split
  · next pSession request msg hthread =>
      right
      refine ⟨_, hthread, by simp, ?_, rfl, ?_⟩
      · intro kind
        change ∃ respTimeLeft reqID, (s.set pSession _).get kind = _
        rw [get_set, Function.update_apply]
        split
        · next hkind =>
            rw [hkind]
            exact ⟨0, 0, rfl⟩
        · exact ⟨_, _, rfl⟩
      · cases pSession <;> rfl
  · next hno =>
      left
      refine ⟨?_, rfl⟩
      cases hthread : s.threads[thread]? with
      | none => rfl
      | some t =>
          obtain ⟨pSession, request, phase⟩ := t
          cases phase with
          | unlocked msg => exact absurd hthread (hno _ _ _)
          | waiting => rfl
          | finished => rfl

theorem rawRequest_finish (s : System) (thread : Nat) (kind : Kind) :
    ((s.finish thread).get kind).rawRequest = (s.get kind).rawRequest := by
  rcases finish_cases s thread with ⟨-, hsame⟩ | ⟨t, -, -, hget, -, -⟩
  · rw [hsame]
  · obtain ⟨respTimeLeft, reqID, hkind⟩ := hget kind
    rw [hkind]

end G2Common.Ni
