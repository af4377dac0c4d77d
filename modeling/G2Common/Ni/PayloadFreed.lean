import G2Common.Ni.Payload
import Mathlib.Data.List.Count

/-!
Each payload is freed once. A payload that was handed over is in one place until
it is freed, and it leaves the slot of a session only through the thread that
waits there or through a restart. The one call that keeps the payload for ever
is the early return before `loc_eng_ni_init`.
-/

namespace G2Common.Ni

open Transition

namespace Payloads

/-- No thread and no message is left. -/
def Quiet (s : Payloads) : Prop :=
  (∀ t ∈ s.ni.threads, t.phase = .finished) ∧ s.msgs = []

instance Quiet.decidable (s : Payloads) : Decidable s.Quiet :=
  inferInstanceAs (Decidable (_ ∧ _))

/-- Where a payload is taken into a session, a thread waits there that will take
it out. -/
def threadGuard (s : Payloads) : Input → Prop
  | .ni (.request kind true _ created) =>
      s.ni_notify_cb = true → s.ni.inProgress kind = false →
        0 < s.ni.threads.countP (Thread.waits kind) + created.toNat
  | _ => True

/-- A payload comes only after `loc_eng_ni_init`. -/
def handledGuard (s : Payloads) : Input → Prop
  | .ni (.request _ true _ _) => s.ni_notify_cb = true
  | _ => True

def payloadGuard (s : Payloads) (input : Input) : Prop :=
  s.threadGuard input ∧ s.handledGuard input

instance threadGuard.decidable (s : Payloads) : ∀ input, Decidable (threadGuard s input)
  | .init _ => isTrue trivial
  | .ni (.request _ true _ _) => inferInstanceAs (Decidable (_ → _ → _))
  | .ni (.request _ false _ _) => isTrue trivial
  | .ni (.respond _ _) => isTrue trivial
  | .ni .resetOnEngineRestart => isTrue trivial
  | .ni (.critical _ _) => isTrue trivial
  | .ni (.finish _) => isTrue trivial
  | .process => isTrue trivial

instance handledGuard.decidable (s : Payloads) : ∀ input, Decidable (handledGuard s input)
  | .init _ => isTrue trivial
  | .ni (.request _ true _ _) => inferInstanceAs (Decidable (_ = _))
  | .ni (.request _ false _ _) => isTrue trivial
  | .ni (.respond _ _) => isTrue trivial
  | .ni .resetOnEngineRestart => isTrue trivial
  | .ni (.critical _ _) => isTrue trivial
  | .ni (.finish _) => isTrue trivial
  | .process => isTrue trivial

instance payloadGuard.decidable (s : Payloads) (input : Input) :
    Decidable (payloadGuard s input) :=
  inferInstanceAs (Decidable (_ ∧ _))

/-- The number of places that hold the payload: slots, threads that are to send
it, messages. -/
def held (s : Payloads) (request : Nat) : Nat :=
  s.ni.slots request + s.ni.sending request + (s.msgs.map Prod.snd).count request

/-- A payload is freed or it is held in one place, no more, if it was handled at
all. -/
def Balanced (s : Payloads) : Prop :=
  ∀ request, s.events.count (.freed request) + s.events.count (.unhandled request) +
    s.held request = s.events.count (.handed request)

/-- Each payload is handed over once, by the request of its number. -/
def HandedOnce (s : Payloads) : Prop :=
  ∀ request, s.events.count (.handed request) ≤ if request < s.ni.requests then 1 else 0

end Payloads

/-- What was freed is not given to `informNiResponse` any more. -/
def NotAfterFree (events : List Event) : Prop :=
  events.Pairwise fun earlier later =>
    ∀ resp request, later = .informed resp request → earlier ≠ .freed request

structure Payloads.Owned (s : Payloads) : Prop where
  balanced : s.Balanced
  once : s.HandedOnce
  order : NotAfterFree s.events
  informed : ∀ resp request, .informed resp request ∈ s.events → .freed request ∈ s.events
  uninitialised : s.ni_notify_cb = false → ∀ kind, (s.ni.get kind).rawRequest = none

/-- A payload in a slot has a thread that waits for it. -/
def Payloads.Attended (s : Payloads) : Prop :=
  ∀ kind, (s.ni.get kind).rawRequest.isSome → 0 < s.ni.threads.countP (Thread.waits kind)

namespace Payloads

@[simp] theorem count_freed (requests : List Nat) (request : Nat) :
    (requests.map Event.freed).count (.freed request) = requests.count request :=
  List.count_map_of_injective _ _ (fun _ _ => Event.freed.inj) request

@[simp] theorem count_handed (requests : List Nat) (request : Nat) :
    (requests.map Event.handed).count (.handed request) = requests.count request :=
  List.count_map_of_injective _ _ (fun _ _ => Event.handed.inj) request

@[simp] theorem count_unhandled (requests : List Nat) (request : Nat) :
    (requests.map Event.unhandled).count (.unhandled request) = requests.count request :=
  List.count_map_of_injective _ _ (fun _ _ => Event.unhandled.inj) request

/-- An entry of another kind. -/
theorem count_map_eq_zero {mk : Nat → Event} {entry : Event} (h : ∀ request, mk request ≠ entry)
    (requests : List Nat) : (requests.map mk).count entry = 0 := by
  rw [List.count_eq_zero]
  intro hmem
  obtain ⟨request, -, heq⟩ := List.mem_map.mp hmem
  exact h request heq

@[simp] theorem count_toList (rawRequest : Option Nat) (request : Nat) :
    rawRequest.toList.count request = holds rawRequest request := by
  cases rawRequest with
  | none => rfl
  | some payload => simp [holds, List.count_singleton]

/-- The log of a step that informs nobody. -/
theorem notAfterFree_of_silent {entries : List Event}
    (h : ∀ resp request, .informed resp request ∉ entries) : NotAfterFree entries := by
  apply List.pairwise_of_forall_mem_list
  rintro earlier - later hlater resp request rfl
  exact absurd hlater (h resp request)

/-- A payload that is held was not freed. -/
theorem Owned.freed_of_held {s : Payloads} (hs : s.Owned) {request : Nat}
    (hheld : 0 < s.held request) : .freed request ∉ s.events := by
  have hbalance := hs.balanced request
  have honce := hs.once request
  rw [← List.count_eq_zero]
  split at honce <;> omega

/-- What a step logs moves payloads between the places that hold them and the
log. -/
theorem Owned.of_events {s s' : Payloads} (hs : s.Owned) (entries : List Event)
    (hevents : s'.events = s.events ++ entries)
    (hrequests : s.ni.requests ≤ s'.ni.requests)
    (hbalance : ∀ request, entries.count (.freed request) + entries.count (.unhandled request) +
      s'.held request = s.held request + entries.count (.handed request))
    (honce : ∀ request, entries.count (.handed request) ≤
      if request = s.ni.requests ∧ request < s'.ni.requests then 1 else 0)
    (horder : NotAfterFree entries)
    (hinformed : ∀ resp request, .informed resp request ∈ entries →
      0 < s.held request ∧ .freed request ∈ entries)
    (huninitialised : s'.ni_notify_cb = false → ∀ kind, (s'.ni.get kind).rawRequest = none) :
    s'.Owned := by
  refine ⟨?_, ?_, ?_, ?_, huninitialised⟩
  · intro request
    have := hs.balanced request
    have := hbalance request
    rw [hevents, List.count_append, List.count_append, List.count_append]
    omega
  · intro request
    have hbefore := hs.once request
    have hnew := honce request
    rw [hevents, List.count_append]
    split at hbefore <;> split at hnew <;> split <;> omega
  · unfold NotAfterFree
    rw [hevents, List.pairwise_append]
    refine ⟨hs.order, horder, ?_⟩
    rintro earlier hearlier later hlater resp request rfl rfl
    exact hs.freed_of_held (hinformed resp request hlater).1 hearlier
  · intro resp request hmem
    rw [hevents, List.mem_append] at hmem ⊢
    exact hmem.imp (hs.informed resp request) (fun hnew => (hinformed resp request hnew).2)

/-- A step that only frees payloads which were held before. -/
theorem Owned.of_freed {s s' : Payloads} (hs : s.Owned) (requests : List Nat)
    (hevents : s'.events = s.events ++ requests.map Event.freed)
    (hrequests : s'.ni.requests = s.ni.requests)
    (hheld : ∀ request, requests.count request + s'.held request = s.held request)
    (huninitialised : s'.ni_notify_cb = false → ∀ kind, (s'.ni.get kind).rawRequest = none) :
    s'.Owned := by
  have hhanded (request : Nat) : (requests.map Event.freed).count (.handed request) = 0 :=
    count_map_eq_zero (by simp) requests
  have hunhandled (request : Nat) : (requests.map Event.freed).count (.unhandled request) = 0 :=
    count_map_eq_zero (by simp) requests
  refine hs.of_events _ hevents (Nat.le_of_eq hrequests.symm) ?_ ?_ ?_ ?_ huninitialised
  · intro request
    have := hheld request
    rw [count_freed, hhanded, hunhandled]
    omega
  · intro request
    rw [hhanded]
    omega
  · apply notAfterFree_of_silent
    simp
  · simp

theorem owned_niInit {s : Payloads} (hs : s.Owned) (callbacks : Option Bool) :
    (s.niInit callbacks).Owned := by
  unfold niInit
  split
  · exact hs
  · split
    · exact hs
    · split
      · exact hs
      · next hcb =>
          have hraw := hs.uninitialised (by simpa using hcb)
          have hsession : s.ni.session.rawRequest = none := hraw .session
          have hes : s.ni.sessionEs.rawRequest = none := hraw .sessionEs
          refine hs.of_freed [] (by simp) rfl ?_ (by simp)
          intro request
          simp [held, System.slots, System.sending, Session.niInit, hsession, hes]

theorem owned_requestHandler {s : Payloads} (hs : s.Owned) (kind : Kind) (passThrough : Bool)
    (timeout : Int32) (created : Bool) :
    (s.requestHandler kind passThrough timeout created).Owned := by
  unfold requestHandler
  generalize hpayload : (if passThrough = true then some s.ni.requests else none) = payload
  have honce (request : Nat) : holds payload request ≤
      if request = s.ni.requests ∧ request < s.ni.requests + 1 then 1 else 0 := by
    subst hpayload
    cases passThrough with
    | false => simp
    | true =>
        simp only [holds, if_true, Option.some.injEq]
        split <;> split <;> omega
  have hhanded (mk : Nat → Event) (request : Nat) (h : ∀ other, mk other ≠ .handed request) :
      (payload.toList.map mk).count (.handed request) = 0 :=
    count_map_eq_zero h _
  dsimp only
  split
  · rw [List.append_assoc]
    refine hs.of_events _ rfl (Nat.le_succ _) ?_ ?_ ?_ ?_ hs.uninitialised
    · intro request
      simp [held, System.slots, System.sending, count_map_eq_zero]
      omega
    · intro request
      simpa [count_map_eq_zero] using honce request
    · apply notAfterFree_of_silent
      simp
    · simp
  · next hcb =>
      rw [List.append_assoc]
      refine hs.of_events _ rfl ?_ ?_ ?_ ?_ ?_ ?_
      · rw [requests_requestHandler]
        exact Nat.le_succ _
      · intro request
        have hslots := slots_accept s.ni kind passThrough timeout created request
        rw [hpayload] at hslots
        simp only [held, sending_requestHandler, hslots]
        split <;> simp [count_map_eq_zero] <;> omega
      · intro request
        rw [requests_requestHandler]
        have := honce request
        split <;> simpa [count_map_eq_zero] using this
      · apply notAfterFree_of_silent
        split <;> simp
      · split <;> simp
      · intro hno
        exact absurd hno hcb

theorem owned_respond {s : Payloads} (hs : s.Owned) (notif_id : Int32) (user_response : Int) :
    (s.respond notif_id user_response).Owned := by
  have hraw := rawRequest_respond s.ni notif_id user_response
  have hthreads := threads_respond s.ni notif_id user_response
  unfold respond
  split
  · exact hs
  · next hcb =>
      refine hs.of_freed [] (by simp) (requests_respond s.ni notif_id user_response) ?_ ?_
      · intro request
        have hslots : (s.ni.respond notif_id user_response).slots request =
            s.ni.slots request := by
          change holds ((s.ni.respond notif_id user_response).get .session).rawRequest request +
            holds ((s.ni.respond notif_id user_response).get .sessionEs).rawRequest request = _
          rw [hraw, hraw]
          rfl
        simp [held, hslots, System.sending, hthreads]
      · intro hno
        exact absurd hno hcb

theorem owned_resetOnEngineRestart {s : Payloads} (hs : s.Owned) :
    s.resetOnEngineRestart.Owned := by
  unfold resetOnEngineRestart
  split
  · exact hs
  · next hcb =>
      refine hs.of_freed (s.ni.sessionEs.rawRequest.toList ++ s.ni.session.rawRequest.toList)
        (by simp) rfl ?_ ?_
      · intro request
        simp only [held, System.slots, System.sending, System.resetOnEngineRestart,
          rawRequest_resetOnEngineRestart, List.count_append, count_toList, holds_none]
        omega
      · intro hno
        exact absurd hno hcb

theorem owned_critical {s : Payloads} (hs : s.Owned) (thread : Nat) (timedOut : Bool) :
    (s.critical thread timedOut).Owned := by
  unfold critical
  rcases critical_cases s.ni thread timedOut with
    ⟨hwoken, hsame⟩ | ⟨t, session, hthread, hwaiting, hwoken, hraw, -, hget, hthreads, hrequests⟩
  · rw [hwoken, hsame]
    simpa using hs
  · rw [hwoken]
    refine hs.of_freed session.ignored.toList rfl hrequests ?_ ?_
    · intro request
      have hslots := slots_update hget request
      have hsending := sending_set { t with phase := .unlocked session.message } hthread request
      have hmoved := holds_rawRequest session request
      have hmsg : t.msg = none := by simp [Thread.msg, hwaiting]
      have hnew : ({ t with phase := .unlocked session.message } : Thread).msg =
        session.message := rfl
      rw [hmsg, hnew, Option.map_none, holds_none, ← hthreads] at hsending
      rw [← hraw, holds_none] at hslots
      simp only [held, System.sending, count_toList]
      omega
    · intro hno kind
      have hbefore := hs.uninitialised hno
      rw [hget, Function.update_apply]
      split
      · rfl
      · exact hbefore kind

theorem owned_finish {s : Payloads} (hs : s.Owned) (thread : Nat) : (s.finish thread).Owned := by
  unfold finish
  rcases finish_cases s.ni thread with
    ⟨hmsg, hsame⟩ | ⟨t, hthread, hphase, -, hthreads, hrequests⟩
  · rw [hmsg, hsame]
    simpa using hs
  · refine hs.of_freed [] (by simp) hrequests ?_ ?_
    · intro request
      have hsending := sending_set { t with phase := .finished } hthread request
      have hnew : ({ t with phase := .finished } : Thread).msg = none := rfl
      rw [hnew, Option.map_none, holds_none, ← hthreads] at hsending
      have hslots : (s.ni.finish thread).slots request = s.ni.slots request := by
        change holds ((s.ni.finish thread).get .session).rawRequest request +
          holds ((s.ni.finish thread).get .sessionEs).rawRequest request = _
        rw [rawRequest_finish, rawRequest_finish]
        rfl
      rw [hthread, Option.bind_some]
      simp only [held, System.sending, List.map_append, List.count_append, hslots,
        ← Option.toList_map, count_toList, List.count_nil]
      omega
    · intro hno kind
      rw [rawRequest_finish]
      exact hs.uninitialised hno kind

theorem owned_process {s : Payloads} (hs : s.Owned) : s.process.Owned := by
  unfold process
  split
  · next resp request msgs hmsgs =>
      refine hs.of_events _ rfl (Nat.le_refl _) ?_ ?_ ?_ ?_ hs.uninitialised
      · intro other
        simp [held, hmsgs, List.count_cons]
        omega
      · intro other
        simp
      · simp [NotAfterFree]
      · intro resp' other hmem
        obtain ⟨rfl, rfl⟩ : resp' = resp ∧ other = request := by simpa using hmem
        constructor
        · simp only [held, hmsgs, List.map_cons, List.count_cons_self]
          omega
        · simp
  · exact hs

theorem owned_step (s : Payloads) (input : Input) (hs : s.Owned) : (s.step input).Owned := by
  cases input with
  | init callbacks => exact owned_niInit hs callbacks
  | process => exact owned_process hs
  | ni input =>
      cases input with
      | request kind passThrough timeout created =>
          exact owned_requestHandler hs kind passThrough timeout created
      | respond notif_id user_response => exact owned_respond hs notif_id user_response
      | resetOnEngineRestart => exact owned_resetOnEngineRestart hs
      | critical thread timedOut => exact owned_critical hs thread timedOut
      | finish thread => exact owned_finish hs thread

theorem owned_start : start.Owned := by
  refine ⟨?_, ?_, .nil, by simp [start], ?_⟩
  · intro request
    rfl
  · intro request
    exact Nat.zero_le _
  · intro _ kind
    cases kind <;> rfl

theorem attended_niInit {s : Payloads} (hs : s.Attended) (callbacks : Option Bool) :
    (s.niInit callbacks).Attended := by
  unfold niInit
  split
  · exact hs
  · split
    · exact hs
    · split
      · exact hs
      · intro kind hsome
        cases kind <;> simp [System.get, Session.niInit] at hsome

theorem attended_requestHandler {s : Payloads} (hs : s.Attended) {kind : Kind}
    {passThrough : Bool} (timeout : Int32) {created : Bool}
    (hguard : s.threadGuard (.ni (.request kind passThrough timeout created))) :
    (s.requestHandler kind passThrough timeout created).Attended := by
  unfold requestHandler
  dsimp only
  split
  · exact hs
  · next hcb =>
      intro other hsome
      cases hfree : s.ni.inProgress kind with
      | true =>
          have hsame : s.ni.requestHandler kind passThrough timeout created =
              { s.ni with requests := s.ni.requests + 1 } := if_pos hfree
          rw [hsame] at hsome ⊢
          exact hs other hsome
      | false =>
          have hthreads : (s.ni.requestHandler kind passThrough timeout created).threads =
              s.ni.threads ++ if created then [⟨kind, s.ni.requests, .waiting⟩] else [] := by
            unfold System.requestHandler
            rw [if_neg (by simp [hfree])]
            cases created <;> simp
          rw [get_accept hfree, Function.update_apply] at hsome
          rw [hthreads, List.countP_append]
          split at hsome
          · next hkind =>
              subst hkind
              cases passThrough with
              | false => simp [Session.saveRequest] at hsome
              | true =>
                  have := hguard (by simpa using hcb) hfree
                  cases created <;> simp_all [Thread.waits]
          · have := hs other hsome
            omega

theorem attended_respond {s : Payloads} (hs : s.Attended) (notif_id : Int32)
    (user_response : Int) : (s.respond notif_id user_response).Attended := by
  unfold respond
  split
  · exact hs
  · intro kind hsome
    rw [rawRequest_respond] at hsome
    rw [threads_respond]
    exact hs kind hsome

theorem attended_resetOnEngineRestart {s : Payloads} (hs : s.Attended) :
    s.resetOnEngineRestart.Attended := by
  unfold resetOnEngineRestart
  split
  · exact hs
  · intro kind hsome
    cases kind <;>
      simp [System.get, System.resetOnEngineRestart, rawRequest_resetOnEngineRestart] at hsome

theorem attended_critical {s : Payloads} (hs : s.Attended) (thread : Nat) (timedOut : Bool) :
    (s.critical thread timedOut).Attended := by
  unfold critical
  rcases critical_cases s.ni thread timedOut with
    ⟨-, hsame⟩ | ⟨t, session, hthread, -, -, -, -, hget, hthreads, -⟩
  · intro kind hsome
    rw [hsame] at hsome ⊢
    exact hs kind hsome
  · intro kind hsome
    rw [hget, Function.update_apply] at hsome
    split at hsome
    · simp at hsome
    · next hkind =>
        have hne : t.pSession ≠ kind := fun h => hkind h.symm
        rw [hthreads, countP_waits_set hthread (Thread.waits_of_ne hne) (Thread.waits_of_ne ?_)]
        · exact hs kind hsome
        · exact hne

theorem attended_finish {s : Payloads} (hs : s.Attended) (thread : Nat) :
    (s.finish thread).Attended := by
  unfold finish
  rcases finish_cases s.ni thread with
    ⟨-, hsame⟩ | ⟨t, hthread, hphase, -, hthreads, -⟩
  · intro kind hsome
    rw [hsame] at hsome ⊢
    exact hs kind hsome
  · intro kind hsome
    rw [rawRequest_finish] at hsome
    rw [hthreads, countP_waits_set hthread]
    · exact hs kind hsome
    · simp [Thread.waits, hphase]
    · simp [Thread.waits]

theorem attended_process {s : Payloads} (hs : s.Attended) : s.process.Attended := by
  unfold process
  split
  · exact hs
  · exact hs

theorem attended_step (s : Payloads) (input : Input) (hs : s.Attended)
    (hguard : s.threadGuard input) : (s.step input).Attended := by
  cases input with
  | init callbacks => exact attended_niInit hs callbacks
  | process => exact attended_process hs
  | ni input =>
      cases input with
      | request kind passThrough timeout created =>
          exact attended_requestHandler hs timeout hguard
      | respond notif_id user_response => exact attended_respond hs notif_id user_response
      | resetOnEngineRestart => exact attended_resetOnEngineRestart hs
      | critical thread timedOut => exact attended_critical hs thread timedOut
      | finish thread => exact attended_finish hs thread

theorem attended_start : start.Attended := by
  intro kind hsome
  cases kind <;> simp [start, System.init, System.get] at hsome

/-- What a step can log. -/
inductive Logs (s : Payloads) : Input → Event → Prop where
  | handed (kind timeout created) :
      Logs s (.ni (.request kind true timeout created)) (.handed s.ni.requests)
  | unhandled (kind timeout created) (hcb : s.ni_notify_cb = false) :
      Logs s (.ni (.request kind true timeout created)) (.unhandled s.ni.requests)
  | freed (input request) : Logs s input (.freed request)
  | informed {resp request} (hmem : (resp, request) ∈ s.msgs) :
      Logs s .process (.informed resp request)

/-- The log has grown by entries that the step can make. -/
def Grown (s : Payloads) (input : Input) (s' : Payloads) : Prop :=
  ∃ entries, s'.events = s.events ++ entries ∧ ∀ entry ∈ entries, Logs s input entry

theorem grown_silent {s s' : Payloads} {input : Input} (h : s'.events = s.events) :
    Grown s input s' := ⟨[], by rw [h, List.append_nil], by simp⟩

theorem grown_freed {s s' : Payloads} {input : Input} {requests : List Nat}
    (h : s'.events = s.events ++ requests.map Event.freed) : Grown s input s' := by
  refine ⟨_, h, ?_⟩
  intro entry hmem
  obtain ⟨request, -, rfl⟩ := List.mem_map.mp hmem
  exact .freed _ _

theorem events_niInit (s : Payloads) (callbacks : Option Bool) :
    (s.niInit callbacks).events = s.events := by
  unfold niInit
  split
  · rfl
  · split
    · rfl
    · split <;> rfl

theorem grown_requestHandler (s : Payloads) (kind : Kind) (passThrough : Bool) (timeout : Int32)
    (created : Bool) :
    Grown s (.ni (.request kind passThrough timeout created))
      (s.requestHandler kind passThrough timeout created) := by
  cases passThrough with
  | false =>
      apply grown_silent
      unfold requestHandler
      dsimp only
      split <;> simp
  | true =>
      unfold requestHandler
      dsimp only
      split
      · next hcb =>
          refine ⟨_, List.append_assoc _ _ _, ?_⟩
          intro entry hmem
          obtain rfl | rfl : entry = .handed s.ni.requests ∨ entry = .unhandled s.ni.requests := by
            simpa using hmem
          · exact .handed _ _ _
          · exact .unhandled _ _ _ hcb
      · refine ⟨_, List.append_assoc _ _ _, ?_⟩
        intro entry hmem
        obtain rfl | rfl : entry = .handed s.ni.requests ∨ entry = .freed s.ni.requests := by
          have hmem := List.mem_append.mp hmem
          apply hmem.imp
          · simp
          · split <;> simp
        · exact .handed _ _ _
        · exact .freed _ _

theorem events_respond (s : Payloads) (notif_id : Int32) (user_response : Int) :
    (s.respond notif_id user_response).events = s.events := by
  unfold respond
  split <;> rfl

theorem grown_resetOnEngineRestart (s : Payloads) :
    Grown s (.ni .resetOnEngineRestart) s.resetOnEngineRestart := by
  unfold resetOnEngineRestart
  split
  · exact grown_silent rfl
  · apply grown_freed
    rw [List.append_assoc, ← List.map_append]

theorem grown_process (s : Payloads) : Grown s .process s.process := by
  unfold process
  split
  · next resp request msgs hmsgs =>
      refine ⟨_, rfl, ?_⟩
      intro entry hmem
      simp only [List.mem_cons, List.not_mem_nil, or_false] at hmem
      rcases hmem with rfl | rfl
      · exact .informed (by simp [hmsgs])
      · exact .freed _ _
  · exact grown_silent rfl

/-- The log of events grows by what the step can log. -/
theorem grown_step (s : Payloads) (input : Input) : Grown s input (s.step input) := by
  cases input with
  | init callbacks => exact grown_silent (s.events_niInit callbacks)
  | process => exact s.grown_process
  | ni input =>
      cases input with
      | request kind passThrough timeout created =>
          exact s.grown_requestHandler kind passThrough timeout created
      | respond notif_id user_response =>
          exact grown_silent (s.events_respond notif_id user_response)
      | resetOnEngineRestart => exact s.grown_resetOnEngineRestart
      | critical thread timedOut => exact grown_freed rfl
      | finish thread => exact grown_silent (by simp [step, finish])

theorem logs_step {s : Payloads} {input : Input} {entry : Event}
    (hmem : entry ∈ (s.step input).events) : entry ∈ s.events ∨ Logs s input entry := by
  obtain ⟨entries, hevents, hlogs⟩ := grown_step s input
  rw [hevents, List.mem_append] at hmem
  exact hmem.imp_right (hlogs entry)

theorem mem_events_step {s : Payloads} {entry : Event} (hmem : entry ∈ s.events) (input : Input) :
    entry ∈ (s.step input).events := by
  obtain ⟨entries, hevents, -⟩ := grown_step s input
  rw [hevents]
  exact List.mem_append_left _ hmem

/-- Every payload that comes is handled. -/
theorem handled_step (s : Payloads) (input : Input)
    (hs : ∀ request, .unhandled request ∉ s.events) (hguard : s.handledGuard input) :
    ∀ request, .unhandled request ∉ (s.step input).events := by
  intro request hmem
  rcases logs_step hmem with hmem | hlogs
  · exact hs request hmem
  · cases hlogs with
    | unhandled kind timeout created hcb =>
        have hinit : s.ni_notify_cb = true := hguard
        simp [hinit] at hcb

/-- Where nothing is left that could take a payload out of a slot, no payload is
held. -/
theorem Attended.held_of_quiet {s : Payloads} (hs : s.Attended) (hquiet : s.Quiet)
    (request : Nat) : s.held request = 0 := by
  obtain ⟨hfinished, hmsgs⟩ := hquiet
  have hraw (kind : Kind) : (s.ni.get kind).rawRequest = none := by
    rw [← Option.not_isSome_iff_eq_none]
    intro hsome
    obtain ⟨t, ht, hwaits⟩ := List.countP_pos_iff.mp (hs kind hsome)
    simp [Thread.waits, hfinished t ht] at hwaits
  have hslots : s.ni.slots request = 0 := by
    change holds (s.ni.get .session).rawRequest request +
      holds (s.ni.get .sessionEs).rawRequest request = 0
    rw [hraw, hraw]
    rfl
  have hsending : s.ni.sending request = 0 := by
    apply List.countP_eq_zero.mpr
    intro t ht
    simp [Thread.sends, Thread.msg, hfinished t ht]
  simp [held, hslots, hsending, hmsgs]

/-- In every run whose steps meet the guard no payload is freed twice or used
after it was freed, and once no thread and no message is left each payload that
was handed over has been freed. -/
theorem payloads_freed_once (inputs : List Input) (h : Meets step payloadGuard start inputs) :
    NotAfterFree (run step start inputs).events ∧
      (∀ request, (run step start inputs).events.count (.freed request) ≤ 1) ∧
      ((run step start inputs).Quiet → ∀ request,
        .handed request ∈ (run step start inputs).events →
          (run step start inputs).events.count (.freed request) = 1) := by
  have hs : (run step start inputs).Owned := run_invariant_all owned_step owned_start inputs
  have hattended : (run step start inputs).Attended :=
    run_invariant (fun s input hs hguard => attended_step s input hs hguard.1) attended_start h
  have hhandled : ∀ request, .unhandled request ∉ (run step start inputs).events :=
    run_invariant (fun s input hs hguard => handled_step s input hs hguard.2)
      (by simp [start]) h
  have honce (request : Nat) : (run step start inputs).events.count (.handed request) ≤ 1 := by
    have := hs.once request
    split at this <;> omega
  refine ⟨hs.order, ?_, ?_⟩
  · intro request
    have := hs.balanced request
    have := honce request
    omega
  · intro hquiet request hhanded
    have hbalance := hs.balanced request
    rw [hattended.held_of_quiet hquiet, List.count_eq_zero.mpr (hhandled request)] at hbalance
    have := honce request
    have := List.count_pos_iff.mpr hhanded
    omega

/-- One payload is ignored, one is answered, one is dropped by a restart, one
times out and is sent. -/
def fourRequests : List Input :=
  [.init (some true), .ni (.request .session true 0 true), .ni (.request .session true 0 true),
    .ni (.respond 1 1), .ni (.critical 0 false), .ni (.finish 0), .process,
    .ni (.request .sessionEs true 0 true), .ni .resetOnEngineRestart, .ni (.critical 1 false),
    .ni (.finish 1), .ni (.request .session true 0 true), .ni (.critical 2 true),
    .ni (.finish 2), .process]

theorem payloads_freed_once_four :
    (run step start fourRequests).events.count (.freed 0) = 1 ∧
      (run step start fourRequests).events.count (.freed 1) = 1 ∧
      (run step start fourRequests).events.count (.freed 2) = 1 ∧
      (run step start fourRequests).events.count (.freed 3) = 1 := by
  have hfreed := (payloads_freed_once fourRequests (by decide)).2.2 (by decide)
  exact ⟨hfreed 0 (by decide), hfreed 1 (by decide), hfreed 2 (by decide), hfreed 3 (by decide)⟩

/-- A payload that comes before `loc_eng_ni_init` is never freed. -/
theorem payload_leaked :
    ¬∀ inputs, (run step start inputs).Quiet → ∀ request,
      .handed request ∈ (run step start inputs).events →
        (run step start inputs).events.count (.freed request) = 1 := by
  intro hall
  have hfreed := hall [.ni (.request .session true 0 true)] (by decide) 0 (by decide)
  revert hfreed
  decide

end Payloads

end G2Common.Ni
