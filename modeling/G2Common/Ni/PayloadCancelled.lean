import G2Common.Ni.PayloadFreed

/-!
An accepted emergency request cancels the other one. The cancellation is the
response `GPS_NI_RESPONSE_IGNORE` in the session of the other request, and it
holds as long as nobody writes a response over it before the thread of that
session wakes up.
-/

namespace G2Common.Ni

open Transition

namespace Payloads

/-- The user accepts the emergency request that is in session. -/
def acceptEs (s : Payloads) : Payloads :=
  s.step (.ni (.respond s.ni.sessionEs.reqID GPS_NI_RESPONSE_ACCEPT))

/-- The session still has the payload of the cancelled request, and a thread is
to take it. -/
structure Cancelled (s : Payloads) (request : Nat) : Prop where
  rawRequest : s.ni.session.rawRequest = some request
  respRecvd : s.ni.session.respRecvd = true
  resp : s.ni.session.resp = GPS_NI_RESPONSE_IGNORE
  waits : 0 < s.ni.threads.countP (Thread.waits .session)

/-- As long as the session has the payload it takes no other response, and its
thread does not time out. -/
def cancelGuard (request : Nat) (s : Payloads) : Input → Prop
  | .ni (.respond notif_id user_response) =>
      s.ni.session.rawRequest = some request →
        ¬(notif_id = s.ni.sessionEs.reqID ∧ s.ni.sessionEs.rawRequest.isSome) →
          notif_id = s.ni.session.reqID → user_response = GPS_NI_RESPONSE_IGNORE
  | .ni (.critical thread timedOut) =>
      s.ni.session.rawRequest = some request → timedOut = true →
        s.ni.threads[thread]?.all (fun t => !t.waits .session) = true
  | _ => True

instance cancelGuard.decidable (request : Nat) (s : Payloads) :
    ∀ input, Decidable (cancelGuard request s input)
  | .init _ => isTrue trivial
  | .ni (.request _ _ _ _) => isTrue trivial
  | .ni (.respond _ _) => inferInstanceAs (Decidable (_ → _ → _ → _))
  | .ni .resetOnEngineRestart => isTrue trivial
  | .ni (.critical _ _) => inferInstanceAs (Decidable (_ → _ → _))
  | .ni (.finish _) => isTrue trivial
  | .process => isTrue trivial

/-- The payload was not sent, and it was freed or is about to be. -/
structure Withdrawn (s : Payloads) (request : Nat) : Prop where
  owned : s.Owned
  unsent : ∀ resp, .informed resp request ∉ s.events
  settled : .freed request ∈ s.events ∨ s.Cancelled request

theorem initialised_of_rawRequest {s : Payloads} (hs : s.Owned) (kind : Kind) {request : Nat}
    (hraw : (s.ni.get kind).rawRequest = some request) : s.ni_notify_cb = true := by
  rw [← Bool.not_eq_false]
  intro hcb
  simp [hs.uninitialised hcb kind] at hraw

/-- What a step sends was in the queue of the message thread. -/
theorem informed_step {s : Payloads} {input : Input} {resp : Int} {request : Nat}
    (hmem : .informed resp request ∈ (s.step input).events) :
    .informed resp request ∈ s.events ∨ request ∈ s.msgs.map Prod.snd := by
  rcases logs_step hmem with hmem | hlogs
  · exact .inl hmem
  · cases hlogs with
    | informed hmsg => exact .inr (List.mem_map.mpr ⟨_, hmsg, rfl⟩)

/-- A payload that a session holds, or that was freed, is in no message. -/
theorem Withdrawn.not_queued {s : Payloads} {request : Nat} (hs : s.Withdrawn request) :
    request ∉ s.msgs.map Prod.snd := by
  intro hmem
  have hqueued := List.count_pos_iff.mpr hmem
  rcases hs.settled with hfreed | hcancelled
  · exact hs.owned.freed_of_held (by simp only [held]; omega) hfreed
  · have hslots : 0 < s.ni.slots request := by
      simp only [System.slots, holds, hcancelled.rawRequest, if_true]
      omega
    have hbalance := hs.owned.balanced request
    have honce := hs.owned.once request
    simp only [held] at hbalance
    split at honce <;> omega

theorem Cancelled.requestHandler {s : Payloads} {request : Nat} (h : s.Cancelled request)
    (kind : Kind) (passThrough : Bool) (timeout : Int32) (created : Bool) :
    (s.requestHandler kind passThrough timeout created).Cancelled request := by
  obtain ⟨hraw, hrecvd, hresp, hwaits⟩ := h
  unfold Payloads.requestHandler
  dsimp only
  split
  · exact ⟨hraw, hrecvd, hresp, hwaits⟩
  · cases hfree : s.ni.inProgress kind with
    | true =>
        have hsame : s.ni.requestHandler kind passThrough timeout created =
            { s.ni with requests := s.ni.requests + 1 } := if_pos hfree
        rw [hsame]
        exact ⟨hraw, hrecvd, hresp, hwaits⟩
    | false =>
        cases kind with
        | session => simp [System.inProgress, hraw] at hfree
        | sessionEs =>
            have hsession : (s.ni.requestHandler .sessionEs passThrough timeout created).session =
                s.ni.session := by
              unfold System.requestHandler
              rw [if_neg (by simp [hfree])]
              rfl
            refine ⟨?_, ?_, ?_, ?_⟩
            · rw [hsession, hraw]
            · rw [hsession, hrecvd]
            · rw [hsession, hresp]
            · change 0 <
                (s.ni.requestHandler .sessionEs passThrough timeout created).threads.countP _
              unfold System.requestHandler
              rw [if_neg (by simp [hfree])]
              cases created <;> simp [Thread.waits, hwaits]

theorem Cancelled.respond {s : Payloads} {request : Nat} (h : s.Cancelled request)
    {notif_id : Int32} {user_response : Int}
    (hguard : cancelGuard request s (.ni (.respond notif_id user_response))) :
    (s.respond notif_id user_response).Cancelled request := by
  obtain ⟨hraw, hrecvd, hresp, hwaits⟩ := h
  unfold Payloads.respond
  split
  · exact ⟨hraw, hrecvd, hresp, hwaits⟩
  · have hignore : s.ni.session.receive GPS_NI_RESPONSE_IGNORE = s.ni.session := by
      simp only [Session.receive, ← hresp, ← hrecvd]
    have hsession : (s.ni.respond notif_id user_response).session = s.ni.session := by
      unfold System.respond
      dsimp only
      split
      · change (if _ then _ else _) = s.ni.session
        split
        · exact hignore
        · rfl
      · next hes =>
          split
          · next hid =>
              rw [hguard hraw hes hid.1]
              exact hignore
          · rfl
    refine ⟨?_, ?_, ?_, ?_⟩
    · rw [hsession, hraw]
    · rw [hsession, hrecvd]
    · rw [hsession, hresp]
    · rw [threads_respond]
      exact hwaits

/-- The thread that takes the payload frees it, any other one leaves it. -/
theorem Cancelled.critical {s : Payloads} {request : Nat} (h : s.Cancelled request)
    {thread : Nat} {timedOut : Bool}
    (hguard : cancelGuard request s (.ni (.critical thread timedOut))) :
    .freed request ∈ (s.critical thread timedOut).events ∨
      (s.critical thread timedOut).Cancelled request := by
  obtain ⟨hraw, hrecvd, hresp, hwaits⟩ := h
  rcases critical_cases s.ni thread timedOut with
    ⟨-, hsame⟩ | ⟨t, session, hthread, hwaiting, hwoken, -, hanswered, hget, hthreads, -⟩
  · right
    unfold Payloads.critical
    rw [hsame]
    exact ⟨hraw, hrecvd, hresp, hwaits⟩
  · cases hkind : t.pSession with
    | session =>
        left
        have hsession : session = s.ni.session := by
          cases timedOut with
          | false =>
              rw [hanswered rfl, hkind]
              rfl
          | true =>
              have := hguard hraw rfl
              rw [hthread] at this
              simp [Thread.waits, hkind, hwaiting] at this
        have hignored : session.ignored = some request := by
          rw [Session.ignored, hsession, if_pos hresp, hraw]
        change _ ∈ s.events ++ ((s.ni.woken thread timedOut).bind Session.ignored).toList.map _
        rw [hwoken, Option.bind_some, hignored]
        simp
    | sessionEs =>
        right
        have hsame : (s.ni.critical thread timedOut).session = s.ni.session := by
          change (s.ni.critical thread timedOut).get .session = s.ni.get .session
          rw [hget, hkind]
          exact Function.update_of_ne (by simp) _ _
        refine ⟨?_, ?_, ?_, ?_⟩
        · change (s.ni.critical thread timedOut).session.rawRequest = _
          rw [hsame, hraw]
        · change (s.ni.critical thread timedOut).session.respRecvd = _
          rw [hsame, hrecvd]
        · change (s.ni.critical thread timedOut).session.resp = _
          rw [hsame, hresp]
        · change 0 < (s.ni.critical thread timedOut).threads.countP _
          rw [hthreads, countP_waits_set hthread]
          · exact hwaits
          · simp [Thread.waits, hkind]
          · simp [Thread.waits, hkind]

theorem Cancelled.finish {s : Payloads} {request : Nat} (h : s.Cancelled request)
    (thread : Nat) : (s.finish thread).Cancelled request := by
  obtain ⟨hraw, hrecvd, hresp, hwaits⟩ := h
  rcases finish_cases s.ni thread with ⟨-, hsame⟩ | ⟨t, hthread, hphase, hget, hthreads, -⟩
  · unfold Payloads.finish
    rw [hsame]
    exact ⟨hraw, hrecvd, hresp, hwaits⟩
  · obtain ⟨respTimeLeft, reqID, hsession⟩ := hget .session
    change (s.ni.finish thread).session =
      { s.ni.session with respTimeLeft := respTimeLeft, reqID := reqID } at hsession
    refine ⟨?_, ?_, ?_, ?_⟩
    · change (s.ni.finish thread).session.rawRequest = _
      rw [hsession, hraw]
    · change (s.ni.finish thread).session.respRecvd = _
      rw [hsession, hrecvd]
    · change (s.ni.finish thread).session.resp = _
      rw [hsession, hresp]
    · change 0 < (s.ni.finish thread).threads.countP _
      rw [hthreads, countP_waits_set hthread]
      · exact hwaits
      · simp [Thread.waits, hphase]
      · simp [Thread.waits]

theorem Cancelled.resetOnEngineRestart {s : Payloads} {request : Nat} (h : s.Cancelled request) :
    .freed request ∈ s.resetOnEngineRestart.events ∨
      s.resetOnEngineRestart.Cancelled request := by
  unfold Payloads.resetOnEngineRestart
  split
  · exact .inr h
  · left
    simp [h.rawRequest]

theorem cancelled_step {s : Payloads} (hs : s.Owned) {request : Nat} (h : s.Cancelled request)
    {input : Input} (hguard : cancelGuard request s input) :
    .freed request ∈ (s.step input).events ∨ (s.step input).Cancelled request := by
  cases input with
  | init callbacks =>
      have hinit : s.ni_notify_cb = true :=
        initialised_of_rawRequest hs .session h.rawRequest
      have hsame : s.niInit callbacks = s := by
        unfold niInit
        split
        · rfl
        · simp [hinit]
      change _ ∈ (s.niInit callbacks).events ∨ (s.niInit callbacks).Cancelled request
      rw [hsame]
      exact .inr h
  | process =>
      have hni : s.process.ni = s.ni := by
        unfold process
        split <;> rfl
      right
      refine ⟨?_, ?_, ?_, ?_⟩
      · exact (congrArg (fun ni => ni.session.rawRequest) hni).trans h.rawRequest
      · exact (congrArg (fun ni => ni.session.respRecvd) hni).trans h.respRecvd
      · exact (congrArg (fun ni => ni.session.resp) hni).trans h.resp
      · exact (congrArg (fun ni => ni.threads.countP (Thread.waits .session)) hni) ▸ h.waits
  | ni input =>
      cases input with
      | request kind passThrough timeout created =>
          exact .inr (h.requestHandler kind passThrough timeout created)
      | respond notif_id user_response => exact .inr (h.respond hguard)
      | resetOnEngineRestart => exact h.resetOnEngineRestart
      | critical thread timedOut => exact h.critical hguard
      | finish thread => exact .inr (h.finish thread)

theorem withdrawn_step {request : Nat} (s : Payloads) (input : Input) (hs : s.Withdrawn request)
    (hguard : cancelGuard request s input) : (s.step input).Withdrawn request := by
  refine ⟨owned_step s input hs.owned, ?_, ?_⟩
  · intro resp hmem
    rcases informed_step hmem with hmem | hmem
    · exact hs.unsent resp hmem
    · exact hs.not_queued hmem
  · rcases hs.settled with hfreed | hcancelled
    · exact .inl (mem_events_step hfreed input)
    · exact cancelled_step hs.owned hcancelled hguard

theorem withdrawn_acceptEs {s : Payloads} (hs : s.Owned) {request : Nat}
    (hes : s.ni.sessionEs.rawRequest.isSome) (hsession : s.ni.session.rawRequest = some request)
    (hwaits : 0 < s.ni.threads.countP (Thread.waits .session)) :
    s.acceptEs.Withdrawn request := by
  have hinit : s.ni_notify_cb = true :=
    initialised_of_rawRequest hs .session hsession
  have hevents : s.acceptEs.events = s.events := by
    simp [acceptEs, step, respond, hinit]
  have hheld : 0 < s.held request := by
    simp only [held, System.slots, holds, hsession, if_true]
    omega
  refine ⟨owned_step s _ hs, ?_, ?_⟩
  · intro resp hmem
    rw [hevents] at hmem
    exact hs.freed_of_held hheld (hs.informed resp request hmem)
  · right
    have hrespond : (s.ni.respond s.ni.sessionEs.reqID GPS_NI_RESPONSE_ACCEPT).session =
        s.ni.session.receive GPS_NI_RESPONSE_IGNORE := by
      simp [System.respond, hes, hsession]
    change (s.respond s.ni.sessionEs.reqID GPS_NI_RESPONSE_ACCEPT).Cancelled request
    unfold respond
    rw [if_neg (by simp [hinit])]
    refine ⟨?_, ?_, ?_, ?_⟩
    · rw [hrespond]
      exact hsession
    · rw [hrespond]
      rfl
    · rw [hrespond]
      rfl
    · rw [threads_respond]
      exact hwaits

/-- The next thread of the session that wakes up with a response frees the
payload. -/
theorem Cancelled.freed_next {s : Payloads} {request : Nat} (h : s.Cancelled request)
    {thread : Nat} {t : Thread} (hthread : s.ni.threads[thread]? = some t)
    (hwaits : t.waits .session = true) : .freed request ∈ (s.critical thread false).events := by
  have hguard : cancelGuard request s (.ni (.critical thread false)) := by
    intro _ htimedOut
    cases htimedOut
  rcases h.critical hguard with hfreed | hcancelled
  · exact hfreed
  · have htaken : ((s.ni.critical thread false).get .session).rawRequest = none :=
      critical_takes hthread hwaits (.inr h.respRecvd)
    exact absurd (htaken.symm.trans hcancelled.rawRequest) (by simp)

/-- A user accepts the emergency request while a thread waits with the payload
of the other one. Where all later steps meet the guard, that payload is never
sent; it is freed, or the next thread of the session that wakes up with a
response frees it. -/
theorem cancelled_never_sent (before after : List Input) (request : Nat)
    (hes : (run step start before).ni.sessionEs.rawRequest.isSome)
    (hsession : (run step start before).ni.session.rawRequest = some request)
    (hwaits : 0 < (run step start before).ni.threads.countP (Thread.waits .session))
    (hafter : Meets step (cancelGuard request) (run step start before).acceptEs after) :
    (∀ resp, .informed resp request ∉ (run step (run step start before).acceptEs after).events) ∧
    (.freed request ∈ (run step (run step start before).acceptEs after).events ∨
      (run step (run step start before).acceptEs after).Cancelled request ∧
      ∀ thread t, (run step (run step start before).acceptEs after).ni.threads[thread]? = some t →
        t.waits .session = true → .freed request ∈
          ((run step (run step start before).acceptEs after).critical thread false).events) := by
  have hs : (run step start before).Owned := run_invariant_all owned_step owned_start before
  have hwithdrawn := run_invariant withdrawn_step
    (withdrawn_acceptEs hs hes hsession hwaits) hafter
  refine ⟨hwithdrawn.unsent, ?_⟩
  rcases hwithdrawn.settled with hfreed | hcancelled
  · exact .inl hfreed
  · right
    refine ⟨hcancelled, ?_⟩
    intro thread t hthread hwaits
    exact hcancelled.freed_next hthread hwaits

/-- The user accepts the emergency request, and both threads wake up. -/
theorem cancelled_never_sent_both :
    .informed 1 0 ∉ (run step (run step start
      [.init (some true), .ni (.request .session true 0 true),
        .ni (.request .sessionEs true 0 true)]).acceptEs
      [.ni (.critical 0 false), .ni (.critical 1 false), .ni (.finish 0), .ni (.finish 1),
        .process]).events := by
  have hunsent := (cancelled_never_sent
    [.init (some true), .ni (.request .session true 0 true),
      .ni (.request .sessionEs true 0 true)]
    [.ni (.critical 0 false), .ni (.critical 1 false), .ni (.finish 0), .ni (.finish 1), .process]
    0 (by decide) (by decide) (by decide) (by decide)).1
  exact hunsent 1

/-- After the emergency request the user accepts the other one too, before its
thread wakes up. -/
theorem cancellation_overwritten :
    ¬∀ before after request,
      (run step start before).ni.sessionEs.rawRequest.isSome →
      (run step start before).ni.session.rawRequest = some request →
      (∀ input ∈ before ++ after, input ≠ .ni .resetOnEngineRestart) →
      ∀ resp, .informed resp request ∉
        (run step (run step start before).acceptEs after).events := by
  intro hall
  have hunsent := hall
    [.init (some true), .ni (.request .session true 0 true),
      .ni (.request .sessionEs true 0 true)]
    [.ni (.respond 1 1), .ni (.critical 0 false), .ni (.finish 0), .process]
    0 (by decide) (by decide) (by decide) 1
  revert hunsent
  decide

end Payloads

end G2Common.Ni
