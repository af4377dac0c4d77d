import G2Common.Ni.Session

/-!
Privacy: a response is sent for a request only if the user gave it to that very
request, or if the thread of that request timed out. The fields of a session
are used again for the next request, so this needs the thread of the previous
one to be done with them.
-/

namespace G2Common.Ni

open Transition

/-- The user gave this response with the id that was announced for the
request, after it was announced. -/
def UserGave (log : List Entry) (resp : Int) (request : Nat) : Prop :=
  ∃ before id after, log = before ++ .notified request id :: after ∧
    .responded id resp ∈ after

def Justified (log : List Entry) (resp : Int) (request : Nat) : Prop :=
  (resp = GPS_NI_RESPONSE_NORESP ∧ .timedOut request ∈ log) ∨ UserGave log resp request

/-- Each message that was sent was justified by then. -/
def Private (log : List Entry) : Prop :=
  ∀ before resp request after, log = before ++ .sent resp request :: after →
    Justified before resp request

/-- A request is accepted only if no earlier thread of the session is left, and
nothing that such a thread was to receive. -/
def privacyGuard (s : System) : Input → Prop
  | .request kind _ _ _ =>
      s.inProgress kind = false →
        (s.get kind).respRecvd = false ∧
          ∀ t ∈ s.threads, t.pSession = kind → t.phase = .finished
  | _ => True

instance privacyGuard.decidable (s : System) : ∀ input, Decidable (privacyGuard s input)
  | .request _ _ _ _ => inferInstanceAs (Decidable (_ → _))
  | .respond _ _ => isTrue trivial
  | .resetOnEngineRestart => isTrue trivial
  | .critical _ _ => isTrue trivial
  | .finish _ => isTrue trivial

theorem UserGave.append {log : List Entry} {resp : Int} {request : Nat}
    (h : UserGave log resp request) (entries : List Entry) :
    UserGave (log ++ entries) resp request := by
  obtain ⟨before, id, after, rfl, hmem⟩ := h
  exact ⟨before, id, after ++ entries, by simp, List.mem_append_left _ hmem⟩

theorem Justified.append {log : List Entry} {resp : Int} {request : Nat}
    (h : Justified log resp request) (entries : List Entry) :
    Justified (log ++ entries) resp request := by
  rcases h with ⟨hresp, hmem⟩ | hgave
  · exact .inl ⟨hresp, List.mem_append_left _ hmem⟩
  · exact .inr (hgave.append entries)

theorem Private.append {log : List Entry} (h : Private log) {entry : Entry}
    (hentry : ∀ resp request, entry = .sent resp request → Justified log resp request) :
    Private (log ++ [entry]) := by
  intro before resp request after hsplit
  rcases List.eq_nil_or_concat after with rfl | ⟨rest, last, rfl⟩
  · obtain ⟨rfl, hlast⟩ := List.append_inj' hsplit rfl
    exact hentry resp request (List.singleton_inj.mp hlast)
  · have hsplit' : log ++ [entry] = (before ++ .sent resp request :: rest) ++ [last] := by
      simpa using hsplit
    exact h before resp request rest (List.append_inj' hsplit' rfl).1

/-- What is known of a session that holds a payload: its id was announced for
that payload, and a response that is waiting was given with it since. -/
def Answering (log : List Entry) (session : Session) (request : Nat) : Prop :=
  ∃ before after, log = before ++ .notified request session.reqID :: after ∧
    (session.respRecvd = true →
      session.resp = GPS_NI_RESPONSE_IGNORE ∨ .responded session.reqID session.resp ∈ after)

/-- The invariant, on the sessions, the threads and the log. -/
structure Orderly (sessions : Kind → Session) (threads : List Thread) (log : List Entry) :
    Prop where
  own : ∀ t ∈ threads, t.phase = .waiting →
    ∀ request ∈ (sessions t.pSession).rawRequest, request = t.request
  done : ∀ t ∈ threads, ∀ msg, t.phase = .unlocked msg →
    (sessions t.pSession).rawRequest = none
  answering : ∀ kind, ∀ request ∈ (sessions kind).rawRequest,
    Answering log (sessions kind) request
  messages : ∀ t ∈ threads, ∀ resp request, t.phase = .unlocked (some (resp, request)) →
    Justified log resp request
  sent : Private log

theorem Answering.append {log : List Entry} {session : Session} {request : Nat}
    (h : Answering log session request) (entries : List Entry) :
    Answering (log ++ entries) session request := by
  obtain ⟨before, after, rfl, hreceived⟩ := h
  refine ⟨before, after ++ entries, by simp, fun hrecvd => ?_⟩
  exact (hreceived hrecvd).imp_right (List.mem_append_left _)

/-- A response that comes with the id of the session. -/
theorem Answering.receive {log : List Entry} {session : Session} {request : Nat}
    (h : Answering log session request) (resp : Int) :
    Answering (log ++ [.responded session.reqID resp]) (session.receive resp) request := by
  obtain ⟨before, after, rfl, -⟩ := h
  exact ⟨before, after ++ [.responded session.reqID resp], by simp [Session.receive],
    fun _ => .inr (by simp [Session.receive])⟩

/-- The request is cancelled. -/
theorem Answering.ignore {log : List Entry} {session : Session} {request : Nat}
    (h : Answering log session request) :
    Answering log (session.receive GPS_NI_RESPONSE_IGNORE) request := by
  obtain ⟨before, after, rfl, -⟩ := h
  exact ⟨before, after, rfl, fun _ => .inl rfl⟩

namespace Orderly

variable {sessions : Kind → Session} {threads : List Thread} {log : List Entry}

theorem append (h : Orderly sessions threads log) {entry : Entry}
    (hentry : ∀ resp request, entry = .sent resp request → Justified log resp request) :
    Orderly sessions threads (log ++ [entry]) :=
  ⟨h.own, h.done, fun kind request hmem => (h.answering kind request hmem).append _,
    fun t ht resp request hphase => (h.messages t ht resp request hphase).append _,
    h.sent.append hentry⟩

/-- A session that takes a response keeps its payload. -/
theorem update (h : Orderly sessions threads log) {kind : Kind} {new : Session}
    (hraw : new.rawRequest = (sessions kind).rawRequest)
    (hanswering : ∀ request ∈ new.rawRequest, Answering log new request) :
    Orderly (Function.update sessions kind new) threads log := by
  have hsame (other : Kind) : (Function.update sessions kind new other).rawRequest =
      (sessions other).rawRequest := by
    rw [Function.update_apply]
    split
    · next hkind => rw [hkind, hraw]
    · rfl
  refine ⟨?_, ?_, ?_, h.messages, h.sent⟩
  · intro t ht hwaiting request hmem
    exact h.own t ht hwaiting request (hsame t.pSession ▸ hmem)
  · intro t ht msg hunlocked
    exact (hsame t.pSession).trans (h.done t ht msg hunlocked)
  · intro other request hmem
    rw [Function.update_apply] at hmem ⊢
    split at hmem
    · next hkind =>
        rw [if_pos hkind]
        exact hanswering request hmem
    · next hkind =>
        rw [if_neg hkind]
        exact h.answering other request hmem

/-- A session that drops its payload. -/
theorem drop (h : Orderly sessions threads log) {kind : Kind} {new : Session}
    (hraw : new.rawRequest = none) :
    Orderly (Function.update sessions kind new) threads log := by
  have hless (other : Kind) (request : Nat)
      (hmem : request ∈ (Function.update sessions kind new other).rawRequest) :
      Function.update sessions kind new other = sessions other ∧
        request ∈ (sessions other).rawRequest := by
    rw [Function.update_apply] at hmem ⊢
    split at hmem
    · simp [hraw] at hmem
    · next hkind => exact ⟨if_neg hkind, hmem⟩
  refine ⟨?_, ?_, ?_, h.messages, h.sent⟩
  · intro t ht hwaiting request hmem
    exact h.own t ht hwaiting request (hless t.pSession request hmem).2
  · intro t ht msg hunlocked
    rw [Option.eq_none_iff_forall_not_mem]
    intro request hmem
    have hbefore := (hless t.pSession request hmem).2
    rw [h.done t ht msg hunlocked] at hbefore
    cases hbefore
  · intro other request hmem
    obtain ⟨hsame, hbefore⟩ := hless other request hmem
    rw [hsame]
    exact h.answering other request hbefore

theorem resetOnEngineRestart (h : Orderly sessions threads log) (kind : Kind) :
    Orderly (Function.update sessions kind (sessions kind).resetOnEngineRestart) threads log := by
  unfold Session.resetOnEngineRestart
  split
  · exact h.drop rfl
  · rwa [Function.update_eq_self]

/-- A session that no thread uses takes a new request. -/
theorem accept (h : Orderly sessions threads log) {kind : Kind} {new : Session} {request : Nat}
    (hraw : ∀ payload ∈ new.rawRequest, payload = request) (hrecvd : new.respRecvd = false)
    (hfinished : ∀ t ∈ threads, t.pSession = kind → t.phase = .finished) :
    Orderly (Function.update sessions kind new) threads
      (log ++ [.notified request new.reqID]) := by
  have hother {t : Thread} (ht : t ∈ threads) (hrunning : t.phase ≠ .finished) :
      Function.update sessions kind new t.pSession = sessions t.pSession :=
    Function.update_of_ne (fun hkind => hrunning (hfinished t ht hkind)) _ _
  refine ⟨?_, ?_, ?_, ?_, h.sent.append (by simp)⟩
  · intro t ht hwaiting payload hmem
    rw [hother ht (by simp [hwaiting])] at hmem
    exact h.own t ht hwaiting payload hmem
  · intro t ht msg hunlocked
    rw [hother ht (by simp [hunlocked])]
    exact h.done t ht msg hunlocked
  · intro other payload hmem
    rw [Function.update_apply] at hmem ⊢
    split at hmem
    · next hkind =>
        rw [if_pos hkind]
        obtain rfl := hraw payload hmem
        refine ⟨log, [], rfl, fun hreceived => ?_⟩
        simp [hrecvd] at hreceived
    · next hkind =>
        rw [if_neg hkind]
        exact (h.answering other payload hmem).append _
  · intro t ht resp payload hphase
    exact (h.messages t ht resp payload hphase).append _

/-- The threads change: each new one is an old one, or has what its phase
asks for. -/
theorem withThreads (h : Orderly sessions threads log) {threads' : List Thread}
    (hthreads : ∀ t ∈ threads', t ∈ threads ∨
      (t.phase = .waiting → ∀ request ∈ (sessions t.pSession).rawRequest, request = t.request) ∧
      (∀ msg, t.phase = .unlocked msg → (sessions t.pSession).rawRequest = none) ∧
      ∀ resp request, t.phase = .unlocked (some (resp, request)) →
        Justified log resp request) :
    Orderly sessions threads' log := by
  refine ⟨fun t ht => ?_, fun t ht => ?_, h.answering, fun t ht => ?_, h.sent⟩
  · exact (hthreads t ht).elim (h.own t) (·.1)
  · exact (hthreads t ht).elim (h.done t) (·.2.1)
  · exact (hthreads t ht).elim (h.messages t) (·.2.2)

end Orderly

theorem get_set (s : System) (kind : Kind) (session : Session) :
    (s.set kind session).get = Function.update s.get kind session := by
  funext other
  cases kind <;> cases other <;> rfl

theorem orderly_requestHandler {s : System} (hs : Orderly s.get s.threads s.log) {kind : Kind}
    (passThrough : Bool) (timeout : Int32) (created : Bool)
    (hguard : s.inProgress kind = false → (s.get kind).respRecvd = false ∧
      ∀ t ∈ s.threads, t.pSession = kind → t.phase = .finished) :
    Orderly (s.requestHandler kind passThrough timeout created).get
      (s.requestHandler kind passThrough timeout created).threads
      (s.requestHandler kind passThrough timeout created).log := by
  unfold System.requestHandler
  split
  · exact hs
  · next hfree =>
      obtain ⟨hrecvd, hfinished⟩ := hguard (by simpa using hfree)
      have hraw : ∀ payload ∈ if passThrough then some s.requests else none,
          payload = s.requests := by
        cases passThrough <;> simp
      have hnew : Orderly
          (Function.update s.get kind ((s.get kind).saveRequest
            (if passThrough then some s.requests else none) (s.reqIDCounter + 1) timeout))
          s.threads (s.log ++ [.notified s.requests (s.reqIDCounter + 1)]) :=
        hs.accept hraw hrecvd hfinished
      rw [← get_set] at hnew
      refine hnew.withThreads fun t ht => ?_
      obtain ht | rfl : t ∈ s.threads ∨ t = ⟨kind, s.requests, .waiting⟩ := by
        cases created <;> simp_all
      · exact .inl ht
      · refine .inr ⟨fun _ payload hmem => hraw payload ?_, by simp, by simp⟩
        rw [get_set] at hmem
        simpa [Session.saveRequest] using hmem

theorem orderly_respond {s : System} (hs : Orderly s.get s.threads s.log) (notif_id : Int32)
    (user_response : Int) :
    Orderly (s.respond notif_id user_response).get (s.respond notif_id user_response).threads
      (s.respond notif_id user_response).log := by
  have hlogged : Orderly s.get s.threads (s.log ++ [.responded notif_id user_response]) :=
    hs.append (by simp)
  have hreceive {kind : Kind} (hid : notif_id = (s.get kind).reqID) :
      ∀ request ∈ ((s.get kind).receive user_response).rawRequest,
        Answering (s.log ++ [.responded notif_id user_response])
          ((s.get kind).receive user_response) request := by
    intro request hmem
    rw [hid]
    exact (hs.answering kind request hmem).receive user_response
  unfold System.respond
  dsimp only
  split
  · next hes =>
      have hsession : Orderly
          (Function.update s.get .session
            (if user_response = GPS_NI_RESPONSE_ACCEPT ∧ s.session.rawRequest.isSome then
              s.session.receive GPS_NI_RESPONSE_IGNORE
            else s.session))
          s.threads (s.log ++ [.responded notif_id user_response]) := by
        split
        · exact hlogged.update rfl fun request hmem =>
            (hlogged.answering .session request hmem).ignore
        · exact (Function.update_eq_self Kind.session s.get).symm ▸ hlogged
      have hboth : Orderly
          (Function.update (Function.update s.get .session _) .sessionEs
            ((s.get .sessionEs).receive user_response))
          s.threads (s.log ++ [.responded notif_id user_response]) :=
        hsession.update rfl (hreceive hes.1)
      rwa [← get_set, ← get_set] at hboth
  · split
    · next hid =>
        have hnew : Orderly
            (Function.update s.get .session ((s.get .session).receive user_response))
            s.threads (s.log ++ [.responded notif_id user_response]) :=
          hlogged.update rfl (hreceive hid.1)
        rwa [← get_set] at hnew
    · exact hlogged

theorem orderly_resetOnEngineRestart {s : System} (hs : Orderly s.get s.threads s.log) :
    Orderly s.resetOnEngineRestart.get s.resetOnEngineRestart.threads
      s.resetOnEngineRestart.log := by
  have hboth := (hs.resetOnEngineRestart .session).resetOnEngineRestart .sessionEs
  rwa [← get_set, ← get_set] at hboth

theorem message_eq_some {session : Session} {resp : Int} {request : Nat}
    (h : session.message = some (resp, request)) :
    session.rawRequest = some request ∧ session.resp = resp ∧
      session.resp ≠ GPS_NI_RESPONSE_IGNORE := by
  unfold Session.message at h
  split at h
  · next payload hraw =>
      split at h
      · next hsend =>
          cases h
          exact ⟨hraw, rfl, hsend⟩
      · cases h
  · cases h

/-- A thread that wakes up with a response sends what was given to its own
request. -/
theorem justified_response {s : System} (hs : Orderly s.get s.threads s.log) {t : Thread}
    (hrecvd : (s.get t.pSession).respRecvd = true) {resp : Int} {request : Nat}
    (hmessage : (s.get t.pSession).message = some (resp, request)) :
    Justified s.log resp request := by
  obtain ⟨hraw, rfl, hsend⟩ := message_eq_some hmessage
  obtain ⟨before, after, hlog, hreceived⟩ := hs.answering t.pSession request hraw
  rcases hreceived hrecvd with hignore | hmem
  · exact absurd hignore hsend
  · exact .inr ⟨before, _, after, hlog, hmem⟩

theorem orderly_critical {s : System} (hs : Orderly s.get s.threads s.log) (thread : Nat)
    (timedOut : Bool) :
    Orderly (s.critical thread timedOut).get (s.critical thread timedOut).threads
      (s.critical thread timedOut).log := by
  unfold System.critical
  split
  · exact hs
  · next t hthread =>
      have ht := List.mem_of_getElem? hthread
      dsimp only
      split
      · next hwake =>
          obtain ⟨hwaiting, hreason⟩ := hwake
          generalize hsession : (if timedOut = true then
            { s.get t.pSession with resp := GPS_NI_RESPONSE_NORESP }
              else s.get t.pSession) = session
          generalize hlog : (if timedOut = true then [Entry.timedOut t.request] else []) = entries
          have hnew : Orderly
              (Function.update s.get t.pSession
                { session with respRecvd := false, rawRequest := none })
              s.threads (s.log ++ entries) := by
            cases timedOut with
            | false => exact hlog ▸ (List.append_nil s.log).symm ▸ hs.drop rfl
            | true => exact hlog ▸ (hs.append (by simp)).drop rfl
          rw [← get_set] at hnew
          refine hnew.withThreads fun t' ht' => ?_
          rcases List.mem_or_eq_of_mem_set ht' with ht' | rfl
          · exact .inl ht'
          · refine .inr ⟨by simp, fun _ _ => ?_, fun resp request hphase => ?_⟩
            · rw [get_set, Function.update_self]
            · have hmessage : session.message = some (resp, request) := by simpa using hphase
              cases timedOut with
              | false =>
                  subst hsession
                  exact (justified_response hs (by simpa using hreason) hmessage).append _
              | true =>
                  -- The payload is the thread's own.
                  subst hsession hlog
                  obtain ⟨hraw, rfl, -⟩ := message_eq_some hmessage
                  obtain rfl := hs.own t ht hwaiting request hraw
                  exact .inl ⟨rfl, by simp⟩
      · exact hs

theorem orderly_finish {s : System} (hs : Orderly s.get s.threads s.log) (thread : Nat) :
    Orderly (s.finish thread).get (s.finish thread).threads (s.finish thread).log := by
  unfold System.finish
  split
  · next pSession request msg hthread =>
      have ht := List.mem_of_getElem? hthread
      have hdone : (s.get pSession).rawRequest = none := hs.done _ ht msg rfl
      have hnew : Orderly
          (Function.update s.get pSession { s.get pSession with respTimeLeft := 0, reqID := 0 })
          s.threads s.log := hs.drop hdone
      rw [← get_set] at hnew
      refine Orderly.withThreads (?_ : Orderly _ s.threads _) fun t ht => ?_
      · cases msg with
        | none =>
            rw [← List.append_nil s.log] at hnew
            exact hnew
        | some pair =>
            obtain ⟨resp, payload⟩ := pair
            refine hnew.append fun resp' payload' heq => ?_
            cases heq
            exact hs.messages _ ht resp payload rfl
      · rcases List.mem_or_eq_of_mem_set ht with ht | rfl
        · exact .inl ht
        · exact .inr ⟨by simp, by simp, by simp⟩
  · exact hs

theorem orderly_step (s : System) (input : Input) (hs : Orderly s.get s.threads s.log)
    (hguard : privacyGuard s input) :
    Orderly (step s input).get (step s input).threads (step s input).log := by
  cases input with
  | request kind passThrough timeout created =>
      exact orderly_requestHandler hs passThrough timeout created hguard
  | respond notif_id user_response => exact orderly_respond hs notif_id user_response
  | resetOnEngineRestart => exact orderly_resetOnEngineRestart hs
  | critical thread timedOut => exact orderly_critical hs thread timedOut
  | finish thread => exact orderly_finish hs thread

theorem orderly_init : Orderly System.init.get System.init.threads System.init.log := by
  have hraw (kind : Kind) : (System.init.get kind).rawRequest = none := by
    cases kind <;> rfl
  refine ⟨by simp [System.init], by simp [System.init], ?_, by simp [System.init], ?_⟩
  · intro kind request hmem
    simp [hraw kind] at hmem
  · intro before resp request after hsplit
    simp [System.init] at hsplit

/-- In every run whose steps meet the guard each message that is sent is
justified when it is sent. -/
theorem responses_private (inputs : List Input)
    (h : Meets step privacyGuard System.init inputs) :
    Private (run step System.init inputs).log := by
  have hs := run_invariant orderly_step orderly_init h
  exact hs.sent

/-- A request that is answered, an emergency request that a restart drops, and a
request that times out. -/
theorem responses_private_three_requests :
    Private (run step System.init
      [.request .session true 0 true, .respond 1 1, .critical 0 false, .finish 0,
        .request .sessionEs true 10 true, .resetOnEngineRestart, .critical 1 false, .finish 1,
        .request .session true 0 true, .critical 2 true, .finish 2]).log :=
  responses_private _ (by decide)

/-- The user accepts the first request. A restart drops the second one, and a
third one arrives before the thread of the second one wakes up: that thread
sends the old response for the third payload. -/
theorem response_left_over :
    ¬∀ inputs, Private (run step System.init inputs).log := by
  intro hall
  have hlog : (run step System.init
      [.request .session true 0 true, .respond 1 1, .critical 0 false, .finish 0,
        .request .session true 0 true, .resetOnEngineRestart,
        .request .session true 0 true, .critical 1 false, .finish 1]).log =
      [.notified 0 1, .responded 1 1, .sent 1 0, .notified 1 2, .notified 2 3] ++
        [.sent 1 2] := by
    decide
  obtain ⟨hresp, -⟩ | ⟨before, id, after, hsplit, hmem⟩ :=
    hall _ _ 1 2 [] hlog
  · exact absurd hresp (by decide)
  · have hnotified : Entry.notified 2 id ∈
        [.notified 0 1, .responded 1 1, .sent 1 0, .notified 1 2, .notified 2 3] := by
      rw [hsplit]
      simp
    have hresponded : Entry.responded id 1 ∈
        [.notified 0 1, .responded 1 1, .sent 1 0, .notified 1 2, .notified 2 3] := by
      rw [hsplit]
      simp [hmem]
    obtain rfl : id = 3 := by simpa using hnotified
    simp at hresponded

end G2Common.Ni
