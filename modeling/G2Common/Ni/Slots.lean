import G2Common.Ni.Privacy

/-!
The slot of a session. While it holds a payload, the id of the session is the
one that was announced for it, a response that is waiting was given for it, and
one thread waits that will take it. A thread gives up the slot before it resets
the rest of the session, so a request that comes in between breaks this.
-/

namespace G2Common.Ni

open Transition

/-- The thread is in its wait, on this session. -/
def Thread.waits (kind : Kind) (t : Thread) : Bool :=
  t.pSession = kind && t.phase = .waiting

/-- The thread has left its critical section and is to reset this session. -/
def Thread.resets (kind : Kind) (t : Thread) : Bool :=
  match t.phase with
  | .unlocked _ => t.pSession = kind
  | _ => false

/-- The session has the id that was announced for the request, and a response
that is waiting was given with it since, or an emergency request was accepted
since. -/
def Recorded (log : List Entry) (session : Session) (request : Nat) : Prop :=
  ∃ before after, log = before ++ .notified request session.reqID :: after ∧
    (session.respRecvd = true → .responded session.reqID session.resp ∈ after ∨
      session.resp = GPS_NI_RESPONSE_IGNORE ∧ ∃ id, .responded id GPS_NI_RESPONSE_ACCEPT ∈ after)

/-- What is to hold of a session that holds the payload of a request. -/
structure Occupied (s : System) (kind : Kind) (request : Nat) : Prop where
  recorded : Recorded s.log (s.get kind) request
  reached : ∀ user_response, (s.respond (s.get kind).reqID user_response).get kind =
    (s.get kind).receive user_response
  waiting : s.threads.countP (Thread.waits kind) = 1
  taken : ∀ thread t, s.threads[thread]? = some t → t.waits kind = true → ∀ timedOut,
    timedOut = true ∨ (s.get kind).respRecvd = true →
    ((s.critical thread timedOut).get kind).rawRequest = none

/-- A payload is accepted only into a session with no response left, on which
no thread still has its reset to do and, with the new thread, one thread waits.
An emergency request does not get the id of the other session. -/
def slotGuard (s : System) : Input → Prop
  | .request kind true _ created =>
      s.inProgress kind = false →
        (s.get kind).respRecvd = false ∧ (∀ t ∈ s.threads, t.resets kind = false) ∧
          s.threads.countP (Thread.waits kind) + created.toNat = 1 ∧
          (kind = .sessionEs → s.session.rawRequest.isSome →
            s.session.reqID ≠ s.reqIDCounter + 1)
  | _ => True

instance slotGuard.decidable (s : System) : ∀ input, Decidable (slotGuard s input)
  | .request _ true _ _ => inferInstanceAs (Decidable (_ → _))
  | .request _ false _ _ => isTrue trivial
  | .respond _ _ => isTrue trivial
  | .resetOnEngineRestart => isTrue trivial
  | .critical _ _ => isTrue trivial
  | .finish _ => isTrue trivial

theorem Recorded.append {log : List Entry} {session : Session} {request : Nat}
    (h : Recorded log session request) (entries : List Entry) :
    Recorded (log ++ entries) session request := by
  obtain ⟨before, after, rfl, hreceived⟩ := h
  refine ⟨before, after ++ entries, by simp, fun hrecvd => ?_⟩
  rcases hreceived hrecvd with hmem | ⟨hresp, id, hmem⟩
  · exact .inl (List.mem_append_left _ hmem)
  · exact .inr ⟨hresp, id, List.mem_append_left _ hmem⟩

theorem Recorded.receive {log : List Entry} {session : Session} {request : Nat}
    (h : Recorded log session request) (resp : Int) :
    Recorded (log ++ [.responded session.reqID resp]) (session.receive resp) request := by
  obtain ⟨before, after, rfl, -⟩ := h
  refine ⟨before, after ++ [.responded session.reqID resp], by simp [Session.receive], ?_⟩
  intro _
  left
  simp [Session.receive]

/-- An emergency request is accepted. -/
theorem Recorded.ignore {log : List Entry} {session : Session} {request : Nat}
    (h : Recorded log session request) (id : Int32) :
    Recorded (log ++ [.responded id GPS_NI_RESPONSE_ACCEPT])
      (session.receive GPS_NI_RESPONSE_IGNORE) request := by
  obtain ⟨before, after, rfl, -⟩ := h
  refine ⟨before, after ++ [.responded id GPS_NI_RESPONSE_ACCEPT], by simp [Session.receive], ?_⟩
  intro _
  exact .inr ⟨rfl, id, by simp⟩

theorem Thread.waits_of_ne {kind : Kind} {t : Thread} (h : t.pSession ≠ kind) :
    t.waits kind = false := by
  simp [Thread.waits, h]

theorem Thread.resets_of_ne {kind : Kind} {t : Thread} (h : t.pSession ≠ kind) :
    t.resets kind = false := by
  unfold Thread.resets
  split
  · simp [h]
  · rfl

/-- A thread changes that waits on this session neither before nor after. -/
theorem countP_waits_set {threads : List Thread} {thread : Nat} {t t' : Thread} {kind : Kind}
    (hthread : threads[thread]? = some t) (ht : t.waits kind = false)
    (ht' : t'.waits kind = false) :
    (threads.set thread t').countP (Thread.waits kind) =
      threads.countP (Thread.waits kind) := by
  obtain ⟨hlt, rfl⟩ := List.getElem?_eq_some_iff.mp hthread
  rw [List.countP_set hlt]
  simp [ht, ht']

/-- The invariant of one session. -/
def Slot (kind : Kind) (session : Session) (threads : List Thread) (log : List Entry) : Prop :=
  ∀ request ∈ session.rawRequest, Recorded log session request ∧
    threads.countP (Thread.waits kind) = 1 ∧ ∀ t ∈ threads, t.resets kind = false

/-- Two pending requests have different ids. -/
def Distinct (session sessionEs : Session) : Prop :=
  session.rawRequest.isSome → sessionEs.rawRequest.isSome → session.reqID ≠ sessionEs.reqID

def Slots (s : System) : Prop :=
  (∀ kind, Slot kind (s.get kind) s.threads s.log) ∧ Distinct s.session s.sessionEs

theorem Slot.append {kind : Kind} {session : Session} {threads : List Thread} {log : List Entry}
    (h : Slot kind session threads log) (entries : List Entry) :
    Slot kind session threads (log ++ entries) := by
  intro request hmem
  obtain ⟨hrecorded, hthreads⟩ := h request hmem
  exact ⟨hrecorded.append entries, hthreads⟩

/-- A session without a payload. -/
theorem Slot.empty {kind : Kind} {session : Session} {threads : List Thread} {log : List Entry}
    (h : session.rawRequest = none) : Slot kind session threads log := by
  intro request hmem
  simp [h] at hmem

/-- A thread of the other session changes. -/
theorem Slot.set {kind : Kind} {session : Session} {threads : List Thread} {log : List Entry}
    (h : Slot kind session threads log) {thread : Nat} {t t' : Thread}
    (hthread : threads[thread]? = some t) (ht : t.pSession ≠ kind) (ht' : t'.pSession ≠ kind) :
    Slot kind session (threads.set thread t') log := by
  intro request hmem
  obtain ⟨hrecorded, hcount, hresets⟩ := h request hmem
  refine ⟨hrecorded, ?_, ?_⟩
  · rwa [countP_waits_set hthread (Thread.waits_of_ne ht) (Thread.waits_of_ne ht')]
  · intro other hother
    rcases List.mem_or_eq_of_mem_set hother with hother | rfl
    · exact hresets other hother
    · exact Thread.resets_of_ne ht'

theorem slots_requestHandler {s : System} (hs : Slots s) {kind : Kind} {passThrough : Bool}
    (timeout : Int32) {created : Bool}
    (hguard : slotGuard s (.request kind passThrough timeout created)) :
    Slots (s.requestHandler kind passThrough timeout created) := by
  obtain ⟨hslots, hdistinct⟩ := hs
  unfold System.requestHandler
  split
  · exact ⟨hslots, hdistinct⟩
  · next hfree =>
      have hfree : s.inProgress kind = false := by simpa using hfree
      constructor
      · intro other
        change Slot other ((s.set kind _).get other) _ (s.log ++ _)
        rw [get_set, Function.update_apply]
        split
        · next hkind =>
            subst hkind
            cases passThrough with
            | false => exact Slot.empty rfl
            | true =>
                obtain ⟨hrecvd, hresets, hcount, -⟩ := hguard hfree
                intro request hmem
                obtain rfl : s.requests = request := by simpa [Session.saveRequest] using hmem
                refine ⟨⟨s.log, [], rfl, ?_⟩, ?_, ?_⟩
                · intro hreceived
                  simp [Session.saveRequest, hrecvd] at hreceived
                · cases created <;> simpa [Thread.waits] using hcount
                · cases created <;> simpa [Thread.resets, or_imp, forall_and] using hresets
        · next hkind =>
            intro request hmem
            obtain ⟨hrecorded, hcount, hresets⟩ := hslots other request hmem
            refine ⟨hrecorded.append _, ?_, ?_⟩
            · have hne : kind ≠ other := fun h => hkind h.symm
              cases created <;> simpa [Thread.waits, hne] using hcount
            · cases created <;> simpa [Thread.resets, or_imp, forall_and] using hresets
      · cases kind with
        | session =>
            have hes : s.sessionEs.rawRequest.isSome = false := by
              simp [System.inProgress] at hfree
              simp [hfree]
            intro _ hsome
            simp [System.set, hes] at hsome
        | sessionEs =>
            intro hsession hsome
            cases passThrough with
            | false => simp [System.set, System.get, Session.saveRequest] at hsome
            | true =>
                obtain ⟨-, -, -, hid⟩ := hguard hfree
                exact hid rfl hsession

theorem slots_respond {s : System} (hs : Slots s) (notif_id : Int32) (user_response : Int) :
    Slots (s.respond notif_id user_response) := by
  obtain ⟨hslots, hdistinct⟩ := hs
  have hreceive {kind : Kind} (hid : notif_id = (s.get kind).reqID) :
      Slot kind ((s.get kind).receive user_response) s.threads
        (s.log ++ [.responded notif_id user_response]) := by
    intro request hmem
    obtain ⟨hrecorded, hthreads⟩ := hslots kind request hmem
    rw [hid]
    exact ⟨hrecorded.receive user_response, hthreads⟩
  unfold System.respond
  dsimp only
  split
  · next hes =>
      constructor
      · intro kind
        cases kind with
        | sessionEs => exact hreceive hes.1
        | session =>
            change Slot .session (if _ then _ else _) _ _
            split
            · next haccept =>
                intro request hmem
                obtain ⟨hrecorded, hthreads⟩ := hslots .session request hmem
                rw [haccept.1]
                exact ⟨hrecorded.ignore notif_id, hthreads⟩
            · exact (hslots .session).append _
      · dsimp only
        split
        · exact hdistinct
        · exact hdistinct
  · split
    · next hid =>
        constructor
        · intro kind
          cases kind with
          | session => exact hreceive hid.1
          | sessionEs => exact (hslots .sessionEs).append _
        · exact hdistinct
    · exact ⟨fun kind => (hslots kind).append _, hdistinct⟩

theorem rawRequest_resetOnEngineRestart (session : Session) :
    session.resetOnEngineRestart.rawRequest = none := by
  unfold Session.resetOnEngineRestart
  split
  · rfl
  · next h => simpa using h

theorem slots_resetOnEngineRestart (s : System) : Slots s.resetOnEngineRestart := by
  constructor
  · intro kind
    cases kind with
    | session => exact Slot.empty (rawRequest_resetOnEngineRestart s.session)
    | sessionEs => exact Slot.empty (rawRequest_resetOnEngineRestart s.sessionEs)
  · intro hsession
    simp [System.resetOnEngineRestart, rawRequest_resetOnEngineRestart] at hsession

/-- One session is changed that holds no payload afterwards. -/
theorem distinct_set {s : System} {kind : Kind} {new : Session} (hraw : new.rawRequest = none) :
    Distinct (s.set kind new).session (s.set kind new).sessionEs := by
  intro hsession hes
  cases kind with
  | session => simp [System.set, hraw] at hsession
  | sessionEs => simp [System.set, hraw] at hes

theorem slots_critical {s : System} (hs : Slots s) (thread : Nat) (timedOut : Bool) :
    Slots (s.critical thread timedOut) := by
  obtain ⟨hslots, hdistinct⟩ := hs
  unfold System.critical
  split
  · exact ⟨hslots, hdistinct⟩
  · next t hthread =>
      dsimp only
      split
      · constructor
        · intro kind
          change Slot kind ((s.set t.pSession _).get kind) (s.threads.set thread _) (s.log ++ _)
          rw [get_set, Function.update_apply]
          split
          · exact Slot.empty rfl
          · next hkind =>
              have hne : t.pSession ≠ kind := fun h => hkind h.symm
              refine ((hslots kind).set hthread hne ?_).append _
              exact hne
        · exact distinct_set rfl
      · exact ⟨hslots, hdistinct⟩

theorem slots_finish {s : System} (hs : Slots s) (thread : Nat) :
    Slots (s.finish thread) := by
  obtain ⟨hslots, hdistinct⟩ := hs
  unfold System.finish
  split
  · next pSession request msg hthread =>
      -- The reset hits a session whose payload is gone.
      have hraw : (s.get pSession).rawRequest = none := by
        rw [Option.eq_none_iff_forall_not_mem]
        intro payload hmem
        obtain ⟨-, -, hresets⟩ := hslots pSession payload hmem
        have := hresets _ (List.mem_of_getElem? hthread)
        simp [Thread.resets] at this
      constructor
      · intro kind
        change Slot kind ((s.set pSession _).get kind) (s.threads.set thread _) (s.log ++ _)
        rw [get_set, Function.update_apply]
        split
        · exact Slot.empty hraw
        · next hkind =>
            have hne : pSession ≠ kind := fun h => hkind h.symm
            exact ((hslots kind).set hthread hne hne).append _
      · exact distinct_set hraw
  · exact ⟨hslots, hdistinct⟩

theorem slots_step (s : System) (input : Input) (hs : Slots s) (hguard : slotGuard s input) :
    Slots (step s input) := by
  cases input with
  | request kind passThrough timeout created => exact slots_requestHandler hs timeout hguard
  | respond notif_id user_response => exact slots_respond hs notif_id user_response
  | resetOnEngineRestart => exact slots_resetOnEngineRestart s
  | critical thread timedOut => exact slots_critical hs thread timedOut
  | finish thread => exact slots_finish hs thread

theorem slots_init : Slots System.init := by
  constructor
  · intro kind
    cases kind <;> exact Slot.empty rfl
  · intro hsession
    simp [System.init] at hsession

/-- The id of a pending request is the one by which it is answered. -/
theorem respond_reached {s : System} (h : Distinct s.session s.sessionEs) {kind : Kind}
    (hsome : (s.get kind).rawRequest.isSome) (user_response : Int) :
    (s.respond (s.get kind).reqID user_response).get kind =
      (s.get kind).receive user_response := by
  unfold System.respond
  cases kind with
  | sessionEs =>
      have hsome : s.sessionEs.rawRequest.isSome := hsome
      simp [System.get, hsome]
  | session =>
      have hsome : s.session.rawRequest.isSome := hsome
      dsimp only
      split
      · next hid => exact absurd hid.1 (h hsome hid.2)
      · split
        · rfl
        · next hno => exact absurd ⟨rfl, hsome⟩ hno

/-- A thread that wakes up takes the payload of its session. -/
theorem critical_takes {s : System} {thread : Nat} {t : Thread} {kind : Kind}
    (hthread : s.threads[thread]? = some t) (hwaits : t.waits kind = true) {timedOut : Bool}
    (hwake : timedOut = true ∨ (s.get kind).respRecvd = true) :
    ((s.critical thread timedOut).get kind).rawRequest = none := by
  obtain ⟨rfl, hphase⟩ : t.pSession = kind ∧ t.phase = .waiting := by
    simpa [Thread.waits] using hwaits
  unfold System.critical
  rw [hthread]
  dsimp only
  rw [if_pos ⟨hphase, hwake⟩]
  change ((s.set t.pSession _).get t.pSession).rawRequest = none
  rw [get_set, Function.update_self]

/-- In every run whose steps meet the guard, a session that holds a payload has
its id, its response and its one thread. -/
theorem slots_kept (inputs : List Input) (h : Meets step slotGuard System.init inputs)
    (kind : Kind) (request : Nat)
    (hraw : ((run step System.init inputs).get kind).rawRequest = some request) :
    Occupied (run step System.init inputs) kind request := by
  obtain ⟨hslots, hdistinct⟩ := run_invariant slots_step slots_init h
  obtain ⟨hrecorded, hcount, -⟩ := hslots kind request hraw
  refine ⟨hrecorded, respond_reached hdistinct (by simp [hraw]), hcount, ?_⟩
  intro thread t hthread hwaits timedOut hwake
  exact critical_takes hthread hwaits hwake

/-- An answered request, an emergency request beside a second one, which is
cancelled, and the slot that the emergency request still holds. -/
theorem slots_kept_cancelled :
    Occupied (run step System.init
      [.request .session true 0 true, .respond 1 2, .critical 0 false, .finish 0,
        .request .session true 0 true, .request .sessionEs true 0 true, .respond 3 1,
        .critical 1 false, .finish 1]) .sessionEs 2 :=
  slots_kept _ (by decide) _ _ (by decide)

/-- The first request is answered, the second one is accepted before the thread
of the first one resets the id of the session. -/
theorem slot_without_id :
    ¬∀ inputs kind request, ((run step System.init inputs).get kind).rawRequest = some request →
      Occupied (run step System.init inputs) kind request := by
  intro hall
  have hoccupied := hall
    [.request .session true 0 true, .respond 1 1, .critical 0 false,
      .request .session true 0 true, .finish 0] .session 1 (by decide)
  obtain ⟨before, after, hlog, -⟩ := hoccupied.recorded
  have hmem : Entry.notified 1 0 ∈
      [.notified 0 1, .responded 1 1, .notified 1 2, .sent 1 0] := by
    change _ = before ++ .notified 1 0 :: after at hlog
    have : Entry.notified 1 0 ∈ before ++ .notified 1 0 :: after := by simp
    rwa [← hlog] at this
  simp at hmem

end G2Common.Ni
