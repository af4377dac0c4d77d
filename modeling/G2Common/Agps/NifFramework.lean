import G2Common.Agps.NifLease

/-!
A plain machine together with the framework that serves it. Requests and
answers travel in order and with any delay. The framework answers a request
with a grant or a denial and a release with a confirmation.
-/

namespace G2Common.Agps.Framework

open Transition AgpsStateMachine

inductive Answer where
  | granted | denied | released
  deriving DecidableEq, Repr

def Answer.toEvent : Answer → AgpsRsrcStatus
  | .granted => .granted
  | .denied => .denied
  | .released => .released

inductive ClientCall where
  | subscribeRsrc (subscriber : Subscriber)
  | unsubscribeRsrc (subscriber : Subscriber)
  deriving DecidableEq, Repr

def ClientCall.toInput : ClientCall → Nif.Input
  | .subscribeRsrc subscriber => .subscribeRsrc subscriber
  | .unsubscribeRsrc subscriber => .unsubscribeRsrc subscriber

/-- `requests` are sent and not answered yet, `answers` are given and not
delivered yet, the oldest first. `connOpen` is what the framework holds: its
last grant has not been followed by a release. -/
structure Link where
  machine : AgpsStateMachine
  requests : List AGpsStatusValue
  answers : List Answer
  connOpen : Bool
  deriving DecidableEq, Repr

/-- `answer grant` is the framework serving the oldest request; `grant` is its
choice where there is one. -/
inductive Input where
  | client (call : ClientCall)
  | answer (grant : Bool)
  | deliver
  deriving DecidableEq, Repr

/-- The machine takes an input and its requests are sent. -/
def Link.take (s : Link) (input : Nif.Input) : Link :=
  let next := (Nif.machine s.machine input).1
  { s with machine := next, requests := s.requests ++ Nif.requestsIn next.effects }

/-- The framework's answer to a request, and what it holds from then on. -/
def serve (grant connOpen : Bool) : AGpsStatusValue → Answer × Bool
  | .requestAgpsDataConn => if grant then (.granted, true) else (.denied, connOpen)
  | .releaseAgpsDataConn => (.released, false)

def step (s : Link) : Input → Link
  | .client call => s.take call.toInput
  | .answer grant =>
      match s.requests with
      | [] => s
      | request :: rest =>
          let (answer, connOpen) := serve grant s.connOpen request
          { s with requests := rest, answers := s.answers ++ [answer], connOpen := connOpen }
  | .deliver =>
      match s.answers with
      | [] => s
      | answer :: rest => { s with answers := rest }.take (.onRsrcEvent answer.toEvent)

def start (type : AGpsExtType) (enforceSingleSubscriber : Bool) : Link :=
  ⟨.new type enforceSingleSubscriber, [], [], false⟩

/-- Nothing is in flight in either direction. -/
def Link.quiet (s : Link) : Prop := s.requests = [] ∧ s.answers = []

/-- No request waits for its answer and no answer to one waits for delivery. -/
def requestSettled (requests : List AGpsStatusValue) (answers : List Answer) : Prop :=
  (∀ request ∈ requests, request = .releaseAgpsDataConn) ∧
    ∀ answer ∈ answers, answer = .released

/-- The steps that ask for the connection, a subscribe in Released and a closed
connection in Releasing with somebody active, are taken only while no earlier
request is under way. -/
def guard (s : Link) : Input → Prop
  | .client (.subscribeRsrc _) =>
      s.machine.mStatePtr = .released → requestSettled s.requests s.answers
  | .client (.unsubscribeRsrc _) => True
  | .answer _ => True
  | .deliver =>
      s.machine.mStatePtr = .releasing → s.machine.hasActiveSubscribers = true →
        s.answers.head? = some .released ∨ s.answers.head? = some .denied →
          requestSettled s.requests s.answers.tail

instance (requests : List AGpsStatusValue) (answers : List Answer) :
    Decidable (requestSettled requests answers) := by
  unfold requestSettled
  infer_instance

instance guard.decidable (s : Link) : ∀ input, Decidable (guard s input)
  | .client (.subscribeRsrc _) =>
      inferInstanceAs
        (Decidable (s.machine.mStatePtr = .released → requestSettled s.requests s.answers))
  | .client (.unsubscribeRsrc _) => isTrue trivial
  | .answer _ => isTrue trivial
  | .deliver =>
      inferInstanceAs (Decidable (s.machine.mStatePtr = .releasing → _ → _ → _))

/-- What is in flight in each state, and what the framework then holds. -/
def Tracks : AgpsState → List AGpsStatusValue → List Answer → Bool → Prop
  | .pending, requests, answers, connOpen =>
      (∃ k, requests = List.replicate k .releaseAgpsDataConn ++ [.requestAgpsDataConn] ∧
        (∀ answer ∈ answers, answer = .released) ∧ (k = 0 → connOpen = false)) ∨
      (requests = [] ∧ ∃ before last, answers = before ++ [last] ∧
        (∀ answer ∈ before, answer = .released) ∧
        (last = .granted ∧ connOpen = true ∨ last = .denied ∧ connOpen = false))
  | .acquired, requests, answers, connOpen =>
      requests = [] ∧ answers = [] ∧ connOpen = true
  | .released, requests, _, connOpen | .releasing, requests, _, connOpen =>
      requests = [] ∧ connOpen = false ∨
        ∃ before, requests = before ++ [.releaseAgpsDataConn]

/-- The calls that do not open the connection: nothing is asked for, or it is
given back from Pending or Acquired, or Releasing ends. -/
def Asks (state next : AgpsState) (requests : List AGpsStatusValue) : Prop :=
  (next = state ∧ requests = []) ∨
    ((state = .pending ∨ state = .acquired) ∧ (next = .released ∨ next = .releasing) ∧
      requests = [.releaseAgpsDataConn]) ∨
    (state = .releasing ∧ next = .released ∧ requests = [])

theorem asks_afterClose {state : AgpsState} (hstate : state ≠ .released)
    (l : List Subscriber) :
    Asks state (Nif.afterClose state l).1 (Nif.afterClose state l).2 := by
  cases state with
  | released => exact absurd rfl hstate
  | pending | acquired | releasing =>
      cases h : l.isEmpty <;> cases h' : l.all (·.isInactive) <;>
        simp [Nif.afterClose, h, h', Asks]

theorem asks_of_call {enforce : Bool} {state next : AgpsState} {l l' : List Subscriber}
    {call : ClientCall} {told : List (UInt32 × AgpsRsrcStatus)}
    {requests : List AGpsStatusValue} (h : Nif.Consistent state l)
    (hmoves : Nif.Moves enforce state l call.toInput next l' told requests) :
    Asks state next requests ∨
      ((∃ s, call = .subscribeRsrc s) ∧ state = .released ∧ next = .pending ∧
        requests = [.requestAgpsDataConn]) := by
  cases call with
  | subscribeRsrc s =>
      generalize hinput : (ClientCall.subscribeRsrc s).toInput = input at hmoves
      cases hmoves with
      | opened => exact .inr ⟨⟨s, rfl⟩, rfl, rfl, rfl⟩
      | refused | joined | joinedGranted => exact .inl (.inl ⟨rfl, rfl⟩)
      | _ => cases hinput
  | unsubscribeRsrc s =>
      generalize hinput : (ClientCall.unsubscribeRsrc s).toInput = input at hmoves
      cases hmoves with
      | unknown => exact .inl (.inl ⟨rfl, rfl⟩)
      | left hx => exact .inl (asks_afterClose (h.ne_released hx) _)
      | deactivated hx =>
          exact .inl (asks_afterClose (h.ne_released (List.mem_of_getElem? hx)) _)
      | _ => cases hinput

/-- What an answer does in each state; `l` is the list when it arrives. -/
def Heeds (l : List Subscriber) (next : AgpsState) (requests : List AGpsStatusValue) :
    AgpsState → Answer → Prop
  | .pending, .granted => next = .acquired ∧ requests = []
  | .pending, .denied | .acquired, .released => next = .released ∧ requests = []
  | .releasing, .released | .releasing, .denied =>
      (next = .released ∧ requests = []) ∨
        ((∃ s ∈ l, s.isInactive = false) ∧ next = .pending ∧
          requests = [.requestAgpsDataConn])
  | state, _ => next = state ∧ requests = []

theorem heeds_of_event {enforce : Bool} {state next : AgpsState} {l l' : List Subscriber}
    {answer : Answer} {told : List (UInt32 × AgpsRsrcStatus)}
    {requests : List AGpsStatusValue}
    (hmoves : Nif.Moves enforce state l (.onRsrcEvent answer.toEvent) next l' told requests) :
    Heeds l next requests state answer := by
  generalize hevent : answer.toEvent = event at hmoves
  cases hmoves with
  | granted => cases answer <;> simp_all [Answer.toEvent, Heeds]
  | lost hlost =>
      rcases hlost with ⟨rfl, rfl⟩ | ⟨rfl, rfl⟩ <;> cases answer <;>
        simp_all [Answer.toEvent, Heeds]
  | closed hclosed =>
      rcases hclosed with rfl | rfl <;> cases answer <;> simp_all [Answer.toEvent, Heeds]
  | reopened hclosed hl =>
      rcases hclosed with rfl | rfl <;> cases answer <;> simp_all [Answer.toEvent, Heeds]
  | ignored hignored =>
      subst hevent
      cases state <;> cases answer <;> simp_all [Answer.toEvent, Nif.heeds, Heeds]

section Invariant

variable {state next : AgpsState} {requests sent : List AGpsStatusValue}
  {answers : List Answer} {connOpen : Bool}

theorem tracks_asks (h : Tracks state requests answers connOpen)
    (hasks : Asks state next sent) : Tracks next (requests ++ sent) answers connOpen := by
  rcases hasks with ⟨rfl, rfl⟩ | ⟨-, rfl | rfl, rfl⟩ | ⟨rfl, rfl, rfl⟩
  · simpa using h
  · exact .inr ⟨requests, rfl⟩
  · exact .inr ⟨requests, rfl⟩
  · rw [List.append_nil]
    exact h

/-- Opening the connection while nothing but releases is under way. -/
theorem tracks_opened (hstate : state = .released ∨ state = .releasing)
    (h : Tracks state requests answers connOpen) (hsettled : requestSettled requests answers) :
    Tracks .pending (requests ++ [.requestAgpsDataConn]) answers connOpen := by
  obtain ⟨hrequests, hanswers⟩ := hsettled
  refine .inl ⟨requests.length, ?_, hanswers, ?_⟩
  · rw [← List.eq_replicate_of_mem hrequests]
  · intro hlength
    obtain rfl := List.length_eq_zero_iff.mp hlength
    have hclosed : connOpen = false ∨ ∃ before : List AGpsStatusValue,
        [] = before ++ [.releaseAgpsDataConn] := by
      rcases hstate with rfl | rfl <;> simpa [Tracks] using h
    simpa using hclosed

theorem tracks_serve {request : AGpsStatusValue} (grant : Bool)
    (h : Tracks state (request :: requests) answers connOpen) :
    Tracks state requests (answers ++ [(serve grant connOpen request).1])
      (serve grant connOpen request).2 := by
  cases state with
  | pending =>
      rcases h with ⟨k, hrequests, hanswers, hconn⟩ | ⟨hnil, -⟩
      · cases k with
        | zero =>
            obtain ⟨rfl, rfl⟩ := List.cons_eq_cons.mp hrequests
            refine .inr ⟨rfl, answers, _, rfl, hanswers, ?_⟩
            cases grant with
            | true => exact .inl ⟨rfl, rfl⟩
            | false => exact .inr ⟨rfl, hconn rfl⟩
        | succ k =>
            rw [List.replicate_succ, List.cons_append] at hrequests
            obtain ⟨rfl, rfl⟩ := List.cons_eq_cons.mp hrequests
            refine .inl ⟨k, rfl, ?_, fun _ => rfl⟩
            intro answer hanswer
            rcases List.mem_append.mp hanswer with hanswer | hanswer
            · exact hanswers answer hanswer
            · exact List.mem_singleton.mp hanswer
      · cases hnil
  | acquired => cases h.1
  | released | releasing =>
      rcases h with ⟨hnil, -⟩ | ⟨before, hrequests⟩
      · cases hnil
      · cases before with
        | nil =>
            obtain ⟨rfl, rfl⟩ := List.cons_eq_cons.mp hrequests
            exact .inl ⟨rfl, rfl⟩
        | cons _ before =>
            obtain ⟨-, rfl⟩ := List.cons_eq_cons.mp hrequests
            exact .inr ⟨before, rfl⟩

theorem tracks_deliver {l : List Subscriber} {answer : Answer}
    (h : Tracks state requests (answer :: answers) connOpen)
    (hheeds : Heeds l next sent state answer)
    (hguard : state = .releasing → (∃ s ∈ l, s.isInactive = false) →
      answer = .released ∨ answer = .denied → requestSettled requests answers) :
    Tracks next (requests ++ sent) answers connOpen := by
  cases state with
  | pending =>
      rcases h with ⟨k, hrequests, hanswers, hconn⟩ | ⟨rfl, before, last, hanswers, hbefore, hlast⟩
      · obtain rfl := hanswers answer List.mem_cons_self
        obtain ⟨rfl, rfl⟩ := hheeds
        rw [List.append_nil]
        exact .inl ⟨k, hrequests, fun a ha => hanswers a (List.mem_cons_of_mem _ ha), hconn⟩
      · cases before with
        | nil =>
            obtain ⟨rfl, rfl⟩ := List.cons_eq_cons.mp hanswers
            obtain ⟨rfl, rfl⟩ | ⟨rfl, rfl⟩ := hlast <;> obtain ⟨rfl, rfl⟩ := hheeds
            · exact ⟨rfl, rfl, rfl⟩
            · exact .inl ⟨rfl, rfl⟩
        | cons first before =>
            obtain ⟨rfl, rfl⟩ := List.cons_eq_cons.mp hanswers
            obtain rfl := hbefore answer List.mem_cons_self
            obtain ⟨rfl, rfl⟩ := hheeds
            exact .inr ⟨rfl, before, last, rfl,
              fun a ha => hbefore a (List.mem_cons_of_mem _ ha), hlast⟩
  | acquired => cases h.2.1
  | released =>
      obtain ⟨rfl, rfl⟩ : next = .released ∧ sent = [] := by cases answer <;> exact hheeds
      rw [List.append_nil]
      exact h
  | releasing =>
      have hasks : (next = .releasing ∨ next = .released) ∧ sent = [] ∨
          ((∃ s ∈ l, s.isInactive = false) ∧ (answer = .released ∨ answer = .denied)) ∧
            next = .pending ∧ sent = [.requestAgpsDataConn] := by
        cases answer <;> simp_all [Heeds] <;> tauto
      rcases hasks with ⟨rfl | rfl, rfl⟩ | ⟨⟨hl, hanswer⟩, rfl, rfl⟩
      · rw [List.append_nil]
        exact h
      · rw [List.append_nil]
        exact h
      · exact tracks_opened (.inr rfl) h (hguard rfl hl hanswer)

end Invariant

/-- The invariant of the runs that meet the guard. -/
structure Tracked (s : Link) : Prop where
  consistent : Nif.Consistent s.machine.mStatePtr s.machine.mSubscribers
  tracks : Tracks s.machine.mStatePtr s.requests s.answers s.connOpen

theorem tracked_step (s : Link) (input : Input) (h : Tracked s) (hguard : guard s input) :
    Tracked (step s input) := by
  obtain ⟨hconsistent, htracks⟩ := h
  have htake (i : Nif.Input) := (Nif.steps_machine hconsistent i).1
  cases input with
  | client call =>
      refine ⟨Nif.consistent_of_moves hconsistent (htake call.toInput), ?_⟩
      obtain hasks | ⟨⟨subscriber, rfl⟩, hstate, hnext, hsent⟩ :=
        asks_of_call hconsistent (htake call.toInput)
      · exact tracks_asks htracks hasks
      · have hopened := tracks_opened (.inl hstate) htracks (hguard hstate)
        simp only [step, Link.take, hsent]
        rwa [hnext]
  | answer grant =>
      obtain ⟨machine, requests, answers, connOpen⟩ := s
      cases requests with
      | nil => exact ⟨hconsistent, htracks⟩
      | cons request rest => exact ⟨hconsistent, tracks_serve grant htracks⟩
  | deliver =>
      obtain ⟨machine, requests, answers, connOpen⟩ := s
      cases answers with
      | nil => exact ⟨hconsistent, htracks⟩
      | cons answer rest =>
          have hmoves := htake (.onRsrcEvent answer.toEvent)
          refine ⟨Nif.consistent_of_moves hconsistent hmoves, ?_⟩
          apply tracks_deliver htracks (heeds_of_event hmoves)
          intro hstate hactive hanswer
          refine hguard hstate ?_ (by simpa using hanswer)
          simpa [hasActiveSubscribers_eq] using hactive

/-- In every run that asks for the connection only while no earlier request is
under way, the framework and the machine agree whenever nothing is in flight. -/
theorem connection_follows_state (type : AGpsExtType) (enforce : Bool) (inputs : List Input)
    (h : Meets step guard (start type enforce) inputs) :
    let s := run step (start type enforce) inputs
    s.quiet → (s.connOpen = true ↔ s.machine.mStatePtr = .acquired) := by
  intro s hquiet
  have hstart : Tracked (start type enforce) := ⟨rfl, .inl ⟨rfl, rfl⟩⟩
  have hrun : Tracked s := run_invariant tracked_step hstart h
  have htracks := hrun.tracks
  rw [hquiet.1, hquiet.2] at htracks
  cases hstate : s.machine.mStatePtr with
  | pending => simp [hstate, Tracks] at htracks
  | acquired => simpa [hstate, Tracks] using htracks
  | released | releasing => simpa [hstate, Tracks] using htracks

/-- One client comes, is granted and leaves, all answers arriving late. -/
theorem connection_follows_state_one_client :
    let s := run step (start .supl false)
      [.client (.subscribeRsrc (ATLSubscriber 1 false (Vector.replicate 16 0))),
        .answer true, .client (.unsubscribeRsrc (ATLSubscriber 1 false (Vector.replicate 16 0))),
        .deliver, .answer true, .deliver]
    s.quiet → (s.connOpen = true ↔ s.machine.mStatePtr = .acquired) :=
  connection_follows_state .supl false _ (by decide)

/-- Client 1 asks and leaves, client 2 asks before the first answer arrives. The
answers to client 1 are taken for those to client 2, and the grant for client 2
is ignored in Released. -/
theorem connection_left_open :
    let s := run step (start .supl false)
      [.client (.subscribeRsrc (ATLSubscriber 1 false (Vector.replicate 16 0))),
        .client (.unsubscribeRsrc (ATLSubscriber 1 false (Vector.replicate 16 0))),
        .client (.subscribeRsrc (ATLSubscriber 2 false (Vector.replicate 16 0))),
        .answer true, .answer true, .answer true, .deliver, .deliver, .deliver]
    s.quiet ∧ s.connOpen = true ∧ s.machine.mStatePtr = .released := by
  refine ⟨⟨?_, ?_⟩, ?_, ?_⟩ <;> decide

end G2Common.Agps.Framework
