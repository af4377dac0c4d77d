import G2Common.Utils.MsgQ

/-!
The task of `MsgTask.cpp`. Any thread sends it messages, and the thread of
`loopMain` takes them from the queue, processes them and deletes them. Each
critical section of the queue is one step, and so is each call that the loop
makes outside of it.
-/

namespace G2Common.Core

open DoublyLinked Transition Utils

/-- The deallocation function that the queue gets with each message. -/
inductive Dealloc where
  | LocMsgDestroy
  deriving DecidableEq, Repr

/-- Where the thread of `loopMain` is. It has a message from the return of
`msg_q_rcv` until it deletes it. -/
inductive LoopMain (M : Type*) where
  | starting
  | listening
  | waiting
  | received (msg : M)
  | processed (msg : M)
  | failed
  | ended
  deriving DecidableEq, Repr

/-- The message between the return of `msg_q_rcv` and `proc`. -/
def LoopMain.pending {M : Type*} : LoopMain M → List M
  | .received msg => [msg]
  | _ => []

/-- The message between the return of `msg_q_rcv` and `delete`. -/
def LoopMain.held {M : Type*} : LoopMain M → List M
  | .received msg => [msg]
  | .processed msg => [msg]
  | _ => []

/-- The task and the copy of it that `loopMain` works on. `mQ` is empty once the
queue is destroyed. -/
structure MsgTask (A T M : Type*) where
  mQ : Option (MsgQ A M Dealloc)
  mAssociator : Option T
  loopMain : LoopMain M
  destructed : Bool

/-- What the task does to a message or with its associator. -/
inductive Event (T M : Type*) where
  | associated (associator : T)
  | passed (msg : M)
  | enqueued (msg : M)
  | processed (msg : M)
  | deleted (msg : M)
  deriving DecidableEq, Repr

def Event.passed? {T M : Type*} : Event T M → Option M
  | .passed msg => some msg
  | _ => none

def Event.enqueued? {T M : Type*} : Event T M → Option M
  | .enqueued msg => some msg
  | _ => none

def Event.processed? {T M : Type*} : Event T M → Option M
  | .processed msg => some msg
  | _ => none

def Event.deleted? {T M : Type*} : Event T M → Option M
  | .deleted msg => some msg
  | _ => none

namespace MsgTask

variable {A T M : Type}

/-- `sendMsg` is called by any thread, and `loopMain` is the next step of its
thread. -/
inductive Input (A M : Type*) where
  | sendMsg (msg : Option M) (malloc : Option A)
  | loopMain
  | destruct
  deriving DecidableEq, Repr

/-- The constructor, with the queue of `msg_q_init2`. -/
def init [DecidableEq A] (mAssociator : Option T) : MsgTask A T M :=
  ⟨some .init, mAssociator, .starting, false⟩

section Calls

variable [DecidableEq A]

/-- What `sendMsg` does with its message. The result of `msg_q_snd` is not looked at. -/
def sent : Option M → MsgQErr → List (Event T M)
  | none, _ => []
  | some msg, .success => [.passed msg, .enqueued msg]
  | some msg, _ => [.passed msg]

/-- `MsgTask::sendMsg`. No message is sent to a queue that is destroyed. -/
def sendMsg (s : MsgTask A T M) (msg : Option M) (malloc : Option A) :
    Option (MsgTask A T M × List (Event T M)) :=
  match s.mQ with
  | none => some (s, [])
  | some mQ => do
      let result ← mQ.snd .valid msg (some .LocMsgDestroy) malloc
      return ({ s with mQ := some result.1 }, sent msg result.2.result)

/-- `MsgTask::~MsgTask`. -/
def destruct (s : MsgTask A T M) : MsgTask A T M :=
  if s.destructed then s
  else { s with mQ := s.mQ.map fun mQ => (mQ.unblock .valid).1, destructed := true }

/-- `loopMain` after its call of `msg_q_rcv`, which waits or has returned. -/
def returned (s : MsgTask A T M) (mQ : MsgQ A M Dealloc) :
    Option (Reply M Dealloc) → Option (MsgTask A T M)
  | none => some { s with mQ := some mQ, loopMain := .waiting }
  | some ⟨.success, some msg, _⟩ => some { s with mQ := some mQ, loopMain := .received msg }
  | some ⟨.success, none, _⟩ => none
  | some _ => some { s with mQ := some mQ, loopMain := .failed }

/-- The next step of `MsgTask::loopMain`, whose thread is the only one that receives. -/
def loopStep (s : MsgTask A T M) : Option (MsgTask A T M × List (Event T M)) :=
  match s.loopMain with
  | .starting =>
      some ({ s with loopMain := .listening }, s.mAssociator.toList.map .associated)
  | .listening => do
      let mQ ← s.mQ
      let result ← mQ.rcv 0 .valid .valid
      let s ← s.returned result.1 result.2
      return (s, [])
  | .waiting => do
      let mQ ← s.mQ
      let result ← mQ.wake 0
      let s ← s.returned result.1 result.2
      return (s, [])
  | .received msg => some ({ s with loopMain := .processed msg }, [.processed msg])
  | .processed msg => some ({ s with loopMain := .listening }, [.deleted msg])
  | .failed => do
      let mQ ← s.mQ
      let calls ← mQ.destroy
      -- `delete copy` unblocks a queue that is `NULL` now
      return ({ s with mQ := none, loopMain := .ended }, calls.map fun call => .deleted call.2)
  | .ended => some (s, [])

def machine (s : MsgTask A T M) : Input A M → Option (MsgTask A T M × List (Event T M))
  | .sendMsg msg malloc => s.sendMsg msg malloc
  | .loopMain => s.loopStep
  | .destruct => some (s.destruct, [])

/-- A new task after these steps. -/
def after (mAssociator : Option T) (inputs : List (Input A M)) :
    Traced (Option (MsgTask A T M)) (List (Event T M)) :=
  run (Traced.attempt machine) ⟨some (init mAssociator), []⟩ inputs

end Calls

/-- Every message of the queue has its deallocation function. -/
theorem dealloc_data {nodes : Nodes A (Element M Dealloc)}
    (h : ∀ node ∈ nodes, node.2.dealloc_func = some .LocMsgDestroy) :
    (nodes.flatMap fun node => node.2.dealloc).map Prod.snd =
      nodes.map fun node => node.2.data_ptr := by
  induction nodes with
  | nil => rfl
  | cons node nodes ih =>
      have hnode : node.2.dealloc = [(.LocMsgDestroy, node.2.data_ptr)] := by
        simp [Element.dealloc, h node List.mem_cons_self]
      have hrest := ih fun other hother => h other (List.mem_cons_of_mem _ hother)
      rw [List.flatMap_cons, List.map_append, hnode, hrest]
      rfl

section Queue

variable [DecidableEq A] {mQ : MsgQ A M Dealloc} {nodes : Nodes A (Element M Dealloc)}

/-- The loop waits in `msg_q_rcv`, or has the oldest message, or is told that
there will be none. -/
inductive Received (nodes : Nodes A (Element M Dealloc)) :
    MsgQ A M Dealloc → Option (Reply M Dealloc) → Prop
  | waits {mQ : MsgQ A M Dealloc} (h : mQ.msg_list.Represents nodes) : Received nodes mQ none
  | takes {mQ : MsgQ A M Dealloc} (front : Nodes A (Element M Dealloc))
      (node : A × Element M Dealloc) (hnodes : nodes = front ++ [node])
      (h : mQ.msg_list.Represents front) :
      Received nodes mQ (some ⟨.success, some node.2.data_ptr, []⟩)
  | fails {mQ : MsgQ A M Dealloc} (result : MsgQErr) (h : mQ.msg_list.Represents nodes)
      (hresult : result ≠ .success) : Received nodes mQ (some (.error result))

theorem receive_received (h : mQ.msg_list.Represents nodes) :
    ∃ mQ' reply, mQ.receive 0 = some (mQ', reply) ∧ Received nodes mQ' reply := by
  rcases MsgQ.receive_cases h 0 with
    ⟨-, -, hwait⟩ | ⟨front, node, msg_list, hnodes, hrep, htake⟩ | ⟨-, -, hfail⟩
  · exact ⟨_, _, hwait, .waits h⟩
  · exact ⟨_, _, htake, .takes _ _ hnodes hrep⟩
  · exact ⟨_, _, hfail, .fails _ h (by simp)⟩

theorem rcv_received (h : mQ.msg_list.Represents nodes) :
    ∃ mQ' reply, mQ.rcv 0 .valid .valid = some (mQ', reply) ∧ Received nodes mQ' reply := by
  cases hunblocked : mQ.unblocked with
  | true =>
      exact ⟨mQ, _, by simp [MsgQ.rcv, hunblocked], .fails .unavailableResource h (by simp)⟩
  | false =>
      obtain ⟨mQ', reply, hreceive, hreceived⟩ := receive_received h
      exact ⟨mQ', reply, by simp [MsgQ.rcv, hunblocked, hreceive], hreceived⟩

theorem wake_received (h : mQ.msg_list.Represents nodes) :
    ∃ mQ' reply, mQ.wake 0 = some (mQ', reply) ∧ Received nodes mQ' reply := by
  unfold MsgQ.wake
  split
  · apply receive_received
    exact h
  · exact ⟨mQ, none, rfl, .waits h⟩

end Queue

section Run

variable [DecidableEq A]

/-- The messages that the queue has, newest first. A queue that is destroyed has none. -/
def Holds (mQ : Option (MsgQ A M Dealloc)) (nodes : Nodes A (Element M Dealloc)) : Prop :=
  match mQ with
  | none => nodes = []
  | some mQ => mQ.msg_list.Represents nodes ∧
      ∀ node ∈ nodes, node.2.dealloc_func = some .LocMsgDestroy

/-- What was enqueued is gone or in the queue. What is gone is deleted or with the
loop, and was processed unless the queue was destroyed. -/
structure Inv (s : MsgTask A T M) (log : List (Event T M)) (nodes : Nodes A (Element M Dealloc))
    (gone : List M) : Prop where
  holds : Holds s.mQ nodes
  live : s.mQ = none ↔ s.loopMain = .ended
  order : log.filterMap Event.enqueued? = gone ++ (nodes.map fun node => node.2.data_ptr).reverse
  processed : log.filterMap Event.processed? ++ s.loopMain.pending <+: gone
  live_processed : s.mQ ≠ none → log.filterMap Event.processed? ++ s.loopMain.pending = gone
  deleted : (log.filterMap Event.deleted? ++ s.loopMain.held).Perm gone

/-- The step does not send to a queue that refuses the message. -/
def Accepted (s : MsgTask A T M) : Input A M → Prop
  | .sendMsg (some _) malloc =>
      ∀ mQ, s.mQ = some mQ →
        mQ.unblocked = false ∧ (mQ.msg_list.heap.malloc malloc).isSome
  | _ => True

/-- What is passed in a step is enqueued unless the queue refuses it. -/
structure Balanced (accepted : Prop) (events : List (Event T M)) : Prop where
  sublist : (events.filterMap Event.enqueued?).Sublist (events.filterMap Event.passed?)
  length : (events.filterMap Event.enqueued?).length =
    (events.filterMap Event.passed?).length ↔ accepted

theorem balanced_of_none {accepted : Prop} {events : List (Event T M)}
    (henqueued : events.filterMap Event.enqueued? = [])
    (hpassed : events.filterMap Event.passed? = []) (h : accepted) : Balanced accepted events := by
  constructor <;> simp [henqueued, hpassed, h]

variable {s : MsgTask A T M} {log : List (Event T M)} {nodes : Nodes A (Element M Dealloc)}
  {gone : List M}

/-- A step that leaves the messages where they are. -/
theorem Inv.idle (h : Inv s log nodes gone) {s' : MsgTask A T M} {events : List (Event T M)}
    (hmQ : Holds s'.mQ nodes) (hlive : s'.mQ = none ↔ s.mQ = none)
    (hended : s'.loopMain = .ended ↔ s.loopMain = .ended)
    (hpending : s'.loopMain.pending = s.loopMain.pending)
    (hheld : s'.loopMain.held = s.loopMain.held)
    (henqueued : events.filterMap Event.enqueued? = [])
    (hprocessed : events.filterMap Event.processed? = [])
    (hdeleted : events.filterMap Event.deleted? = []) : Inv s' (log ++ events) nodes gone where
  holds := hmQ
  live := by rw [hlive, hended, h.live]
  order := by simpa [henqueued] using h.order
  processed := by simpa [hprocessed, hpending] using h.processed
  live_processed := by simpa [hprocessed, hpending, hlive] using h.live_processed
  deleted := by simpa [hdeleted, hheld] using h.deleted

theorem sendMsg_inv (h : Inv s log nodes gone) (msg : Option M) (malloc : Option A) :
    ∃ s' events nodes', s.sendMsg msg malloc = some (s', events) ∧
      Inv s' (log ++ events) nodes' gone ∧ Balanced (s.Accepted (.sendMsg msg malloc)) events := by
  have hholds := h.holds
  cases hmQ : s.mQ with
  | none =>
      refine ⟨s, [], nodes, by simp [sendMsg, hmQ], by simpa using h, ?_⟩
      apply balanced_of_none rfl rfl
      cases msg <;> simp [Accepted, hmQ]
  | some mQ =>
      rw [hmQ] at hholds
      obtain ⟨hrep, hdealloc⟩ := hholds
      cases msg with
      | none =>
          refine ⟨{ s with mQ := some mQ }, [], nodes, by simp [sendMsg, hmQ, MsgQ.snd, sent], ?_,
            balanced_of_none rfl rfl trivial⟩
          exact h.idle ⟨hrep, hdealloc⟩ (by simp [hmQ]) Iff.rfl rfl rfl rfl rfl rfl
      | some msg =>
          rcases MsgQ.snd_cases hrep msg (some .LocMsgDestroy) malloc with
            ⟨mQ', elem, hunblocked, hmalloc, hsnd, hrep'⟩ | ⟨hrefused, result, hresult, hsnd⟩
          · refine ⟨{ s with mQ := some mQ' }, [.passed msg, .enqueued msg],
              (elem, ⟨msg, some .LocMsgDestroy⟩) :: nodes, ?_, ?_, ?_⟩
            · simp [sendMsg, hmQ, hsnd, sent]
            · constructor
              · exact ⟨hrep', by simpa using hdealloc⟩
              · simpa [hmQ] using h.live
              · simp [h.order, List.filterMap_cons, Event.enqueued?]
              · simpa [List.filterMap_cons, Event.processed?] using h.processed
              · simpa [List.filterMap_cons, Event.processed?, hmQ] using h.live_processed
              · simpa [List.filterMap_cons, Event.deleted?] using h.deleted
            · constructor
              · simp [List.filterMap_cons, Event.enqueued?, Event.passed?]
              · simp [List.filterMap_cons, Event.enqueued?, Event.passed?, Accepted, hmQ,
                  hunblocked, hmalloc]
          · refine ⟨{ s with mQ := some mQ }, [.passed msg], nodes, ?_, ?_, ?_⟩
            · cases result <;> simp_all [sendMsg, sent, Reply.error]
            · exact h.idle ⟨hrep, hdealloc⟩ (by simp [hmQ]) Iff.rfl rfl rfl rfl rfl rfl
            · constructor
              · simp [List.filterMap_cons, Event.enqueued?, Event.passed?]
              · simpa [List.filterMap_cons, Event.enqueued?, Event.passed?, Accepted, hmQ]
                  using hrefused

theorem destruct_inv (h : Inv s log nodes gone) : Inv s.destruct log nodes gone := by
  unfold destruct
  split
  · exact h
  · have hholds := h.holds
    rw [← List.append_nil log]
    refine h.idle ?_ (by simp) Iff.rfl rfl rfl rfl rfl rfl
    cases hmQ : s.mQ with
    | none =>
        rw [hmQ] at hholds
        exact hholds
    | some mQ =>
        rw [hmQ] at hholds
        have hlist : (mQ.unblock .valid).1.msg_list = mQ.msg_list := by
          cases hunblocked : mQ.unblocked <;> simp [MsgQ.unblock, hunblocked]
        simpa [Holds, hlist] using hholds

/-- The return of `msg_q_rcv` takes the oldest message from the queue to the loop. -/
theorem Inv.returned_inv (h : Inv s log nodes gone) {mQ mQ' : MsgQ A M Dealloc}
    {reply : Option (Reply M Dealloc)} (hmQ : s.mQ = some mQ) (hpending : s.loopMain.pending = [])
    (hheld : s.loopMain.held = []) (hreceived : Received nodes mQ' reply) :
    ∃ s' nodes' gone', s.returned mQ' reply = some s' ∧ Inv s' log nodes' gone' := by
  have hholds := h.holds
  rw [hmQ] at hholds
  obtain ⟨-, hdealloc⟩ := hholds
  have hlive : s.loopMain ≠ .ended := by simp [← h.live, hmQ]
  cases hreceived with
  | waits hrep =>
      refine ⟨_, nodes, gone, rfl, ?_⟩
      rw [← List.append_nil log]
      exact h.idle ⟨hrep, hdealloc⟩ (by simp [hmQ]) (by simpa using hlive) hpending.symm
        hheld.symm rfl rfl rfl
  | fails result hrep hresult =>
      refine ⟨{ s with mQ := some mQ', loopMain := .failed }, nodes, gone, ?_, ?_⟩
      · cases result with
        | success => exact absurd rfl hresult
        | _ => rfl
      · rw [← List.append_nil log]
        exact h.idle ⟨hrep, hdealloc⟩ (by simp [hmQ]) (by simpa using hlive) hpending.symm
          hheld.symm rfl rfl rfl
  | takes front node hnodes hrep =>
      have hgone := h.live_processed (by simp [hmQ])
      have hdeleted := h.deleted
      rw [hpending, List.append_nil] at hgone
      rw [hheld, List.append_nil] at hdeleted
      subst hnodes
      refine ⟨_, front, gone ++ [node.2.data_ptr], rfl, ?_⟩
      constructor
      · exact ⟨hrep, fun other hother => hdealloc other (by simp [hother])⟩
      · simp
      · simp [h.order]
      · simp [LoopMain.pending, hgone]
      · simp [LoopMain.pending, hgone]
      · exact hdeleted.append_right _

/-- `msg_q_destroy` deletes what is in the queue. -/
theorem Inv.destroy_inv (h : Inv s log nodes gone) (hfailed : s.loopMain = .failed) :
    ∃ s' events gone', s.loopStep = some (s', events) ∧ Inv s' (log ++ events) [] gone' ∧
      events.filterMap Event.enqueued? = [] ∧ events.filterMap Event.passed? = [] := by
  have hholds := h.holds
  cases hmQ : s.mQ with
  | none =>
      have := h.live.mp hmQ
      simp [hfailed] at this
  | some mQ =>
      rw [hmQ] at hholds
      obtain ⟨hrep, hdealloc⟩ := hholds
      have hcalls := dealloc_data hdealloc
      have hdeleted := h.deleted
      simp only [hfailed, LoopMain.held, List.append_nil] at hdeleted
      have hlive := h.live_processed (by simp [hmQ])
      simp only [hfailed, LoopMain.pending, List.append_nil] at hlive
      refine ⟨{ s with mQ := none, loopMain := .ended },
        (nodes.map fun node => node.2.data_ptr).map .deleted,
        gone ++ (nodes.map fun node => node.2.data_ptr).reverse, ?_, ?_, ?_, ?_⟩
      · simp [loopStep, hfailed, hmQ, MsgQ.destroy_eq hrep, ← hcalls]
      · constructor
        · rfl
        · simp
        · simp [h.order, List.filterMap_map, Function.comp_def, Event.enqueued?]
        · simp [List.filterMap_map, Function.comp_def, Event.processed?, LoopMain.pending, hlive]
        · simp
        · have hevents : ((nodes.map fun node => node.2.data_ptr).map
              (Event.deleted (T := T))).filterMap Event.deleted? =
                nodes.map fun node => node.2.data_ptr := by
            simp [List.filterMap_map, Function.comp_def, Event.deleted?]
          change (_ ++ []).Perm _
          rw [List.filterMap_append, hevents, List.append_nil]
          exact hdeleted.append (List.reverse_perm _).symm
      · simp [List.filterMap_map, Function.comp_def, Event.enqueued?]
      · simp [List.filterMap_map, Function.comp_def, Event.passed?]

/-- The loop goes on with the message that it has, and leaves the queue alone. -/
theorem Inv.handled_inv (h : Inv s log nodes gone) {next : LoopMain M} {event : Event T M}
    (hbefore : s.loopMain ≠ .ended) (hafter : next ≠ .ended) (henqueued : event.enqueued? = none)
    (hpending : s.loopMain.pending = event.processed?.toList ++ next.pending)
    (hheld : s.loopMain.held = event.deleted?.toList ++ next.held) :
    Inv { s with loopMain := next } (log ++ [event]) nodes gone := by
  have hone (f : Event T M → Option M) :
      (log ++ [event]).filterMap f = log.filterMap f ++ (f event).toList := by
    rw [List.filterMap_append]
    cases hevent : f event <;> simp [hevent]
  have hprocessed : (log ++ [event]).filterMap Event.processed? ++ next.pending =
      log.filterMap Event.processed? ++ s.loopMain.pending := by
    rw [hone, List.append_assoc, hpending]
  have hdeleted : (log ++ [event]).filterMap Event.deleted? ++ next.held =
      log.filterMap Event.deleted? ++ s.loopMain.held := by
    rw [hone, List.append_assoc, hheld]
  constructor
  · exact h.holds
  · exact iff_of_false (fun hnone => hbefore (h.live.mp hnone)) hafter
  · rw [hone, henqueued, Option.toList_none, List.append_nil]
    exact h.order
  · rw [hprocessed]
    exact h.processed
  · rw [hprocessed]
    exact h.live_processed
  · rw [hdeleted]
    exact h.deleted

theorem loopStep_inv (h : Inv s log nodes gone) :
    ∃ s' events nodes' gone', s.loopStep = some (s', events) ∧
      Inv s' (log ++ events) nodes' gone' ∧ events.filterMap Event.enqueued? = [] ∧
      events.filterMap Event.passed? = [] := by
  have hholds := h.holds
  have hlive := h.live
  cases hloop : s.loopMain with
  | starting =>
      refine ⟨{ s with loopMain := .listening }, s.mAssociator.toList.map .associated, nodes, gone,
        by simp [loopStep, hloop], ?_, ?_, ?_⟩
      · refine h.idle hholds (by simp) (by simp [hloop]) (by simp [hloop, LoopMain.pending])
          (by simp [hloop, LoopMain.held]) ?_ ?_ ?_ <;>
          simp [List.filterMap_map, Function.comp_def, Event.enqueued?, Event.processed?,
            Event.deleted?]
      · simp [List.filterMap_map, Function.comp_def, Event.enqueued?]
      · simp [List.filterMap_map, Function.comp_def, Event.passed?]
  | listening =>
      cases hmQ : s.mQ with
      | none => simp [hloop, hmQ] at hlive
      | some mQ =>
          rw [hmQ] at hholds
          obtain ⟨mQ', reply, hrcv, hreceived⟩ := rcv_received hholds.1
          obtain ⟨s', nodes', gone', hs', hinv⟩ :=
            h.returned_inv hmQ (by simp [hloop, LoopMain.pending]) (by simp [hloop, LoopMain.held])
              hreceived
          exact ⟨s', [], nodes', gone', by simp [loopStep, hloop, hmQ, hrcv, hs'],
            by simpa using hinv, rfl, rfl⟩
  | waiting =>
      cases hmQ : s.mQ with
      | none => simp [hloop, hmQ] at hlive
      | some mQ =>
          rw [hmQ] at hholds
          obtain ⟨mQ', reply, hwake, hreceived⟩ := wake_received hholds.1
          obtain ⟨s', nodes', gone', hs', hinv⟩ :=
            h.returned_inv hmQ (by simp [hloop, LoopMain.pending]) (by simp [hloop, LoopMain.held])
              hreceived
          exact ⟨s', [], nodes', gone', by simp [loopStep, hloop, hmQ, hwake, hs'],
            by simpa using hinv, rfl, rfl⟩
  | received msg =>
      refine ⟨{ s with loopMain := .processed msg }, [.processed msg], nodes, gone,
        by simp [loopStep, hloop], h.handled_inv (by simp [hloop]) (by simp) rfl ?_ ?_, rfl, rfl⟩
      · rw [hloop]
        rfl
      · rw [hloop]
        rfl
  | processed msg =>
      refine ⟨{ s with loopMain := .listening }, [.deleted msg], nodes, gone,
        by simp [loopStep, hloop], h.handled_inv (by simp [hloop]) (by simp) rfl ?_ ?_, rfl, rfl⟩
      · rw [hloop]
        rfl
      · rw [hloop]
        rfl
  | failed =>
      obtain ⟨s', events, gone', hs', hinv, henqueued, hpassed⟩ := h.destroy_inv hloop
      exact ⟨s', events, [], gone', hs', hinv, henqueued, hpassed⟩
  | ended =>
      exact ⟨s, [], nodes, gone, by simp [loopStep, hloop], by simpa using h, rfl, rfl⟩

/-- Every step keeps the invariant, and enqueues what it is passed unless the queue
refuses it. -/
theorem machine_inv (h : Inv s log nodes gone) (input : Input A M) :
    ∃ s' events nodes' gone', s.machine input = some (s', events) ∧
      Inv s' (log ++ events) nodes' gone' ∧ Balanced (s.Accepted input) events := by
  cases input with
  | sendMsg msg malloc =>
      obtain ⟨s', events, nodes', hs', hinv, hbalanced⟩ := sendMsg_inv h msg malloc
      exact ⟨s', events, nodes', gone, hs', hinv, hbalanced⟩
  | loopMain =>
      obtain ⟨s', events, nodes', gone', hs', hinv, henqueued, hpassed⟩ := loopStep_inv h
      exact ⟨s', events, nodes', gone', hs', hinv, balanced_of_none henqueued hpassed trivial⟩
  | destruct =>
      exact ⟨s.destruct, [], nodes, gone, rfl, by simpa using destruct_inv h,
        balanced_of_none rfl rfl trivial⟩

/-- The messages of the events of one kind in the log of a run. -/
def logged (kind : Event T M → Option M) (t : Traced (Option (MsgTask A T M)) (List (Event T M))) :
    List M :=
  t.log.flatten.filterMap kind

/-- What holds in every run of the task. -/
def Sound (t : Traced (Option (MsgTask A T M)) (List (Event T M))) : Prop :=
  (∃ s nodes gone, t.state = some s ∧ Inv s t.log.flatten nodes gone) ∧
    (logged Event.enqueued? t).Sublist (logged Event.passed? t)

/-- No message was refused so far. -/
def AllEnqueued (t : Traced (Option (MsgTask A T M)) (List (Event T M))) : Prop :=
  (logged Event.enqueued? t).length = (logged Event.passed? t).length

/-- The step of the run is not a message that the queue refuses. -/
def NotRefused (t : Traced (Option (MsgTask A T M)) (List (Event T M))) (input : Input A M) :
    Prop :=
  ∀ s, t.state = some s → s.Accepted input

theorem sound_step (t : Traced (Option (MsgTask A T M)) (List (Event T M))) (input : Input A M)
    (h : Sound t) :
    Sound (Traced.attempt machine t input) ∧
      (AllEnqueued (Traced.attempt machine t input) ↔ AllEnqueued t ∧ NotRefused t input) := by
  obtain ⟨⟨s, nodes, gone, hstate, hinv⟩, hsublist⟩ := h
  obtain ⟨s', events, nodes', gone', hs', hinv', hbalanced⟩ := machine_inv hinv input
  have hattempt : Traced.attempt machine t input = ⟨some s', t.log ++ [events]⟩ := by
    simp [Traced.attempt, hstate, hs']
  have hlogged (kind : Event T M → Option M) :
      logged kind (Traced.attempt machine t input) = logged kind t ++ events.filterMap kind := by
    simp [logged, hattempt]
  have hrefused : NotRefused t input ↔ s.Accepted input := by simp [NotRefused, hstate]
  refine ⟨⟨?_, ?_⟩, ?_⟩
  · rw [hattempt]
    exact ⟨s', nodes', gone', rfl, by simpa using hinv'⟩
  · rw [hlogged, hlogged]
    exact hsublist.append hbalanced.sublist
  · have hle := hsublist.length_le
    have hle' := hbalanced.sublist.length_le
    rw [AllEnqueued, AllEnqueued, hlogged, hlogged, hrefused, ← hbalanced.length,
      List.length_append, List.length_append]
    omega

theorem sound_init (mAssociator : Option T) :
    Sound (⟨some (init mAssociator), []⟩ : Traced (Option (MsgTask A T M)) (List (Event T M))) := by
  refine ⟨⟨init mAssociator, [], [], rfl, ?_⟩, List.Sublist.refl _⟩
  constructor
  · exact ⟨LinkedList.Represents.init, by simp⟩
  all_goals simp [init, LoopMain.pending, LoopMain.held]

end Run

end MsgTask

open MsgTask

variable {A T M : Type} [DecidableEq A]

/-- The messages are processed in the order in which they were enqueued, each at
most as often as it was passed to `sendMsg`. When the loop has ended each was
deleted as often as it was passed, if and only if no `sendMsg` of the run came after
the destructor or found no memory. -/
theorem msg_task_deletes (mAssociator : Option T) (inputs : List (MsgTask.Input A M)) :
    let t := after mAssociator inputs
    ∃ s, t.state = some s ∧
      logged Event.processed? t <+: logged Event.enqueued? t ∧
      (logged Event.enqueued? t).Sublist (logged Event.passed? t) ∧
      ((s.loopMain = .ended → (logged Event.deleted? t).Perm (logged Event.passed? t)) ↔
        (s.loopMain = .ended →
          Meets (Traced.attempt machine) NotRefused ⟨some (init mAssociator), []⟩ inputs)) := by
  have hsound : Sound (after mAssociator inputs) :=
    run_invariant_all (fun t input h => (sound_step t input h).1) (sound_init mAssociator) inputs
  have hlength := run_iff_meets (fun t input h => (sound_step t input h).1)
    (fun t input h => (sound_step t input h).2) (sound_init mAssociator) inputs
  obtain ⟨⟨s, nodes, gone, hstate, hinv⟩, hsublist⟩ := hsound
  refine ⟨s, hstate, ?_, hsublist, ?_⟩
  · rw [logged, logged, hinv.order]
    exact ((List.prefix_append _ _).trans hinv.processed).trans (List.prefix_append _ _)
  · apply forall_congr'
    intro hended
    have hnodes : nodes = [] := by
      have hholds := hinv.holds
      rw [hinv.live.mpr hended] at hholds
      exact hholds
    have hgone : logged Event.enqueued? (after mAssociator inputs) = gone := by
      rw [logged, hinv.order, hnodes]
      exact List.append_nil gone
    have hdeleted : (logged Event.deleted? (after mAssociator inputs)).Perm gone := by
      have hall := hinv.deleted
      rw [hended] at hall
      change (logged Event.deleted? (after mAssociator inputs) ++ []).Perm gone at hall
      rwa [List.append_nil] at hall
    constructor
    · intro hperm
      apply (hlength.mp ?_).2
      have := (hdeleted.symm.trans hperm).length_eq
      rw [← hgone] at this
      exact this
    · intro hmeets
      have heq := hsublist.eq_of_length (hlength.mpr ⟨rfl, hmeets⟩)
      rw [← heq, hgone]
      exact hdeleted

/-- A message that is sent after the destructor is not deleted, though the loop ends
and destroys the queue. -/
theorem refused_message_leaks :
    let t : Traced (Option (MsgTask Nat Nat Nat)) (List (Event Nat Nat)) :=
      after none [.destruct, .sendMsg (some 5) (some 0), .loopMain, .loopMain, .loopMain]
    t.state.map (·.loopMain) = some .ended ∧ logged Event.passed? t = [5] ∧
      logged Event.deleted? t = [] := by
  decide

end G2Common.Core
