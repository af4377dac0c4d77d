import G2Common.Utils.Ownership

/-!
The message queue of `msg_q.c`, for any number of threads. Each critical section
is one step. A thread in `msg_q_rcv` that finds the queue empty gives the mutex
up and waits; it takes the next step when its wait returns, for whatever reason,
and then looks at the queue again.
-/

namespace G2Common.Utils

open DoublyLinked Transition

/-- `msq_q_err_type`. -/
inductive MsgQErr where
  | success | failureGeneral | invalidParameter | invalidHandle | unavailableResource
  | insufficientBuffer
  deriving DecidableEq, Repr

/-- `convert_linked_list_err_type`. -/
def convertLinkedListErr : LinkedListErr → MsgQErr
  | .success => .success
  | .invalidParameter => .invalidParameter
  | .invalidHandle => .invalidHandle
  | .unavailableResource => .unavailableResource
  | .insufficientBuffer => .insufficientBuffer
  | .failureGeneral => .failureGeneral

/-- `waiting` has the threads in `pthread_cond_wait`. -/
structure MsgQ (A D F : Type*) where
  msg_list : LinkedList A D F
  unblocked : Bool
  waiting : List Nat

/-- What a call returns, what it stores through `msg_obj`, and the calls of
deallocation functions it makes. -/
structure Reply (D F : Type*) where
  result : MsgQErr
  msg_obj : Option D
  calls : List (F × D)
  deriving DecidableEq, Repr

def Reply.error {D F : Type*} (result : MsgQErr) : Reply D F := ⟨result, none, []⟩

def Reply.ofOutput {D F : Type*} (output : Output D F) : Reply D F :=
  ⟨convertLinkedListErr output.result, output.data.join, output.calls⟩

namespace MsgQ

variable {A D F : Type*}

inductive Input (A D F : Type*) where
  | snd (msg_q_data : Ptr) (msg_obj : Option D) (dealloc : Option F) (malloc : Option A)
  | rcv (thread : Nat) (msg_q_data msg_obj : Ptr)
  | wake (thread : Nat)
  | flush (msg_q_data : Ptr)
  | unblock (msg_q_data : Ptr)
  deriving DecidableEq, Repr

/-- A step, and what the call returns if it returns in this step. -/
structure Event (A D F : Type*) where
  input : Input A D F
  reply : Option (Reply D F)
  deriving DecidableEq, Repr

section Calls

variable [DecidableEq A]

/-- `msg_q_init`. -/
def init : MsgQ A D F := ⟨.init, false, []⟩

/-- `msg_q_snd`. -/
def snd (s : MsgQ A D F) (msg_q_data : Ptr) (msg_obj : Option D) (dealloc : Option F)
    (malloc : Option A) : Option (MsgQ A D F × Reply D F) :=
  if msg_q_data = .null then some (s, .error .invalidHandle)
  else if msg_obj.isNone then some (s, .error .invalidParameter)
  else if s.unblocked then some (s, .error .unavailableResource)
  else do
    let result ← s.msg_list.add .valid msg_obj dealloc malloc
    return ({ s with msg_list := result.1 }, .ofOutput result.2)

/-- The loop of `msg_q_rcv`, from the test of its condition to the next wait or to
the return. -/
def receive (s : MsgQ A D F) (thread : Nat) : Option (MsgQ A D F × Option (Reply D F)) :=
  if s.msg_list.empty ∧ ¬ s.unblocked then some ({ s with waiting := thread :: s.waiting }, none)
  else do
    let result ← s.msg_list.remove .valid .valid
    return ({ s with msg_list := result.1 }, some (.ofOutput result.2))

/-- `msg_q_rcv` up to its first wait. -/
def rcv (s : MsgQ A D F) (thread : Nat) (msg_q_data msg_obj : Ptr) :
    Option (MsgQ A D F × Option (Reply D F)) :=
  if msg_q_data = .null then some (s, some (.error .invalidHandle))
  else if msg_obj = .null then some (s, some (.error .invalidParameter))
  else if s.unblocked then some (s, some (.error .unavailableResource))
  else s.receive thread

/-- The wait of a thread returns, after a signal, after the broadcast or with
neither. -/
def wake (s : MsgQ A D F) (thread : Nat) : Option (MsgQ A D F × Option (Reply D F)) :=
  if thread ∈ s.waiting then receive { s with waiting := s.waiting.erase thread } thread
  else some (s, none)

/-- `msg_q_flush`. -/
def flush (s : MsgQ A D F) (msg_q_data : Ptr) : Option (MsgQ A D F × Reply D F) :=
  if msg_q_data = .null then some (s, .error .invalidHandle)
  else do
    let result ← s.msg_list.flush .valid
    return ({ s with msg_list := result.1 }, .ofOutput result.2)

/-- `msg_q_unblock`. -/
def unblock (s : MsgQ A D F) (msg_q_data : Ptr) : MsgQ A D F × Reply D F :=
  if msg_q_data = .null then (s, .error .invalidHandle)
  else if s.unblocked then (s, .error .unavailableResource)
  else ({ s with unblocked := true }, ⟨.success, none, []⟩)

/-- `msg_q_destroy`, with the calls of deallocation functions that it makes. -/
def destroy (s : MsgQ A D F) : Option (List (F × D)) :=
  (s.msg_list.flush .valid).map fun result => result.2.calls

def call (s : MsgQ A D F) : Input A D F → Option (MsgQ A D F × Option (Reply D F))
  | .snd msg_q_data msg_obj dealloc malloc =>
      (s.snd msg_q_data msg_obj dealloc malloc).map fun result => (result.1, some result.2)
  | .rcv thread msg_q_data msg_obj => s.rcv thread msg_q_data msg_obj
  | .wake thread => s.wake thread
  | .flush msg_q_data => (s.flush msg_q_data).map fun result => (result.1, some result.2)
  | .unblock msg_q_data => some ((s.unblock msg_q_data).1, some (s.unblock msg_q_data).2)

def machine (s : MsgQ A D F) (input : Input A D F) : Option (MsgQ A D F × Event A D F) :=
  (s.call input).map fun result => (result.1, ⟨input, result.2⟩)

/-- A new queue after these steps. -/
def after (inputs : List (Input A D F)) : Traced (Option (MsgQ A D F)) (Event A D F) :=
  run (Traced.attempt machine) ⟨some init, []⟩ inputs

end Calls

/-- The message of a successful `msg_q_snd`. -/
def Event.sent : Event A D F → Option (Element D F)
  | ⟨.snd _ (some msg_obj) dealloc _, some ⟨.success, _, _⟩⟩ => some ⟨msg_obj, dealloc⟩
  | _ => none

/-- The message that a successful `msg_q_rcv` returns. -/
def Event.received : Event A D F → Option D
  | ⟨_, some ⟨.success, msg_obj, _⟩⟩ => msg_obj
  | _ => none

/-- The calls of deallocation functions. -/
def Event.calls (event : Event A D F) : List (F × D) := (event.reply.map (·.calls)).getD []

/-- The event is neither a message that is taken, nor a new call to `msg_q_rcv`
that waits or returns a message. -/
def Event.refused (event : Event A D F) : Prop :=
  match event.input with
  | .snd _ _ _ _ => ∃ reply, event.reply = some reply ∧ reply.result ≠ .success
  | .rcv _ _ _ =>
      ∃ reply, event.reply = some reply ∧ reply.result ≠ .success ∧ reply.msg_obj = none
  | _ => True

/-- What was sent went, oldest first, or is still in the queue. -/
structure Fifo (log : List (Event A D F)) (nodes : Nodes A (Element D F))
    (gone : List (Element D F × Fate)) : Prop where
  sent : log.filterMap Event.sent = gone.map Prod.fst ++ (nodes.map Prod.snd).reverse
  received : log.filterMap Event.received = gone.filterMap handedOut
  dealloced : (log.flatMap Event.calls).Perm (gone.flatMap dealloced)
  fate : ∀ entry ∈ gone, entry.2 = .handedOut ∨ entry.2 = entry.1.fate

/-- What a step does to the messages: `left` leave the queue. -/
structure Moves (event : Event A D F) (nodes nodes' : Nodes A (Element D F))
    (left : List (Element D F × Fate)) : Prop where
  order : (nodes.map Prod.snd).reverse ++ event.sent.toList =
    left.map Prod.fst ++ (nodes'.map Prod.snd).reverse
  received : event.received.toList = left.filterMap handedOut
  dealloced : event.calls.Perm (left.flatMap dealloced)
  fate : ∀ entry ∈ left, entry.2 = .handedOut ∨ entry.2 = entry.1.fate

theorem moves_nothing {event : Event A D F} {nodes : Nodes A (Element D F)}
    (hsent : event.sent = none) (hreceived : event.received = none) (hcalls : event.calls = []) :
    Moves event nodes nodes [] := by
  constructor <;> simp [hsent, hreceived, hcalls]

theorem moves_error {input : Input A D F} {reply : Reply D F} {nodes : Nodes A (Element D F)}
    (hresult : reply.result ≠ .success) (hcalls : reply.calls = []) :
    Moves ⟨input, some reply⟩ nodes nodes [] := by
  apply moves_nothing
  · unfold Event.sent
    split
    · rename_i heq
      cases heq
      exact absurd rfl hresult
    · rfl
  · unfold Event.received
    split
    · rename_i heq
      cases heq
      exact absurd rfl hresult
    · rfl
  · exact hcalls

theorem Fifo.moves {log : List (Event A D F)} {nodes nodes' : Nodes A (Element D F)}
    {gone left : List (Element D F × Fate)} {event : Event A D F} (h : Fifo log nodes gone)
    (hmoves : Moves event nodes nodes' left) : Fifo (log ++ [event]) nodes' (gone ++ left) where
  sent := by
    rw [filterMap_concat, h.sent, List.append_assoc, hmoves.order, List.map_append,
      List.append_assoc]
  received := by
    rw [filterMap_concat, List.filterMap_append, h.received, hmoves.received]
  dealloced := by
    rw [List.flatMap_append, List.flatMap_append, List.flatMap_singleton]
    exact h.dealloced.append hmoves.dealloced
  fate entry hentry := by
    rcases List.mem_append.mp hentry with hgone | hleft
    · exact h.fate entry hgone
    · exact hmoves.fate entry hleft

section Step

variable [DecidableEq A] {s : MsgQ A D F} {nodes : Nodes A (Element D F)}

/-- A message is taken if the queue is not unblocked and there is memory for it, and
is the newest one then. Otherwise nothing changes. -/
theorem snd_cases (h : s.msg_list.Represents nodes) (msg_obj : D) (dealloc : Option F)
    (malloc : Option A) :
    (∃ s' elem, s.unblocked = false ∧ s.msg_list.heap.malloc malloc = some elem ∧
      s.snd .valid (some msg_obj) dealloc malloc = some (s', ⟨.success, none, []⟩) ∧
      s'.msg_list.Represents ((elem, ⟨msg_obj, dealloc⟩) :: nodes)) ∨
    (¬ (s.unblocked = false ∧ (s.msg_list.heap.malloc malloc).isSome) ∧
      ∃ result, result ≠ .success ∧
        s.snd .valid (some msg_obj) dealloc malloc = some (s, .error result)) := by
  cases hunblocked : s.unblocked with
  | true => exact .inr ⟨by simp, .unavailableResource, by simp, by simp [snd, hunblocked]⟩
  | false =>
      cases hmalloc : s.msg_list.heap.malloc malloc with
      | none =>
          refine .inr ⟨by simp, .failureGeneral, by simp, ?_⟩
          simp [snd, hunblocked, LinkedList.add, hmalloc, Reply.ofOutput, Reply.error, Output.error,
            convertLinkedListErr]
          rw [← hunblocked]
      | some elem =>
          obtain ⟨rfl, hfresh⟩ := Heap.malloc_eq_some.mp hmalloc
          obtain ⟨msg_list, hadd, hrep⟩ := h.add hfresh msg_obj dealloc
          refine .inl ⟨{ s with msg_list }, elem, rfl, rfl, ?_, hrep⟩
          simp [snd, hunblocked, hadd, Reply.ofOutput, convertLinkedListErr]

theorem snd_moves (h : s.msg_list.Represents nodes) (msg_q_data : Ptr) (msg_obj : Option D)
    (dealloc : Option F) (malloc : Option A) :
    ∃ s' reply nodes', s.snd msg_q_data msg_obj dealloc malloc = some (s', reply) ∧
      s'.msg_list.Represents nodes' ∧
      Moves ⟨.snd msg_q_data msg_obj dealloc malloc, some reply⟩ nodes nodes' [] := by
  cases msg_q_data with
  | null => exact ⟨s, _, nodes, rfl, h, moves_error (by simp [Reply.error]) rfl⟩
  | valid =>
      cases msg_obj with
      | none => exact ⟨s, _, nodes, rfl, h, moves_error (by simp [Reply.error]) rfl⟩
      | some msg_obj =>
          rcases snd_cases h msg_obj dealloc malloc with
            ⟨s', elem, -, -, hsnd, hrep⟩ | ⟨-, result, hresult, hsnd⟩
          · refine ⟨s', _, _, hsnd, hrep, ?_⟩
            constructor <;> simp [Event.sent, Event.received, Event.calls]
          · exact ⟨s, _, nodes, hsnd, h, moves_error hresult rfl⟩

/-- A thread waits on a blocked queue without messages, takes the oldest message, or
fails where the queue is unblocked and has none. -/
theorem receive_cases (h : s.msg_list.Represents nodes) (thread : Nat) :
    (nodes = [] ∧ s.unblocked = false ∧
      s.receive thread = some ({ s with waiting := thread :: s.waiting }, none)) ∨
    (∃ front node msg_list, nodes = front ++ [node] ∧ msg_list.Represents front ∧
      s.receive thread =
        some ({ s with msg_list }, some ⟨.success, some node.2.data_ptr, []⟩)) ∨
    (nodes = [] ∧ s.unblocked = true ∧
      s.receive thread = some (s, some (.error .unavailableResource))) := by
  rcases List.eq_nil_or_concat' nodes with rfl | ⟨front, node, rfl⟩
  · have hhead := h.head_eq_none.mpr rfl
    have htail := h.tail_eq_none.mpr rfl
    cases hunblocked : s.unblocked with
    | false =>
        refine .inl ⟨rfl, rfl, ?_⟩
        simp [receive, LinkedList.empty, hhead, hunblocked]
    | true =>
        refine .inr (.inr ⟨rfl, rfl, ?_⟩)
        simp [receive, hunblocked, LinkedList.remove, htail, Reply.ofOutput, Reply.error,
          Output.error, convertLinkedListErr]
        rw [← hunblocked]
  · have hhead : s.msg_list.p_head ≠ none := by simp [h.head_eq_none]
    obtain ⟨msg_list, hremove, hrep⟩ := h.remove
    refine .inr (.inl ⟨front, node, msg_list, rfl, hrep, ?_⟩)
    simp [receive, LinkedList.empty, hhead, hremove, Reply.ofOutput, convertLinkedListErr]

/-- A thread that finds a message takes the oldest one. -/
theorem receive_moves (h : s.msg_list.Represents nodes) (thread : Nat) (input : Input A D F)
    (hinput : ∀ reply, (⟨input, reply⟩ : Event A D F).sent = none) :
    ∃ s' reply nodes' left, s.receive thread = some (s', reply) ∧
      s'.msg_list.Represents nodes' ∧ Moves ⟨input, reply⟩ nodes nodes' left := by
  rcases receive_cases h thread with
    ⟨-, -, hwait⟩ | ⟨front, node, msg_list, rfl, hrep, htake⟩ | ⟨rfl, -, hfail⟩
  · exact ⟨_, none, nodes, [], hwait, h, moves_nothing (hinput none) rfl rfl⟩
  · refine ⟨_, _, front, [(node.2, .handedOut)], htake, hrep, ?_⟩
    constructor <;> simp [hinput, Event.received, Event.calls, handedOut, dealloced]
  · exact ⟨s, _, [], [], hfail, h, moves_nothing (hinput _) rfl rfl⟩

theorem rcv_moves (h : s.msg_list.Represents nodes) (thread : Nat) (msg_q_data msg_obj : Ptr) :
    ∃ s' reply nodes' left, s.rcv thread msg_q_data msg_obj = some (s', reply) ∧
      s'.msg_list.Represents nodes' ∧
      Moves ⟨.rcv thread msg_q_data msg_obj, reply⟩ nodes nodes' left := by
  unfold rcv
  split
  · exact ⟨s, _, nodes, [], rfl, h, moves_nothing rfl rfl rfl⟩
  · split
    · exact ⟨s, _, nodes, [], rfl, h, moves_nothing rfl rfl rfl⟩
    · split
      · exact ⟨s, _, nodes, [], rfl, h, moves_nothing rfl rfl rfl⟩
      · exact receive_moves h thread _ (fun _ => rfl)

theorem wake_moves (h : s.msg_list.Represents nodes) (thread : Nat) :
    ∃ s' reply nodes' left, s.wake thread = some (s', reply) ∧
      s'.msg_list.Represents nodes' ∧ Moves ⟨.wake thread, reply⟩ nodes nodes' left := by
  unfold wake
  split
  · apply receive_moves
    · exact h
    · exact fun _ => rfl
  · exact ⟨s, none, nodes, [], rfl, h, moves_nothing rfl rfl rfl⟩

theorem flush_moves (h : s.msg_list.Represents nodes) (msg_q_data : Ptr) :
    ∃ s' reply nodes' left, s.flush msg_q_data = some (s', reply) ∧
      s'.msg_list.Represents nodes' ∧
      Moves ⟨.flush msg_q_data, some reply⟩ nodes nodes' left := by
  unfold flush
  split
  · exact ⟨s, _, nodes, [], rfl, h, moves_nothing rfl rfl rfl⟩
  · obtain ⟨msg_list, hflush, hrep⟩ := h.flush
    refine ⟨{ s with msg_list },
      .ofOutput ⟨.success, none, nodes.flatMap fun node => node.2.dealloc⟩, [],
      nodes.reverse.map fun node => (node.2, node.2.fate), ?_, hrep, ?_⟩
    · simp [hflush]
    · constructor
      · rw [released_fst]
        rfl
      · exact (released_handedOut nodes).symm
      · exact released_dealloced nodes
      · exact released_fate nodes

/-- Every step keeps the list in memory sound, and moves messages in their order. -/
theorem machine_moves (h : s.msg_list.Represents nodes) (input : Input A D F) :
    ∃ s' reply nodes' left, s.machine input = some (s', ⟨input, reply⟩) ∧
      s'.msg_list.Represents nodes' ∧ Moves ⟨input, reply⟩ nodes nodes' left := by
  cases input with
  | snd msg_q_data msg_obj dealloc malloc =>
      obtain ⟨s', reply, nodes', hs', hrep, hmoves⟩ := snd_moves h msg_q_data msg_obj dealloc malloc
      exact ⟨s', some reply, nodes', [], by simp [machine, call, hs'], hrep, hmoves⟩
  | rcv thread msg_q_data msg_obj =>
      obtain ⟨s', reply, nodes', left, hs', hrep, hmoves⟩ := rcv_moves h thread msg_q_data msg_obj
      exact ⟨s', reply, nodes', left, by simp [machine, call, hs'], hrep, hmoves⟩
  | wake thread =>
      obtain ⟨s', reply, nodes', left, hs', hrep, hmoves⟩ := wake_moves h thread
      exact ⟨s', reply, nodes', left, by simp [machine, call, hs'], hrep, hmoves⟩
  | flush msg_q_data =>
      obtain ⟨s', reply, nodes', left, hs', hrep, hmoves⟩ := flush_moves h msg_q_data
      exact ⟨s', some reply, nodes', left, by simp [machine, call, hs'], hrep, hmoves⟩
  | unblock msg_q_data =>
      refine ⟨(s.unblock msg_q_data).1, some (s.unblock msg_q_data).2, nodes, [],
        by simp [machine, call], ?_⟩
      unfold unblock
      split
      · exact ⟨h, moves_nothing rfl rfl rfl⟩
      · split <;> exact ⟨h, moves_nothing rfl rfl rfl⟩

/-- A failing `msg_q_snd` changes nothing. -/
theorem snd_failed {s' : MsgQ A D F} {msg_q_data : Ptr} {msg_obj : Option D} {dealloc : Option F}
    {malloc : Option A} {reply : Reply D F}
    (h : s.snd msg_q_data msg_obj dealloc malloc = some (s', reply))
    (hresult : reply.result ≠ .success) : s' = s := by
  unfold snd at h
  split at h
  · cases h
    rfl
  · split at h
    · cases h
      rfl
    · split at h
      · cases h
        rfl
      · obtain ⟨result, hadd, h⟩ := Option.bind_eq_some_iff.mp h
        cases h
        have hfailed : result.1 = s.msg_list := by
          apply LinkedList.add_failed hadd
          intro hsuccess
          simp [Reply.ofOutput, hsuccess, convertLinkedListErr] at hresult
        rw [hfailed]

theorem destroy_eq (h : s.msg_list.Represents nodes) :
    s.destroy = some (nodes.flatMap fun node => node.2.dealloc) := by
  obtain ⟨msg_list, hflush, -⟩ := h.flush
  simp [destroy, hflush]

theorem snd_unblocked (h : s.unblocked = true) (msg_q_data : Ptr) (msg_obj : Option D)
    (dealloc : Option F) (malloc : Option A) :
    ∃ reply, s.snd msg_q_data msg_obj dealloc malloc = some (s, reply) ∧
      reply.result ≠ .success := by
  unfold snd
  split
  · exact ⟨_, rfl, by simp [Reply.error]⟩
  · split
    · exact ⟨_, rfl, by simp [Reply.error]⟩
    · exact ⟨_, rfl, by simp [Reply.error]⟩

theorem rcv_unblocked (h : s.unblocked = true) (thread : Nat) (msg_q_data msg_obj : Ptr) :
    ∃ reply, s.rcv thread msg_q_data msg_obj = some (s, some reply) ∧
      reply.result ≠ .success ∧ reply.msg_obj = none := by
  unfold rcv
  split
  · exact ⟨_, rfl, by simp [Reply.error], rfl⟩
  · split
    · exact ⟨_, rfl, by simp [Reply.error], rfl⟩
    · exact ⟨_, rfl, by simp [Reply.error], rfl⟩

theorem receive_unblocked {s' : MsgQ A D F} {thread : Nat} {reply : Option (Reply D F)}
    (h : s.receive thread = some (s', reply)) : s'.unblocked = s.unblocked := by
  unfold receive at h
  split at h
  · cases h
    rfl
  · obtain ⟨result, -, h⟩ := Option.bind_eq_some_iff.mp h
    cases h
    rfl

theorem wake_unblocked {s' : MsgQ A D F} {thread : Nat} {reply : Option (Reply D F)}
    (h : s.wake thread = some (s', reply)) : s'.unblocked = s.unblocked := by
  unfold wake at h
  split at h
  · exact (receive_unblocked h).trans rfl
  · cases h
    rfl

theorem flush_unblocked {s' : MsgQ A D F} {msg_q_data : Ptr} {reply : Reply D F}
    (h : s.flush msg_q_data = some (s', reply)) : s'.unblocked = s.unblocked := by
  unfold flush at h
  split at h
  · cases h
    rfl
  · obtain ⟨result, -, h⟩ := Option.bind_eq_some_iff.mp h
    cases h
    rfl

/-- What `msg_q_unblock` leaves behind. -/
theorem call_unblocked {s' : MsgQ A D F} {input : Input A D F} {reply : Option (Reply D F)}
    (hunblocked : s.unblocked = true) (h : s.call input = some (s', reply)) :
    s'.unblocked = true ∧ (⟨input, reply⟩ : Event A D F).refused := by
  cases input with
  | snd msg_q_data msg_obj dealloc malloc =>
      obtain ⟨reply, hsnd, hresult⟩ := snd_unblocked hunblocked msg_q_data msg_obj dealloc malloc
      rw [call, hsnd] at h
      cases h
      exact ⟨hunblocked, reply, rfl, hresult⟩
  | rcv thread msg_q_data msg_obj =>
      obtain ⟨reply, hrcv, hresult⟩ := rcv_unblocked hunblocked thread msg_q_data msg_obj
      rw [call, hrcv] at h
      cases h
      exact ⟨hunblocked, reply, rfl, hresult⟩
  | wake thread => exact ⟨(wake_unblocked h).trans hunblocked, trivial⟩
  | flush msg_q_data =>
      obtain ⟨result, hflush, heq⟩ := Option.map_eq_some_iff.mp h
      cases heq
      exact ⟨(flush_unblocked hflush).trans hunblocked, trivial⟩
  | unblock msg_q_data =>
      refine ⟨?_, trivial⟩
      cases h
      unfold unblock
      split
      · exact hunblocked
      · simp [hunblocked]

theorem call_unblock {s' : MsgQ A D F} {reply : Option (Reply D F)}
    (h : s.call (.unblock .valid) = some (s', reply)) : s'.unblocked = true := by
  cases h
  cases hunblocked : s.unblocked <;> simp [unblock, hunblocked]

end Step

section Run

variable [DecidableEq A]

/-- The queue in memory, with what was sent so far. -/
def Sound (t : Traced (Option (MsgQ A D F)) (Event A D F)) : Prop :=
  ∃ s nodes gone, t.state = some s ∧ s.msg_list.Represents nodes ∧ Fifo t.log nodes gone

theorem sound_step (t : Traced (Option (MsgQ A D F)) (Event A D F)) (input : Input A D F)
    (h : Sound t) : Sound (Traced.attempt machine t input) := by
  obtain ⟨s, nodes, gone, hstate, hrep, hfifo⟩ := h
  obtain ⟨s', reply, nodes', left, hs', hrep', hmoves⟩ := machine_moves hrep input
  have hattempt : Traced.attempt machine t input = ⟨some s', t.log ++ [⟨input, reply⟩]⟩ := by
    simp [Traced.attempt, hstate, hs']
  rw [hattempt]
  exact ⟨s', nodes', gone ++ left, rfl, hrep', hfifo.moves hmoves⟩

theorem sound (inputs : List (Input A D F)) : Sound (after inputs) := by
  refine run_invariant_all sound_step ⟨init, [], [], rfl, LinkedList.Represents.init, ?_⟩ inputs
  constructor <;> simp

/-- The queue is unblocked. -/
def Closed (t : Traced (Option (MsgQ A D F)) (Event A D F)) : Prop :=
  ∀ s, t.state = some s → s.unblocked = true

/-- A step either faults, or is a call. -/
theorem attempt_cases (t : Traced (Option (MsgQ A D F)) (Event A D F)) (input : Input A D F) :
    Traced.attempt machine t input = ⟨none, t.log⟩ ∨
      ∃ s s' reply, t.state = some s ∧ s.call input = some (s', reply) ∧
        Traced.attempt machine t input = ⟨some s', t.log ++ [⟨input, reply⟩]⟩ := by
  unfold Traced.attempt
  split
  · rename_i result hresult
    obtain ⟨s, hs, hmachine⟩ := Option.bind_eq_some_iff.mp hresult
    obtain ⟨called, hcall, rfl⟩ := Option.map_eq_some_iff.mp hmachine
    exact .inr ⟨s, called.1, called.2, hs, hcall, rfl⟩
  · exact .inl rfl

theorem closed_step {t : Traced (Option (MsgQ A D F)) (Event A D F)} (h : Closed t)
    (input : Input A D F) :
    Closed (Traced.attempt machine t input) ∧
      ∃ rest, (Traced.attempt machine t input).log = t.log ++ rest ∧
        ∀ event ∈ rest, event.refused := by
  rcases attempt_cases t input with hfault | ⟨s, s', reply, hs, hcall, hstep⟩
  · rw [hfault]
    exact ⟨fun _ hnone => (by cases hnone), [], (List.append_nil _).symm, by simp⟩
  · rw [hstep]
    obtain ⟨hunblocked, hrefused⟩ := call_unblocked (h s hs) hcall
    refine ⟨?_, [⟨input, reply⟩], rfl, by simpa using hrefused⟩
    intro s₁ hs₁
    cases hs₁
    exact hunblocked

/-- After `msg_q_unblock` every new call is refused. -/
theorem closed_run {t : Traced (Option (MsgQ A D F)) (Event A D F)} (h : Closed t)
    (inputs : List (Input A D F)) :
    ∃ rest, (run (Traced.attempt machine) t inputs).log = t.log ++ rest ∧
      ∀ event ∈ rest, event.refused := by
  induction inputs generalizing t with
  | nil => exact ⟨[], (List.append_nil _).symm, by simp⟩
  | cons input inputs ih =>
      obtain ⟨hclosed, first, hfirst, hrefused⟩ := closed_step h input
      obtain ⟨rest, hrest, hrefused'⟩ := ih hclosed
      refine ⟨first ++ rest, ?_, ?_⟩
      · rw [run_cons, hrest, hfirst, List.append_assoc]
      · intro event hevent
        rcases List.mem_append.mp hevent with hin | hin
        · exact hrefused event hin
        · exact hrefused' event hin

/-- If `msg_q_unblock` was called on the queue it is unblocked. -/
def UnblockCloses (t : Traced (Option (MsgQ A D F)) (Event A D F)) : Prop :=
  (∃ event ∈ t.log, event.input = .unblock .valid) → Closed t

theorem unblockCloses_step (t : Traced (Option (MsgQ A D F)) (Event A D F)) (input : Input A D F)
    (h : UnblockCloses t) : UnblockCloses (Traced.attempt machine t input) := by
  rintro ⟨event, hmem, hinput⟩
  rcases attempt_cases t input with hfault | ⟨s, s', reply, hs, hcall, hattempt⟩
  · rw [hfault]
    exact fun _ hnone => (by cases hnone)
  · rw [hattempt] at hmem
    rcases List.mem_append.mp hmem with hold | hnew
    · exact (closed_step (h ⟨event, hold, hinput⟩) input).1
    · obtain rfl := List.mem_singleton.mp hnew
      obtain rfl : input = .unblock .valid := hinput
      rw [hattempt]
      intro s₁ hs₁
      cases hs₁
      exact call_unblock hcall

theorem unblockCloses (inputs : List (Input A D F)) : UnblockCloses (after inputs) := by
  apply run_invariant_all unblockCloses_step
  rintro ⟨event, hmem, -⟩
  cases hmem

end Run

end MsgQ

/-- The queue is a FIFO. What was sent successfully is, in the order of sending,
what is gone and then what is in the queue; and what is gone was received, in
this order, or deallocated in a flush, or dropped there for want of a
deallocation function. -/
theorem msg_q_fifo {A D F : Type*} [DecidableEq A] [DecidableEq D]
    (inputs : List (MsgQ.Input A D F)) :
    (∃ s nodes gone, (MsgQ.after inputs).state = some s ∧ s.msg_list.Represents nodes ∧
      MsgQ.Fifo (MsgQ.after inputs).log nodes gone) ∧
    (∀ msg, ((MsgQ.after inputs).log.filterMap MsgQ.Event.received).count msg +
        ((MsgQ.after inputs).log.flatMap MsgQ.Event.calls).countP (fun call => call.2 = msg) ≤
      ((MsgQ.after inputs).log.filterMap MsgQ.Event.sent).countP
        fun elem => elem.data_ptr = msg) ∧
    (∀ msg_q_data msg_obj dealloc malloc,
      ∃ reply, (MsgQ.after (inputs ++ [.snd msg_q_data msg_obj dealloc malloc])).log =
          (MsgQ.after inputs).log ++ [⟨.snd msg_q_data msg_obj dealloc malloc, some reply⟩] ∧
        (reply.result ≠ .success →
          (MsgQ.after (inputs ++ [.snd msg_q_data msg_obj dealloc malloc])).state =
            (MsgQ.after inputs).state)) ∧
    ((∃ event ∈ (MsgQ.after inputs).log, event.input = .unblock .valid) → ∀ later,
      ∃ rest, (MsgQ.after (inputs ++ later)).log = (MsgQ.after inputs).log ++ rest ∧
        ∀ event ∈ rest, event.refused) := by
  obtain ⟨s, nodes, gone, hstate, hrep, hfifo⟩ := MsgQ.sound inputs
  have happend (later : List (MsgQ.Input A D F)) : MsgQ.after (inputs ++ later) =
      run (Traced.attempt MsgQ.machine) (MsgQ.after inputs) later := List.foldl_append
  refine ⟨⟨s, nodes, gone, hstate, hrep, hfifo⟩, ?_, ?_, ?_⟩
  · intro msg
    have hgone := Sequence.countP_gone hfifo.fate msg
    rw [hfifo.sent, hfifo.received, hfifo.dealloced.countP_eq, List.countP_append, List.countP_map]
    simp only [Function.comp_def]
    omega
  · intro msg_q_data msg_obj dealloc malloc
    obtain ⟨s', reply, nodes', hsnd, -, -⟩ := MsgQ.snd_moves hrep msg_q_data msg_obj dealloc malloc
    have hattempt : MsgQ.after (inputs ++ [.snd msg_q_data msg_obj dealloc malloc]) =
        ⟨some s', (MsgQ.after inputs).log ++
          [⟨.snd msg_q_data msg_obj dealloc malloc, some reply⟩]⟩ := by
      simp [happend, Traced.attempt, hstate, MsgQ.machine, MsgQ.call, hsnd]
    refine ⟨reply, congrArg Traced.log hattempt, ?_⟩
    intro hresult
    rw [hattempt, hstate, MsgQ.snd_failed hsnd hresult]
  · intro hunblock later
    rw [happend]
    exact MsgQ.closed_run (MsgQ.unblockCloses inputs hunblock) later

/-- A message that was sent without a deallocation function is neither received
nor deallocated nor in the queue after a flush. -/
theorem message_dropped :
    let t : Traced (Option (MsgQ Nat Nat Nat)) (MsgQ.Event Nat Nat Nat) :=
      MsgQ.after [.snd .valid (some 5) none (some 0), .flush .valid]
    (t.log.filterMap MsgQ.Event.sent).map (·.data_ptr) = [5] ∧
      t.log.filterMap MsgQ.Event.received = [] ∧ t.log.flatMap MsgQ.Event.calls = [] ∧
      t.state.map (·.msg_list.empty) = some true := by
  decide

end G2Common.Utils
