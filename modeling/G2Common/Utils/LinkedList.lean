import G2Common.DoublyLinked
import G2Common.Refinement

/-!
The linked list of `linked_list.c`, on a memory that holds its elements, and the
sequence that it stands for. An access to memory that is not allocated is a
fault, and so is a loop that never ends.
-/

namespace G2Common.Utils

open DoublyLinked Transition

/-- `linked_list_err_type`. -/
inductive LinkedListErr where
  | success | failureGeneral | invalidParameter | invalidHandle | unavailableResource
  | insufficientBuffer
  deriving DecidableEq, Repr

/-- A pointer argument that the callee compares with `NULL`. -/
inductive Ptr where
  | null | valid
  deriving DecidableEq, Repr

/-- What an element has besides its links. -/
structure Element (D F : Type*) where
  data_ptr : D
  dealloc_func : Option F
  deriving DecidableEq, Repr

/-- `list_state` and the memory of its elements. -/
structure LinkedList (A D F : Type*) where
  heap : Heap A (Element D F)
  p_head : Option A
  p_tail : Option A

/-- What a call returns, what it stores through its `void**` argument, and the
calls of deallocation functions it makes. -/
structure Output (D F : Type*) where
  result : LinkedListErr
  data : Option (Option D)
  calls : List (F × D)
  deriving DecidableEq, Repr

def Output.error {D F : Type*} (result : LinkedListErr) : Output D F := ⟨result, none, []⟩

/-- The call of the deallocation function, if there is one. -/
def Element.dealloc {D F : Type*} (elem : Element D F) : List (F × D) :=
  (elem.dealloc_func.map (·, elem.data_ptr)).toList

namespace LinkedList

variable {A D F : Type*} [DecidableEq A]

/-- `linked_list_init`. -/
def init : LinkedList A D F := ⟨∅, none, none⟩

/-- `linked_list_add`, where `malloc` is what the allocator chooses. -/
def add (s : LinkedList A D F) (list_data : Ptr) (data_obj : Option D) (dealloc : Option F)
    (malloc : Option A) : Option (LinkedList A D F × Output D F) :=
  if list_data = .null then some (s, .error .invalidHandle)
  else
    match data_obj with
    | none => some (s, .error .invalidParameter)
    | some data_obj =>
        match s.heap.malloc malloc with
        | none => some (s, .error .failureGeneral)
        | some elem => do
            let heap : Heap A (Element D F) := s.heap.insert elem ⟨none, none, ⟨data_obj, dealloc⟩⟩
            let heap ← heap.setNext elem s.p_head
            match s.p_head with
            | some tmp =>
                let heap ← heap.setPrev tmp (some elem)
                return (⟨heap, some elem, s.p_tail⟩, ⟨.success, none, []⟩)
            | none => return (⟨heap, some elem, some elem⟩, ⟨.success, none, []⟩)

/-- `linked_list_remove`. -/
def remove (s : LinkedList A D F) (list_data data_obj : Ptr) :
    Option (LinkedList A D F × Output D F) :=
  if list_data = .null then some (s, .error .invalidHandle)
  else if data_obj = .null then some (s, .error .invalidParameter)
  else
    match s.p_tail with
    | none => some (s, .error .unavailableResource)
    | some tmp => do
        let elem ← s.heap.lookup tmp
        match elem.prev with
        | some p_tail =>
            let heap ← s.heap.setNext p_tail none
            let heap ← heap.free tmp
            return (⟨heap, s.p_head, elem.prev⟩, ⟨.success, some (some elem.value.data_ptr), []⟩)
        | none =>
            let heap ← s.heap.free tmp
            return (⟨heap, none, none⟩, ⟨.success, some (some elem.value.data_ptr), []⟩)

/-- `linked_list_empty` for a list that is not `NULL`. -/
def empty (s : LinkedList A D F) : Bool := s.p_head.isNone

/-- The loop of `linked_list_flush`. Each turn frees an element of memory, so as
many turns as memory has elements are enough. -/
def flushLoop : Nat → LinkedList A D F → List (F × D) → Option (LinkedList A D F × List (F × D))
  | fuel, s, calls =>
      match s.p_head with
      | none => some (s, calls)
      | some p_head =>
          match fuel with
          | 0 => none
          | fuel + 1 => do
              let elem ← s.heap.lookup p_head
              let heap ← s.heap.free p_head
              flushLoop fuel ⟨heap, elem.next, s.p_tail⟩ (calls ++ elem.value.dealloc)

/-- `linked_list_flush`. -/
def flush (s : LinkedList A D F) (list_data : Ptr) : Option (LinkedList A D F × Output D F) :=
  if list_data = .null then some (s, .error .invalidHandle)
  else do
    let result ← flushLoop s.heap.keys.card s []
    return (⟨result.1.heap, result.1.p_head, none⟩, ⟨.success, none, result.2⟩)

/-- The element before the removed one, or the head, is linked to the one after. -/
def unlinkPrev (s : LinkedList A D F) (elem : Cell A (Element D F)) : Option (LinkedList A D F) :=
  match elem.prev with
  | none => some { s with p_head := elem.next }
  | some prev => do
      let heap ← s.heap.setNext prev elem.next
      return { s with heap }

/-- The element after the removed one, or the tail, is linked to the one before. -/
def unlinkNext (s : LinkedList A D F) (elem : Cell A (Element D F)) : Option (LinkedList A D F) :=
  match elem.next with
  | none => some { s with p_tail := elem.prev }
  | some next => do
      let heap ← s.heap.setPrev next elem.prev
      return { s with heap }

/-- What `linked_list_search` does to remove the element that it found. -/
def unlink (s : LinkedList A D F) (tmp : A) : Option (LinkedList A D F) := do
  let elem ← s.heap.lookup tmp
  let s ← s.unlinkPrev elem
  let elem ← s.heap.lookup tmp
  let s ← s.unlinkNext elem
  let heap ← s.heap.setNext tmp none
  let heap ← heap.setPrev tmp none
  let heap ← heap.free tmp
  return { s with heap }

/-- The loop of `linked_list_search`, which does not change memory before it has
found an element. If it takes more turns than memory has elements it comes to an
element again, and never ends. -/
def searchLoop (s : LinkedList A D F) (data_p : Ptr) (equal : D → Bool) (rm_if_found : Bool) :
    Nat → Option A → Option (LinkedList A D F × Output D F)
  | _, none => some (s, ⟨.success, if data_p = .null then none else some none, []⟩)
  | 0, some _ => none
  | fuel + 1, some tmp => do
      let elem ← s.heap.lookup tmp
      if equal elem.value.data_ptr then
        let data := if data_p = .null then none else some (some elem.value.data_ptr)
        if rm_if_found then
          let calls := if data_p = .null then elem.value.dealloc else []
          let s ← s.unlink tmp
          return (s, ⟨.success, data, calls⟩)
        else return (s, ⟨.success, data, []⟩)
      else searchLoop s data_p equal rm_if_found fuel elem.next

/-- `linked_list_search`. -/
def search (s : LinkedList A D F) (list_data data_p : Ptr) (equal : Option (Option D → D → Bool))
    (data_0 : Option D) (rm_if_found : Bool) : Option (LinkedList A D F × Output D F) :=
  if list_data = .null then some (s, .error .invalidHandle)
  else
    match equal with
    | none => some (s, .error .invalidHandle)
    | some equal =>
        if s.p_tail = none then some (s, .error .unavailableResource)
        else searchLoop s data_p (equal data_0) rm_if_found s.heap.keys.card s.p_head

inductive Input (A D F : Type*) where
  | add (list_data : Ptr) (data_obj : Option D) (dealloc : Option F) (malloc : Option A)
  | remove (list_data data_obj : Ptr)
  | search (list_data data_p : Ptr) (equal : Option (Option D → D → Bool)) (data_0 : Option D)
      (rm_if_found : Bool)
  | flush (list_data : Ptr)

/-- A call and its output. -/
structure Event (A D F : Type*) where
  input : Input A D F
  output : Output D F

def call (s : LinkedList A D F) : Input A D F → Option (LinkedList A D F × Output D F)
  | .add list_data data_obj dealloc malloc => s.add list_data data_obj dealloc malloc
  | .remove list_data data_obj => s.remove list_data data_obj
  | .search list_data data_p equal data_0 rm_if_found =>
      s.search list_data data_p equal data_0 rm_if_found
  | .flush list_data => s.flush list_data

def machine (s : LinkedList A D F) (input : Input A D F) :
    Option (LinkedList A D F × Event A D F) :=
  (s.call input).map fun result => (result.1, ⟨input, result.2⟩)

/-- A failing `linked_list_add` changes nothing. -/
theorem add_failed {s s' : LinkedList A D F} {list_data : Ptr} {data_obj : Option D}
    {dealloc : Option F} {malloc : Option A} {output : Output D F}
    (h : s.add list_data data_obj dealloc malloc = some (s', output))
    (hresult : output.result ≠ .success) : s' = s := by
  unfold add at h
  split at h
  · cases h
    rfl
  · split at h
    · cases h
      rfl
    · split at h
      · cases h
        rfl
      · obtain ⟨heap, -, h⟩ := Option.bind_eq_some_iff.mp h
        split at h
        · obtain ⟨heap', -, h⟩ := Option.bind_eq_some_iff.mp h
          cases h
          exact absurd rfl hresult
        · cases h
          exact absurd rfl hresult

end LinkedList

/-- What became of an element that is not in the list any more. -/
inductive Fate where
  | handedOut | dealloced | dropped
  deriving DecidableEq, Repr

/-- What becomes of an element that is freed and not handed out. -/
def Element.fate {D F : Type*} (elem : Element D F) : Fate :=
  if elem.dealloc_func.isSome then .dealloced else .dropped

/-- The elements that a list stands for, with their addresses, and what became of
those that it stood for earlier. -/
structure Sequence (A D F : Type*) where
  nodes : Nodes A (Element D F)
  gone : List (Element D F × Fate)

namespace Sequence

variable {A D F : Type*} [DecidableEq A]

def init : Sequence A D F := ⟨[], []⟩

def add (q : Sequence A D F) (list_data : Ptr) (data_obj : Option D) (dealloc : Option F)
    (malloc : Option A) : Sequence A D F × Output D F :=
  if list_data = .null then (q, .error .invalidHandle)
  else
    match data_obj with
    | none => (q, .error .invalidParameter)
    | some data_obj =>
        match malloc.filter fun addr => addr ∉ q.nodes.addrs with
        | none => (q, .error .failureGeneral)
        | some elem =>
            (⟨(elem, ⟨data_obj, dealloc⟩) :: q.nodes, q.gone⟩, ⟨.success, none, []⟩)

def remove (q : Sequence A D F) (list_data data_obj : Ptr) : Sequence A D F × Output D F :=
  if list_data = .null then (q, .error .invalidHandle)
  else if data_obj = .null then (q, .error .invalidParameter)
  else
    match q.nodes.getLast? with
    | none => (q, .error .unavailableResource)
    | some node =>
        (⟨q.nodes.dropLast, q.gone ++ [(node.2, .handedOut)]⟩,
          ⟨.success, some (some node.2.data_ptr), []⟩)

/-- The elements are dropped from the last to the first, and deallocated from the
first to the last. -/
def flush (q : Sequence A D F) (list_data : Ptr) : Sequence A D F × Output D F :=
  if list_data = .null then (q, .error .invalidHandle)
  else
    (⟨[], q.gone ++ q.nodes.reverse.map fun node => (node.2, node.2.fate)⟩,
      ⟨.success, none, q.nodes.flatMap fun node => node.2.dealloc⟩)

def search (q : Sequence A D F) (list_data data_p : Ptr) (equal : Option (Option D → D → Bool))
    (data_0 : Option D) (rm_if_found : Bool) : Sequence A D F × Output D F :=
  if list_data = .null then (q, .error .invalidHandle)
  else
    match equal with
    | none => (q, .error .invalidHandle)
    | some equal =>
        if q.nodes = [] then (q, .error .unavailableResource)
        else
          match q.nodes.find? fun node => equal data_0 node.2.data_ptr with
          | none => (q, ⟨.success, if data_p = .null then none else some none, []⟩)
          | some node =>
              let data := if data_p = .null then none else some (some node.2.data_ptr)
              if rm_if_found then
                (⟨q.nodes.eraseP fun node => equal data_0 node.2.data_ptr,
                    q.gone ++ [(node.2, if data_p = .null then node.2.fate else .handedOut)]⟩,
                  ⟨.success, data, if data_p = .null then node.2.dealloc else []⟩)
              else (q, ⟨.success, data, []⟩)

def call (q : Sequence A D F) : LinkedList.Input A D F → Sequence A D F × Output D F
  | .add list_data data_obj dealloc malloc => q.add list_data data_obj dealloc malloc
  | .remove list_data data_obj => q.remove list_data data_obj
  | .search list_data data_p equal data_0 rm_if_found =>
      q.search list_data data_p equal data_0 rm_if_found
  | .flush list_data => q.flush list_data

def machine (q : Sequence A D F) (input : LinkedList.Input A D F) :
    Sequence A D F × LinkedList.Event A D F :=
  ((q.call input).1, ⟨input, (q.call input).2⟩)

end Sequence

/-- The first element that is looked for, and what is left without it. -/
theorem find_split {ν : Type*} {p : ν → Bool} {nodes : List ν} {node : ν}
    (hfind : nodes.find? p = some node) :
    ∃ front back, nodes = front ++ node :: back ∧ (∀ other ∈ front, p other = false) ∧
      p node = true ∧ nodes.eraseP p = front ++ back := by
  obtain ⟨hnode, front, back, rfl, hfront⟩ := List.find?_eq_some_iff_append.mp hfind
  refine ⟨front, back, rfl, by simpa using hfront, hnode, ?_⟩
  rw [List.eraseP_append_right _ (by simpa using hfront)]
  simp [hnode]

/-- The list in memory has these elements, in this order. Memory has no others. -/
structure LinkedList.Represents {A D F : Type*} [DecidableEq A] (s : LinkedList A D F)
    (nodes : Nodes A (Element D F)) : Prop where
  head : s.p_head = nodes.first
  tail : s.p_tail = nodes.last
  chain : Chain s.heap none none nodes
  nodup : nodes.addrs.Nodup
  mem : ∀ addr, addr ∈ s.heap ↔ addr ∈ nodes.addrs

namespace LinkedList.Represents

variable {A D F : Type*} [DecidableEq A] {s : LinkedList A D F} {nodes : Nodes A (Element D F)}

theorem init : (LinkedList.init : LinkedList A D F).Represents [] where
  head := rfl
  tail := rfl
  chain := trivial
  nodup := List.nodup_nil
  mem addr := by simp [LinkedList.init, Finmap.notMem_empty]

theorem head_eq_none (h : s.Represents nodes) : s.p_head = none ↔ nodes = [] := by
  rw [h.head, Nodes.first_eq_none]

theorem tail_eq_none (h : s.Represents nodes) : s.p_tail = none ↔ nodes = [] := by
  rw [h.tail, Nodes.last_eq_none]

/-- Memory has as many elements as the list. -/
theorem card (h : s.Represents nodes) : s.heap.keys.card = nodes.length := by
  have hkeys : s.heap.keys = nodes.addrs.toFinset := by
    ext addr
    rw [Finmap.mem_keys, h.mem, List.mem_toFinset]
  rw [hkeys, List.toFinset_card_of_nodup h.nodup, Nodes.addrs, List.length_map]

theorem add (h : s.Represents nodes) {elem : A} (hfresh : elem ∉ s.heap) (data_obj : D)
    (dealloc : Option F) :
    ∃ s', s.add .valid (some data_obj) dealloc (some elem) = some (s', ⟨.success, none, []⟩) ∧
      s'.Represents ((elem, ⟨data_obj, dealloc⟩) :: nodes) := by
  have hnew : elem ∉ nodes.addrs := fun hmem => hfresh ((h.mem elem).mpr hmem)
  have hmalloc : s.heap.malloc (some elem) = some elem := Heap.malloc_eq_some.mpr ⟨rfl, hfresh⟩
  have hnext (cell : Cell A (Element D F)) :
      Heap.setNext (s.heap.insert elem cell) elem s.p_head =
        some (s.heap.insert elem { cell with next := s.p_head }) := by
    rw [Heap.setNext_of_lookup (Finmap.lookup_insert _), Finmap.insert_insert]
  have hnodup : (Nodes.addrs ((elem, ⟨data_obj, dealloc⟩) :: nodes)).Nodup :=
    List.nodup_cons.mpr ⟨hnew, h.nodup⟩
  have hmem (addr : A) (cell : Cell A (Element D F)) : addr ∈ s.heap.insert elem cell ↔
      addr ∈ Nodes.addrs ((elem, ⟨data_obj, dealloc⟩) :: nodes) := by
    rw [Finmap.mem_insert, h.mem, Nodes.addrs_cons, List.mem_cons]
  have hhead := h.head
  have hchain := h.chain.insert hnew ⟨s.p_head, none, ⟨data_obj, dealloc⟩⟩
  simp only [LinkedList.add, hmalloc, hnext, reduceCtorEq, if_false]
  cases nodes with
  | nil =>
      rw [Nodes.first_nil] at hhead
      refine ⟨⟨s.heap.insert elem ⟨none, none, ⟨data_obj, dealloc⟩⟩, some elem, some elem⟩, ?_, ?_⟩
      · simp [hhead]
      · exact ⟨rfl, rfl, ⟨Finmap.lookup_insert _, trivial⟩, hnodup, fun addr => hmem addr _⟩
  | cons node rest =>
      rw [Nodes.first_cons] at hhead
      obtain ⟨hne, hnotin⟩ : node.1 ∉ Nodes.addrs rest ∧ (Nodes.addrs rest).Nodup :=
        List.nodup_cons.mp h.nodup
      obtain ⟨heap', hprev, hmod, hchain'⟩ := hchain.setPrev hne (some elem)
      refine ⟨⟨heap', some elem, s.p_tail⟩, ?_, ?_⟩
      · rw [hhead] at hprev ⊢
        simp [hprev]
      · have hcell : heap'.lookup elem = some ⟨some node.1, none, ⟨data_obj, dealloc⟩⟩ := by
          rw [hmod.lookup elem (by simpa using fun heq => hnew (by simp [heq])),
            Finmap.lookup_insert, hhead]
        refine ⟨rfl, ?_, ⟨hcell, hchain'⟩, hnodup, fun addr => (hmod.mem addr).trans (hmem addr _)⟩
        rw [h.tail, Nodes.last_cons_cons]

theorem remove {front : Nodes A (Element D F)} {node : A × Element D F}
    (h : s.Represents (front ++ [node])) :
    ∃ s', s.remove .valid .valid = some (s', ⟨.success, some (some node.2.data_ptr), []⟩) ∧
      s'.Represents front := by
  obtain ⟨hfront, hcell, -⟩ := chain_append.mp h.chain
  have htail : s.p_tail = some node.1 := h.tail.trans (Nodes.last_concat front node)
  have hnodup := h.nodup
  have hmem (heap : Heap A (Element D F)) (hsame : ∀ addr, addr ∈ heap ↔ addr ∈ s.heap) (addr : A) :
      addr ∈ heap.erase node.1 ↔ addr ∈ front.addrs := by
    have := Nodes.mem_erase hnodup (fun addr => (hsame addr).trans (h.mem addr)) addr
    rwa [List.append_nil] at this
  have hnode : node.1 ∉ front.addrs := by
    rw [Nodes.addrs_append] at hnodup
    exact fun hmem => List.disjoint_of_nodup_append hnodup hmem (by simp)
  have hfree (heap : Heap A (Element D F)) (hsame : ∀ addr, addr ∈ heap ↔ addr ∈ s.heap) :
      Heap.free heap node.1 = some (heap.erase node.1) :=
    Heap.free_of_mem ((hsame _).mpr (Finmap.mem_of_lookup_eq_some hcell))
  simp only [LinkedList.remove, htail, hcell, reduceCtorEq, if_false]
  rcases List.eq_nil_or_concat' front with rfl | ⟨init, prev, rfl⟩
  · refine ⟨⟨s.heap.erase node.1, none, none⟩, by simp [hfree s.heap], ?_⟩
    exact ⟨rfl, rfl, trivial, List.nodup_nil, hmem s.heap (fun _ => Iff.rfl)⟩
  · rw [Nodes.addrs_append] at hnodup
    have hfrontNodup := hnodup.of_append_left
    have hprev : prev.1 ∉ Nodes.addrs init := by
      rw [Nodes.addrs_append] at hfrontNodup
      exact fun hmem => List.disjoint_of_nodup_append hfrontNodup hmem (by simp)
    obtain ⟨heap', hset, hmod, hchain⟩ := hfront.setNext hprev none
    refine ⟨⟨heap'.erase node.1, s.p_head, some prev.1⟩, ?_, ?_⟩
    · simp [hset, hfree heap' hmod.mem]
    · refine ⟨?_, (Nodes.last_concat init prev).symm, hchain.erase hnode, hfrontNodup,
        hmem heap' hmod.mem⟩
      rw [h.head, Nodes.first_append (init ++ [prev])]
      cases init <;> rfl

/-- The part before the removed element. -/
theorem unlinkPrev {t : LinkedList A D F} (elem : Cell A (Element D F)) {addr : A}
    {front : Nodes A (Element D F)} (hchain : Chain t.heap none (some addr) front)
    (hnodup : front.addrs.Nodup) (hprev : elem.prev = front.last)
    (hhead : t.p_head = front.first.or (some addr)) :
    ∃ t', t.unlinkPrev elem = some t' ∧ t.heap.Modifies t'.heap front.addrs ∧
      Chain t'.heap none elem.next front ∧ t'.p_head = front.first.or elem.next ∧
      t'.p_tail = t.p_tail := by
  rcases List.eq_nil_or_concat' front with rfl | ⟨init, prev, rfl⟩
  · refine ⟨{ t with p_head := elem.next }, ?_, Heap.Modifies.refl _ _, trivial, rfl, rfl⟩
    simp [LinkedList.unlinkPrev, hprev]
  · rw [Nodes.last_concat] at hprev
    have hnotin : prev.1 ∉ Nodes.addrs init := by
      rw [Nodes.addrs_append] at hnodup
      exact fun hmem => List.disjoint_of_nodup_append hnodup hmem (by simp)
    obtain ⟨heap', hset, hmod, hchain'⟩ := hchain.setNext hnotin elem.next
    refine ⟨{ t with heap := heap' }, ?_, hmod.mono (by simp), hchain', ?_, rfl⟩
    · simp [LinkedList.unlinkPrev, hprev, hset]
    · rw [hhead]
      cases init <;> rfl

/-- The part after the removed element. -/
theorem unlinkNext {t : LinkedList A D F} (elem : Cell A (Element D F)) {addr : A}
    {back : Nodes A (Element D F)} (hchain : Chain t.heap (some addr) none back)
    (hnodup : back.addrs.Nodup) (hnext : elem.next = back.first)
    (htail : t.p_tail = back.last.or (some addr)) :
    ∃ t', t.unlinkNext elem = some t' ∧ t.heap.Modifies t'.heap back.addrs ∧
      Chain t'.heap elem.prev none back ∧ t'.p_tail = back.last.or elem.prev ∧
      t'.p_head = t.p_head := by
  cases back with
  | nil =>
      refine ⟨{ t with p_tail := elem.prev }, ?_, Heap.Modifies.refl _ _, trivial, rfl, rfl⟩
      simp [LinkedList.unlinkNext, hnext]
  | cons next rest =>
      rw [Nodes.first_cons] at hnext
      obtain ⟨hnotin, -⟩ := List.nodup_cons.mp hnodup
      obtain ⟨heap', hset, hmod, hchain'⟩ := hchain.setPrev hnotin elem.prev
      refine ⟨{ t with heap := heap' }, ?_, hmod.mono (by simp), hchain', ?_, rfl⟩
      · simp [LinkedList.unlinkNext, hnext, hset]
      · obtain ⟨last, hlast⟩ := Option.ne_none_iff_exists'.mp
          (fun hnone => List.cons_ne_nil next rest (Nodes.last_eq_none.mp hnone))
        rw [htail, hlast, Option.some_or, Option.some_or]

theorem unlink {front back : Nodes A (Element D F)} {node : A × Element D F}
    (h : s.Represents (front ++ node :: back)) :
    ∃ s', s.unlink node.1 = some s' ∧ s'.Represents (front ++ back) := by
  obtain ⟨hfront, hcell, hback⟩ := chain_append.mp h.chain
  have hnodup := h.nodup
  rw [Nodes.addrs_append, Nodes.addrs_cons] at hnodup
  obtain ⟨hnode, hnodup'⟩ := List.nodup_cons.mp (List.nodup_middle.mp hnodup)
  have hdisj := List.disjoint_of_nodup_append hnodup'
  rw [List.mem_append, not_or] at hnode
  rw [Option.or_none, Option.or_none] at hcell
  obtain ⟨s₁, hs₁, hmod₁, hfront₁, hhead₁, htail₁⟩ :=
    unlinkPrev ⟨back.first, front.last, node.2⟩ hfront hnodup'.of_append_left rfl
      (by rw [h.head, Nodes.first_append]; rfl)
  have hcell₁ := (hmod₁.lookup node.1 hnode.1).trans hcell
  obtain ⟨s₂, hs₂, hmod₂, hback₂, htail₂, hhead₂⟩ :=
    unlinkNext ⟨back.first, front.last, node.2⟩ (hback.modifies hmod₁ hdisj.symm)
      hnodup'.of_append_right rfl (by
        rw [htail₁, h.tail, Nodes.last_append, ← List.singleton_append, Nodes.last_append]
        cases back.last <;> rfl)
  have hcell₂ := (hmod₂.lookup node.1 hnode.2).trans hcell₁
  have hset : s₂.heap.setNext node.1 none =
      some (s₂.heap.insert node.1 ⟨none, front.last, node.2⟩) :=
    Heap.setNext_of_lookup hcell₂ none
  have hset' : Heap.setPrev (s₂.heap.insert node.1 ⟨none, front.last, node.2⟩) node.1 none =
      some (s₂.heap.insert node.1 ⟨none, none, node.2⟩) := by
    rw [Heap.setPrev_of_lookup (Finmap.lookup_insert _), Finmap.insert_insert]
  have hsame (addr : A) : addr ∈ s₂.heap ↔ addr ∈ s.heap :=
    (hmod₂.mem addr).trans (hmod₁.mem addr)
  refine ⟨{ s₂ with heap := s₂.heap.erase node.1 }, ?_, ?_⟩
  · simp [LinkedList.unlink, hcell, hs₁, hcell₁, hs₂, hset, hset', Heap.free_insert]
  · constructor
    · exact (hhead₂.trans hhead₁).trans (Nodes.first_append front back).symm
    · exact htail₂.trans (Nodes.last_append front back).symm
    · rw [chain_append, Option.or_none, Option.or_none]
      exact ⟨(hfront₁.modifies hmod₂ hdisj).erase hnode.1, hback₂.erase hnode.2⟩
    · rwa [Nodes.addrs_append]
    · exact Nodes.mem_erase h.nodup (fun addr => (hsame addr).trans (h.mem addr))

/-- The loop of `linked_list_flush` in the middle of the list. The `prev` of the
first element that is left may be dangling. -/
theorem flushLoop {t : LinkedList A D F} {prev : Option A} {rest : Nodes A (Element D F)}
    (hhead : t.p_head = rest.first) (hchain : Chain t.heap prev none rest)
    (hnodup : rest.addrs.Nodup) (hmem : ∀ addr, addr ∈ t.heap ↔ addr ∈ rest.addrs)
    (calls : List (F × D)) :
    t.flushLoop rest.length calls =
      some (⟨∅, none, t.p_tail⟩, calls ++ rest.flatMap fun node => node.2.dealloc) := by
  induction rest generalizing t prev calls with
  | nil =>
      have hempty : t.heap = ∅ := by
        apply Finmap.ext_lookup
        intro addr
        rw [Finmap.lookup_empty, Finmap.lookup_eq_none, hmem]
        exact List.not_mem_nil
      rw [Nodes.first_nil] at hhead
      have hlist : t = ⟨∅, none, t.p_tail⟩ := by
        rw [← hempty, ← hhead]
      rw [LinkedList.flushLoop, hhead]
      simpa using hlist
  | cons node rest ih =>
      obtain ⟨hnode, hnodup'⟩ := List.nodup_cons.mp hnodup
      rw [Nodes.first_cons] at hhead
      have hfree : t.heap.free node.1 = some (t.heap.erase node.1) :=
        Heap.free_of_mem (Finmap.mem_of_lookup_eq_some hchain.1)
      have hmem' (addr : A) : addr ∈ t.heap.erase node.1 ↔ addr ∈ Nodes.addrs ([] ++ rest) :=
        Nodes.mem_erase hnodup hmem addr
      have hrest := ih (t := ⟨t.heap.erase node.1, Nodes.first rest, t.p_tail⟩) rfl
        (hchain.2.erase hnode) hnodup' hmem' (calls ++ node.2.dealloc)
      rw [List.length_cons, LinkedList.flushLoop, hhead]
      simp [hchain.1, hfree, hrest]

theorem flush (h : s.Represents nodes) :
    ∃ s', s.flush .valid = some (s', ⟨.success, none, nodes.flatMap fun node => node.2.dealloc⟩) ∧
      s'.Represents [] := by
  refine ⟨LinkedList.init, ?_, init⟩
  simp [LinkedList.flush, h.card, flushLoop h.head h.chain h.nodup h.mem, LinkedList.init]

/-- The loop of `linked_list_search` goes on past elements that it does not look
for. -/
theorem searchLoop_skip {equal : D → Bool} {skipped rest : Nodes A (Element D F)}
    {prev : Option A} (hchain : Chain s.heap prev none (skipped ++ rest))
    (hskipped : ∀ node ∈ skipped, equal node.2.data_ptr = false) (data_p : Ptr)
    (rm_if_found : Bool) (fuel : Nat) :
    s.searchLoop data_p equal rm_if_found (skipped.length + fuel)
        (Nodes.first (skipped ++ rest)) =
      s.searchLoop data_p equal rm_if_found fuel rest.first := by
  induction skipped generalizing prev with
  | nil => simp
  | cons node skipped ih =>
      have hnode := hskipped node List.mem_cons_self
      have hrest := ih hchain.2 fun other hother => hskipped other (List.mem_cons_of_mem _ hother)
      have hcell := hchain.1
      rw [List.cons_append, Nodes.first_cons, List.length_cons, Nat.add_right_comm, ← hrest,
        LinkedList.searchLoop]
      simp [hcell, hnode]

theorem search {q : Sequence A D F} (h : s.Represents q.nodes) (data_p : Ptr)
    (equal : Option D → D → Bool) (data_0 : Option D) (rm_if_found : Bool) :
    ∃ s', s.search .valid data_p (some equal) data_0 rm_if_found =
        some (s', (q.search .valid data_p (some equal) data_0 rm_if_found).2) ∧
      s'.Represents (q.search .valid data_p (some equal) data_0 rm_if_found).1.nodes := by
  by_cases hnil : q.nodes = []
  · refine ⟨s, ?_, ?_⟩
    · simp [LinkedList.search, Sequence.search, hnil, h.tail_eq_none.mpr hnil]
    · simpa [Sequence.search, hnil] using h
  have htail : s.p_tail ≠ none := fun hnone => hnil (h.tail_eq_none.mp hnone)
  simp only [LinkedList.search, Sequence.search, htail, hnil, reduceCtorEq, if_false, h.card,
    h.head]
  cases hfind : q.nodes.find? fun node => equal data_0 node.2.data_ptr with
  | none =>
      have hchain : Chain s.heap none none (q.nodes ++ []) := by simpa using h.chain
      have hskip := searchLoop_skip hchain (by simpa using hfind) data_p rm_if_found 0
      rw [List.append_nil, Nat.add_zero] at hskip
      refine ⟨s, ?_, h⟩
      rw [hskip, Nodes.first_nil, LinkedList.searchLoop]
  | some node =>
      obtain ⟨front, back, hnodes, hfront, hequal, herase⟩ := find_split hfind
      have hchain : Chain s.heap none none (front ++ node :: back) := hnodes ▸ h.chain
      obtain ⟨-, hcell, -⟩ := chain_append.mp hchain
      have hskip := searchLoop_skip hchain hfront data_p rm_if_found (back.length + 1)
      have hlength : q.nodes.length = front.length + (back.length + 1) := by simp [hnodes]
      rw [hlength, herase, hnodes, hskip, Nodes.first_cons, LinkedList.searchLoop]
      cases rm_if_found with
      | false => exact ⟨s, by simp [hcell, hequal], h⟩
      | true =>
          obtain ⟨s', hs', hrep⟩ := unlink (hnodes ▸ h)
          exact ⟨s', by simp [hcell, hequal, hs'], hrep⟩

variable {q : Sequence A D F}

theorem malloc (h : s.Represents nodes) (choice : Option A) :
    s.heap.malloc choice = choice.filter fun addr => addr ∉ nodes.addrs := by
  simp only [Heap.malloc, h.mem]

theorem call_add (h : s.Represents q.nodes) (list_data : Ptr) (data_obj : Option D)
    (dealloc : Option F) (choice : Option A) :
    ∃ s', s.add list_data data_obj dealloc choice =
        some (s', (q.add list_data data_obj dealloc choice).2) ∧
      s'.Represents (q.add list_data data_obj dealloc choice).1.nodes := by
  cases list_data with
  | null => exact ⟨s, rfl, h⟩
  | valid =>
      cases data_obj with
      | none => exact ⟨s, rfl, h⟩
      | some data_obj =>
          have hmalloc := h.malloc choice
          cases hchoice : choice.filter fun addr => addr ∉ q.nodes.addrs with
          | none =>
              have hadd : q.add .valid (some data_obj) dealloc choice =
                  (q, .error .failureGeneral) := by
                simp only [Sequence.add, reduceCtorEq, if_false, hchoice]
              rw [hchoice] at hmalloc
              rw [hadd]
              exact ⟨s, by simp [LinkedList.add, hmalloc], h⟩
          | some elem =>
              have hadd : q.add .valid (some data_obj) dealloc choice =
                  (⟨(elem, ⟨data_obj, dealloc⟩) :: q.nodes, q.gone⟩, ⟨.success, none, []⟩) := by
                simp only [Sequence.add, reduceCtorEq, if_false, hchoice]
              rw [hchoice] at hmalloc
              obtain ⟨rfl, hfresh⟩ := Heap.malloc_eq_some.mp hmalloc
              rw [hadd]
              exact h.add hfresh data_obj dealloc

theorem call_remove (h : s.Represents q.nodes) (list_data data_obj : Ptr) :
    ∃ s', s.remove list_data data_obj = some (s', (q.remove list_data data_obj).2) ∧
      s'.Represents (q.remove list_data data_obj).1.nodes := by
  cases list_data with
  | null => exact ⟨s, rfl, h⟩
  | valid =>
      cases data_obj with
      | null => exact ⟨s, rfl, h⟩
      | valid =>
          rcases List.eq_nil_or_concat' q.nodes with hnil | ⟨front, node, hnodes⟩
          · have htail := h.tail_eq_none.mpr hnil
            exact ⟨s, by simp [LinkedList.remove, Sequence.remove, htail, hnil],
              by simpa [Sequence.remove, hnil] using h⟩
          · obtain ⟨s', hs', hrep⟩ := remove (hnodes ▸ h)
            exact ⟨s', by simp [hs', Sequence.remove, hnodes],
              by simpa [Sequence.remove, hnodes] using hrep⟩

theorem call_flush (h : s.Represents q.nodes) (list_data : Ptr) :
    ∃ s', s.flush list_data = some (s', (q.flush list_data).2) ∧
      s'.Represents (q.flush list_data).1.nodes := by
  cases list_data with
  | null => exact ⟨s, rfl, h⟩
  | valid => exact h.flush

theorem call_search (h : s.Represents q.nodes) (list_data data_p : Ptr)
    (equal : Option (Option D → D → Bool)) (data_0 : Option D) (rm_if_found : Bool) :
    ∃ s', s.search list_data data_p equal data_0 rm_if_found =
        some (s', (q.search list_data data_p equal data_0 rm_if_found).2) ∧
      s'.Represents (q.search list_data data_p equal data_0 rm_if_found).1.nodes := by
  cases list_data with
  | null => exact ⟨s, rfl, h⟩
  | valid =>
      cases equal with
      | none => exact ⟨s, rfl, h⟩
      | some equal => exact h.search data_p equal data_0 rm_if_found

end LinkedList.Represents

/-- The list in memory does what the sequence does. -/
theorem LinkedList.refines_sequence {A D F : Type*} [DecidableEq A] :
    Refines (LinkedList.machine (A := A) (D := D) (F := F)) Sequence.machine
      fun s q => s.Represents q.nodes := by
  intro s q input h
  have hcall : ∃ s', s.call input = some (s', (q.call input).2) ∧
      s'.Represents (q.call input).1.nodes := by
    cases input with
    | add list_data data_obj dealloc malloc => exact h.call_add list_data data_obj dealloc malloc
    | remove list_data data_obj => exact h.call_remove list_data data_obj
    | search list_data data_p equal data_0 rm_if_found =>
        exact h.call_search list_data data_p equal data_0 rm_if_found
    | flush list_data => exact h.call_flush list_data
  obtain ⟨s', hs', hrep⟩ := hcall
  exact ⟨s', by simp [LinkedList.machine, hs', Sequence.machine], hrep⟩

end G2Common.Utils
