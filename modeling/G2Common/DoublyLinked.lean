import Mathlib.Data.Finmap
import Mathlib.Data.List.Nodup

/-!
Doubly linked cells in a finite memory. A null pointer is `none`, and so is the
result of an access to an address that is not allocated. `Chain` says that cells
in memory are linked one after the other; the rules say what an assignment to a
`next` or `prev` at the end of a chain makes of it.
-/

namespace G2Common.DoublyLinked

variable {α ν : Type*}

structure Cell (α ν : Type*) where
  next : Option α
  prev : Option α
  value : ν
  deriving DecidableEq, Repr

/-- The cells that are allocated. -/
abbrev Heap (α ν : Type*) := Finmap fun _ : α => Cell α ν

/-- Cells in the order of the list, each with its address. -/
abbrev Nodes (α ν : Type*) := List (α × ν)

def Nodes.addrs (nodes : Nodes α ν) : List α := nodes.map Prod.fst

def Nodes.first (nodes : Nodes α ν) : Option α := nodes.head?.map Prod.fst

def Nodes.last (nodes : Nodes α ν) : Option α := nodes.getLast?.map Prod.fst

@[simp] theorem Nodes.addrs_nil : Nodes.addrs ([] : Nodes α ν) = [] := rfl

@[simp] theorem Nodes.addrs_cons (node : α × ν) (rest : Nodes α ν) :
    Nodes.addrs (node :: rest) = node.1 :: Nodes.addrs rest := rfl

@[simp] theorem Nodes.addrs_append (front back : Nodes α ν) :
    Nodes.addrs (front ++ back) = Nodes.addrs front ++ Nodes.addrs back := List.map_append

@[simp] theorem Nodes.first_nil : Nodes.first ([] : Nodes α ν) = none := rfl

@[simp] theorem Nodes.first_cons (node : α × ν) (rest : Nodes α ν) :
    Nodes.first (node :: rest) = some node.1 := rfl

@[simp] theorem Nodes.last_nil : Nodes.last ([] : Nodes α ν) = none := rfl

@[simp] theorem Nodes.last_concat (front : Nodes α ν) (node : α × ν) :
    Nodes.last (front ++ [node]) = some node.1 := by
  simp [Nodes.last]

@[simp] theorem Nodes.last_cons_cons (node second : α × ν) (rest : Nodes α ν) :
    Nodes.last (node :: second :: rest) = Nodes.last (second :: rest) := by
  rw [Nodes.last, Nodes.last, List.getLast?_cons_cons]

theorem Nodes.first_append (front back : Nodes α ν) :
    Nodes.first (front ++ back) = (Nodes.first front).or (Nodes.first back) := by
  cases front <;> rfl

theorem Nodes.last_append (front back : Nodes α ν) :
    Nodes.last (front ++ back) = (Nodes.last back).or (Nodes.last front) := by
  simp [Nodes.last, List.getLast?_append, Option.map_or]

theorem Nodes.first_eq_none {nodes : Nodes α ν} : Nodes.first nodes = none ↔ nodes = [] := by
  simp [Nodes.first]

theorem Nodes.last_eq_none {nodes : Nodes α ν} : Nodes.last nodes = none ↔ nodes = [] := by
  simp [Nodes.last]

section Memory

variable [DecidableEq α]

namespace Heap

/-- The allocator's choice, which is null or an address that is not in use. -/
def malloc (heap : Heap α ν) (choice : Option α) : Option α :=
  choice.filter fun addr => addr ∉ heap

def free (heap : Heap α ν) (addr : α) : Option (Heap α ν) :=
  if addr ∈ heap then some (heap.erase addr) else none

def setNext (heap : Heap α ν) (addr : α) (next : Option α) : Option (Heap α ν) :=
  (heap.lookup addr).map fun cell => heap.insert addr { cell with next }

def setPrev (heap : Heap α ν) (addr : α) (prev : Option α) : Option (Heap α ν) :=
  (heap.lookup addr).map fun cell => heap.insert addr { cell with prev }

theorem malloc_eq_some {heap : Heap α ν} {choice : Option α} {addr : α} :
    heap.malloc choice = some addr ↔ choice = some addr ∧ addr ∉ heap := by
  simp [malloc, Option.filter_eq_some_iff]

theorem free_of_mem {heap : Heap α ν} {addr : α} (h : addr ∈ heap) :
    heap.free addr = some (heap.erase addr) := if_pos h

theorem free_insert (heap : Heap α ν) (addr : α) (cell : Cell α ν) :
    Heap.free (heap.insert addr cell) addr = some (heap.erase addr) := by
  rw [free_of_mem (Finmap.mem_insert.mpr (.inl rfl)), Option.some_inj]
  apply Finmap.ext_lookup
  intro other
  by_cases hother : other = addr
  · rw [hother, Finmap.lookup_erase, Finmap.lookup_erase]
  · rw [Finmap.lookup_erase_ne hother, Finmap.lookup_erase_ne hother,
      Finmap.lookup_insert_of_ne _ hother]

theorem setNext_of_lookup {heap : Heap α ν} {addr : α} {cell : Cell α ν}
    (h : heap.lookup addr = some cell) (next : Option α) :
    heap.setNext addr next = some (heap.insert addr { cell with next }) := by
  simp [setNext, h]

theorem setPrev_of_lookup {heap : Heap α ν} {addr : α} {cell : Cell α ν}
    (h : heap.lookup addr = some cell) (prev : Option α) :
    heap.setPrev addr prev = some (heap.insert addr { cell with prev }) := by
  simp [setPrev, h]

/-- An assignment changes cells at these addresses, and allocates and frees none. -/
structure Modifies (heap heap' : Heap α ν) (addrs : List α) : Prop where
  lookup : ∀ addr ∉ addrs, heap'.lookup addr = heap.lookup addr
  mem : ∀ addr, addr ∈ heap' ↔ addr ∈ heap

theorem modifies_insert {heap : Heap α ν} {addr : α} {cell : Cell α ν}
    (h : heap.lookup addr = some cell) (cell' : Cell α ν) :
    heap.Modifies (heap.insert addr cell') [addr] where
  lookup other hother :=
    Finmap.lookup_insert_of_ne _ (fun heq => hother (heq ▸ List.mem_singleton_self _))
  mem other := by
    rw [Finmap.mem_insert]
    constructor
    · rintro (rfl | hother)
      · exact Finmap.mem_of_lookup_eq_some h
      · exact hother
    · exact .inr

theorem Modifies.refl (heap : Heap α ν) (addrs : List α) : heap.Modifies heap addrs where
  lookup _ _ := rfl
  mem _ := Iff.rfl

theorem Modifies.mono {heap heap' : Heap α ν} {addrs addrs' : List α}
    (h : heap.Modifies heap' addrs) (hsub : addrs ⊆ addrs') : heap.Modifies heap' addrs' where
  lookup addr haddr := h.lookup addr (fun hmem => haddr (hsub hmem))
  mem := h.mem

end Heap

/-- Memory after a cell of the list is freed, if it held the cells of the list. -/
theorem Nodes.mem_erase {heap : Heap α ν} {front back : Nodes α ν} {node : α × ν}
    (hnodup : (Nodes.addrs (front ++ node :: back)).Nodup)
    (hmem : ∀ addr, addr ∈ heap ↔ addr ∈ Nodes.addrs (front ++ node :: back)) (addr : α) :
    addr ∈ heap.erase node.1 ↔ addr ∈ Nodes.addrs (front ++ back) := by
  simp only [Nodes.addrs_append, Nodes.addrs_cons] at hnodup hmem ⊢
  obtain ⟨hnode, -⟩ := List.nodup_cons.mp (List.nodup_middle.mp hnodup)
  rw [Finmap.mem_erase, hmem]
  constructor
  · rintro ⟨hne, haddr⟩
    simpa [hne] using haddr
  · intro haddr
    refine ⟨ne_of_mem_of_not_mem haddr hnode, ?_⟩
    rcases List.mem_append.mp haddr with hfront | hback
    · exact List.mem_append_left _ hfront
    · exact List.mem_append_right _ (List.mem_cons_of_mem _ hback)

end Memory

/-- The nodes are linked in memory. The first one's `prev` is `prev`, and the
last one's `next` is `next`. -/
def Chain [DecidableEq α] (heap : Heap α ν) : Option α → Option α → Nodes α ν → Prop
  | _, _, [] => True
  | prev, next, node :: rest =>
      heap.lookup node.1 = some ⟨(Nodes.first rest).or next, prev, node.2⟩ ∧
        Chain heap (some node.1) next rest

section Chain

variable [DecidableEq α] {heap heap' : Heap α ν} {prev next : Option α} {nodes : Nodes α ν}

@[simp] theorem chain_nil : Chain heap prev next ([] : Nodes α ν) := trivial

@[simp] theorem chain_cons {node : α × ν} {rest : Nodes α ν} :
    Chain heap prev next (node :: rest) ↔
      heap.lookup node.1 = some ⟨(Nodes.first rest).or next, prev, node.2⟩ ∧
        Chain heap (some node.1) next rest := Iff.rfl

theorem chain_append {front back : Nodes α ν} :
    Chain heap prev next (front ++ back) ↔
      Chain heap prev ((Nodes.first back).or next) front ∧
        Chain heap ((Nodes.last front).or prev) next back := by
  induction front generalizing prev with
  | nil => simp
  | cons node rest ih =>
      have hlast : (Nodes.last (node :: rest)).or prev = (Nodes.last rest).or (some node.1) := by
        rw [← List.singleton_append, Nodes.last_append]
        cases Nodes.last rest <;> rfl
      rw [List.cons_append, chain_cons, chain_cons, ih, hlast, Nodes.first_append, Option.or_assoc,
        and_assoc]

/-- A chain does not depend on memory outside its cells. -/
theorem Chain.frame (h : Chain heap prev next nodes)
    (hsame : ∀ addr ∈ Nodes.addrs nodes, heap'.lookup addr = heap.lookup addr) :
    Chain heap' prev next nodes := by
  induction nodes generalizing prev with
  | nil => trivial
  | cons node rest ih =>
      refine ⟨(hsame _ List.mem_cons_self).trans h.1, ih h.2 ?_⟩
      intro addr haddr
      exact hsame addr (List.mem_cons_of_mem _ haddr)

theorem Chain.modifies (h : Chain heap prev next nodes) {addrs : List α}
    (hmod : heap.Modifies heap' addrs) (hdisj : (Nodes.addrs nodes).Disjoint addrs) :
    Chain heap' prev next nodes :=
  h.frame fun addr haddr => hmod.lookup addr (hdisj haddr)

theorem Chain.insert (h : Chain heap prev next nodes) {addr : α}
    (haddr : addr ∉ Nodes.addrs nodes) (cell : Cell α ν) :
    Chain (heap.insert addr cell) prev next nodes := by
  apply h.frame
  intro other hother
  exact Finmap.lookup_insert_of_ne _ (ne_of_mem_of_not_mem hother haddr)

theorem Chain.erase (h : Chain heap prev next nodes) {addr : α}
    (haddr : addr ∉ Nodes.addrs nodes) : Chain (heap.erase addr) prev next nodes := by
  apply h.frame
  intro other hother
  exact Finmap.lookup_erase_ne (ne_of_mem_of_not_mem hother haddr)

/-- An assignment to the `next` of the last cell. -/
theorem Chain.setNext {front : Nodes α ν} {node : α × ν}
    (h : Chain heap prev next (front ++ [node])) (hnode : node.1 ∉ Nodes.addrs front)
    (next' : Option α) :
    ∃ heap', heap.setNext node.1 next' = some heap' ∧ heap.Modifies heap' [node.1] ∧
      Chain heap' prev next' (front ++ [node]) := by
  obtain ⟨hfront, hcell, -⟩ := chain_append.mp h
  refine ⟨_, Heap.setNext_of_lookup hcell next', Heap.modifies_insert hcell _, ?_⟩
  refine chain_append.mpr ⟨hfront.insert hnode _, ?_⟩
  simp [Finmap.lookup_insert]

/-- An assignment to the `prev` of the first cell. -/
theorem Chain.setPrev {rest : Nodes α ν} {node : α × ν}
    (h : Chain heap prev next (node :: rest)) (hnode : node.1 ∉ Nodes.addrs rest)
    (prev' : Option α) :
    ∃ heap', heap.setPrev node.1 prev' = some heap' ∧ heap.Modifies heap' [node.1] ∧
      Chain heap' prev' next (node :: rest) := by
  refine ⟨_, Heap.setPrev_of_lookup h.1 prev', Heap.modifies_insert h.1 _, ?_⟩
  exact ⟨Finmap.lookup_insert _, h.2.insert hnode _⟩

end Chain

end G2Common.DoublyLinked
