import G2Common.Utils.LinkedList
import Mathlib.Data.List.Perm.Basic

/-!
Who owns the data of a linked list. An element leaves the list handed out to the
caller, or is given to its deallocation function, or is dropped where it has
none, and it leaves only once.
-/

namespace G2Common.Utils

open DoublyLinked Transition

namespace LinkedList

variable {A D F : Type*}

/-- The element that a call added. -/
def Event.added : Event A D F → Option (Element D F)
  | ⟨.add _ (some data_obj) dealloc _, ⟨.success, _, _⟩⟩ => some ⟨data_obj, dealloc⟩
  | _ => none

/-- The data of an element that a call removed and handed out. -/
def Event.handedOut : Event A D F → Option D
  | ⟨.remove _ _, output⟩ => output.data.join
  | ⟨.search _ _ _ _ true, output⟩ => output.data.join
  | _ => none

/-- How often this object was added. -/
def timesAdded [DecidableEq D] (log : List (Event A D F)) (data : D) : Nat :=
  (log.filterMap Event.added).countP fun elem => elem.data_ptr = data

/-- How often an element with this object was removed and handed out. -/
def timesHandedOut [DecidableEq D] (log : List (Event A D F)) (data : D) : Nat :=
  (log.filterMap Event.handedOut).count data

/-- How often a deallocation function was called with this object. -/
def timesDealloced [DecidableEq D] (log : List (Event A D F)) (data : D) : Nat :=
  (log.flatMap fun event => event.output.calls).countP fun call => call.2 = data

/-- An initialised list after these calls. -/
def after [DecidableEq A] (inputs : List (Input A D F)) :
    Traced (Option (LinkedList A D F)) (Event A D F) :=
  run (Traced.attempt machine) ⟨some init, []⟩ inputs

end LinkedList

open LinkedList (Event Input)

variable {A D F : Type*}

theorem filterMap_concat {β γ : Type*} (f : β → Option γ) (log : List β) (event : β) :
    (log ++ [event]).filterMap f = log.filterMap f ++ (f event).toList := by
  cases h : f event <;> simp [h]

/-- The data of an element that was handed out. -/
def handedOut : Element D F × Fate → Option D
  | (elem, .handedOut) => some elem.data_ptr
  | _ => none

/-- The call that an element was deallocated by. -/
def dealloced : Element D F × Fate → List (F × D)
  | (elem, .dealloced) => elem.dealloc
  | _ => []

@[simp] theorem handedOut_fate (elem : Element D F) :
    handedOut (elem, elem.fate) = none := by
  cases h : elem.dealloc_func <;> simp [Element.fate, h, handedOut]

@[simp] theorem dealloced_fate (elem : Element D F) :
    dealloced (elem, elem.fate) = elem.dealloc := by
  cases h : elem.dealloc_func <;> simp [Element.fate, h, dealloced, Element.dealloc]

section Released

variable (nodes : Nodes A (Element D F))

theorem released_fst :
    (nodes.reverse.map fun node => (node.2, node.2.fate)).map Prod.fst =
      (nodes.map Prod.snd).reverse := by
  simp

theorem released_handedOut :
    (nodes.reverse.map fun node => (node.2, node.2.fate)).filterMap handedOut = [] := by
  simp [List.filterMap_map]

theorem released_dealloced :
    (nodes.flatMap fun node => node.2.dealloc).Perm
      ((nodes.reverse.map fun node => (node.2, node.2.fate)).flatMap dealloced) := by
  rw [List.flatMap_map]
  simp only [dealloced_fate]
  exact (List.reverse_perm nodes).symm.flatMap_right _

theorem released_fate :
    ∀ entry ∈ nodes.reverse.map fun node => (node.2, node.2.fate),
      entry.2 = .handedOut ∨ entry.2 = entry.1.fate := by
  intro entry hentry
  obtain ⟨node, -, rfl⟩ := List.mem_map.mp hentry
  exact .inr rfl

end Released

namespace Sequence

/-- The sequence after these calls. -/
def after [DecidableEq A] (inputs : List (Input A D F)) :
    Traced (Sequence A D F) (Event A D F) :=
  run (Traced.emit machine) ⟨init, []⟩ inputs

/-- How often this object is in the sequence. -/
def timesHeld [DecidableEq D] (q : Sequence A D F) (data : D) : Nat :=
  q.nodes.countP fun node => node.2.data_ptr = data

/-- The elements with this object that were dropped. -/
def dropped [DecidableEq D] (q : Sequence A D F) (data : D) : List (Element D F) :=
  (q.gone.filter fun entry => entry.2 = .dropped ∧ entry.1.data_ptr = data).map Prod.fst

/-- What a call does to the elements: `left` leave the sequence. -/
structure Moves (q : Sequence A D F) (event : Event A D F) (q' : Sequence A D F)
    (left : List (Element D F × Fate)) : Prop where
  gone : q'.gone = q.gone ++ left
  kept : (event.added.toList ++ q.nodes.map Prod.snd).Perm
    (q'.nodes.map Prod.snd ++ left.map Prod.fst)
  handedOut : event.handedOut.toList = left.filterMap handedOut
  dealloced : event.output.calls.Perm (left.flatMap dealloced)
  fate : ∀ entry ∈ left, entry.2 = .handedOut ∨ entry.2 = entry.1.fate

theorem moves_nothing {q : Sequence A D F} {event : Event A D F} (hadded : event.added = none)
    (hout : event.handedOut = none) (hcalls : event.output.calls = []) :
    Moves q event q [] where
  gone := (List.append_nil _).symm
  kept := by simp [hadded]
  handedOut := by simp [hout]
  dealloced := by simp [hcalls]
  fate := by simp

theorem add_moves [DecidableEq A] (q : Sequence A D F) (list_data : Ptr) (data_obj : Option D)
    (dealloc : Option F) (malloc : Option A) :
    Moves q ⟨.add list_data data_obj dealloc malloc, (q.add list_data data_obj dealloc malloc).2⟩
      (q.add list_data data_obj dealloc malloc).1 [] := by
  cases list_data with
  | null => cases data_obj <;> exact moves_nothing rfl rfl rfl
  | valid =>
      cases data_obj with
      | none => exact moves_nothing rfl rfl rfl
      | some data_obj =>
          simp only [add, reduceCtorEq, if_false]
          split
          · exact moves_nothing rfl rfl rfl
          · constructor <;> simp [Event.added, Event.handedOut]

theorem remove_moves (q : Sequence A D F) (list_data data_obj : Ptr) :
    ∃ left, Moves q ⟨.remove list_data data_obj, (q.remove list_data data_obj).2⟩
      (q.remove list_data data_obj).1 left := by
  cases list_data with
  | null => exact ⟨[], moves_nothing rfl rfl rfl⟩
  | valid =>
      cases data_obj with
      | null => exact ⟨[], moves_nothing rfl rfl rfl⟩
      | valid =>
          rcases List.eq_nil_or_concat' q.nodes with hnil | ⟨front, node, hnodes⟩
          · refine ⟨[], ?_⟩
            simp only [remove, reduceCtorEq, if_false, hnil, List.getLast?_nil]
            exact moves_nothing rfl rfl rfl
          · refine ⟨[(node.2, .handedOut)], ?_⟩
            simp only [remove, reduceCtorEq, if_false, hnodes, List.getLast?_concat,
              List.dropLast_concat]
            constructor <;>
              simp [Event.added, Event.handedOut, Utils.handedOut, Utils.dealloced, hnodes]

theorem flush_moves (q : Sequence A D F) (list_data : Ptr) :
    ∃ left, Moves q ⟨.flush list_data, (q.flush list_data).2⟩ (q.flush list_data).1 left := by
  cases list_data with
  | null => exact ⟨[], moves_nothing rfl rfl rfl⟩
  | valid =>
      refine ⟨q.nodes.reverse.map fun node => (node.2, node.2.fate), ?_⟩
      constructor
      · rfl
      · rw [released_fst]
        exact (List.reverse_perm _).symm
      · exact (released_handedOut q.nodes).symm
      · exact released_dealloced q.nodes
      · exact released_fate q.nodes

theorem search_moves (q : Sequence A D F) (list_data data_p : Ptr)
    (equal : Option (Option D → D → Bool)) (data_0 : Option D) (rm_if_found : Bool) :
    ∃ left, Moves q
      ⟨.search list_data data_p equal data_0 rm_if_found,
        (q.search list_data data_p equal data_0 rm_if_found).2⟩
      (q.search list_data data_p equal data_0 rm_if_found).1 left := by
  cases list_data with
  | null => cases rm_if_found <;> exact ⟨[], moves_nothing rfl rfl rfl⟩
  | valid =>
      cases equal with
      | none => cases rm_if_found <;> exact ⟨[], moves_nothing rfl rfl rfl⟩
      | some equal =>
          simp only [search, reduceCtorEq, if_false]
          split
          · cases rm_if_found <;> exact ⟨[], moves_nothing rfl rfl rfl⟩
          · split
            · cases rm_if_found <;> cases data_p <;> exact ⟨[], moves_nothing rfl rfl rfl⟩
            · rename_i node hfind
              cases rm_if_found with
              | false => cases data_p <;> exact ⟨[], moves_nothing rfl rfl rfl⟩
              | true =>
                  obtain ⟨front, back, hnodes, -, -, herase⟩ := find_split hfind
                  rw [herase]
                  have hperm : (q.nodes.map Prod.snd).Perm
                      ((front ++ back).map Prod.snd ++ [node.2]) := by
                    rw [hnodes]
                    simpa using List.perm_middle.trans (List.perm_append_singleton _ _).symm
                  cases data_p with
                  | null =>
                      refine ⟨[(node.2, node.2.fate)], rfl, hperm, ?_, ?_, ?_⟩ <;>
                        simp [Event.handedOut]
                  | valid =>
                      refine ⟨[(node.2, .handedOut)], rfl, hperm, ?_, ?_, ?_⟩ <;>
                        simp [Event.handedOut, Utils.handedOut, Utils.dealloced]

theorem machine_moves [DecidableEq A] (q : Sequence A D F) (input : Input A D F) :
    ∃ left, Moves q (q.machine input).2 (q.machine input).1 left := by
  cases input with
  | add list_data data_obj dealloc malloc =>
      exact ⟨[], q.add_moves list_data data_obj dealloc malloc⟩
  | remove list_data data_obj => exact q.remove_moves list_data data_obj
  | search list_data data_p equal data_0 rm_if_found =>
      exact q.search_moves list_data data_p equal data_0 rm_if_found
  | flush list_data => exact q.flush_moves list_data

/-- Everything that was added is in the sequence or gone, and went in one way. -/
structure Accounts (t : Traced (Sequence A D F) (Event A D F)) : Prop where
  added : (t.log.filterMap Event.added).Perm
    (t.state.nodes.map Prod.snd ++ t.state.gone.map Prod.fst)
  handedOut : t.log.filterMap Event.handedOut = t.state.gone.filterMap handedOut
  dealloced : (t.log.flatMap fun event => event.output.calls).Perm
    (t.state.gone.flatMap dealloced)
  fate : ∀ entry ∈ t.state.gone, entry.2 = .handedOut ∨ entry.2 = entry.1.fate

theorem accounts_step [DecidableEq A] (t : Traced (Sequence A D F) (Event A D F))
    (input : Input A D F) (h : Accounts t) : Accounts (Traced.emit machine t input) := by
  obtain ⟨left, hmoves⟩ := t.state.machine_moves input
  constructor <;> simp only [Traced.emit, hmoves.gone]
  · rw [filterMap_concat, List.map_append]
    calc t.log.filterMap Event.added ++ (t.state.machine input).2.added.toList
      _ |>.Perm ((t.state.machine input).2.added.toList ++ t.log.filterMap Event.added) :=
          List.perm_append_comm
      _ |>.Perm ((t.state.machine input).2.added.toList ++
            (t.state.nodes.map Prod.snd ++ t.state.gone.map Prod.fst)) :=
          h.added.append_left _
      _ |>.Perm (((t.state.machine input).1.nodes.map Prod.snd ++ left.map Prod.fst) ++
            t.state.gone.map Prod.fst) := by
          rw [← List.append_assoc]
          exact hmoves.kept.append_right _
      _ |>.Perm ((t.state.machine input).1.nodes.map Prod.snd ++
            (t.state.gone.map Prod.fst ++ left.map Prod.fst)) := by
          rw [List.append_assoc]
          exact List.perm_append_comm.append_left _
  · rw [filterMap_concat, List.filterMap_append, h.handedOut, hmoves.handedOut]
  · rw [List.flatMap_append, List.flatMap_append, List.flatMap_singleton]
    exact h.dealloced.append hmoves.dealloced
  · intro entry hentry
    rcases List.mem_append.mp hentry with hgone | hleft
    · exact h.fate entry hgone
    · exact hmoves.fate entry hleft

theorem accounts [DecidableEq A] (inputs : List (Input A D F)) : Accounts (after inputs) := by
  apply run_invariant_all accounts_step
  constructor <;> simp [init]

theorem countP_entry [DecidableEq D] {entry : Element D F × Fate}
    (hfate : entry.2 = .handedOut ∨ entry.2 = entry.1.fate) (data : D) :
    [entry].countP (fun entry => entry.1.data_ptr = data) =
      ([entry].filterMap handedOut).count data +
        ([entry].flatMap dealloced).countP (fun call => call.2 = data) +
        ([entry].filter fun entry => entry.2 = .dropped ∧ entry.1.data_ptr = data).length := by
  obtain ⟨elem, fate⟩ := entry
  rcases hfate with hout | hown
  · obtain rfl : fate = .handedOut := hout
    by_cases hdata : elem.data_ptr = data <;> simp [handedOut, dealloced, hdata]
  · obtain rfl : fate = elem.fate := hown
    cases hdealloc : elem.dealloc_func <;> by_cases hdata : elem.data_ptr = data <;>
      simp [Element.fate, Element.dealloc, hdealloc, handedOut, dealloced, hdata,
        List.filterMap_cons]

/-- What is gone went in exactly one way. -/
theorem countP_gone [DecidableEq D] {gone : List (Element D F × Fate)}
    (hfate : ∀ entry ∈ gone, entry.2 = .handedOut ∨ entry.2 = entry.1.fate) (data : D) :
    gone.countP (fun entry => entry.1.data_ptr = data) =
      (gone.filterMap handedOut).count data +
        (gone.flatMap dealloced).countP (fun call => call.2 = data) +
        (gone.filter fun entry => entry.2 = .dropped ∧ entry.1.data_ptr = data).length := by
  induction gone with
  | nil => rfl
  | cons entry gone ih =>
      have hentry := countP_entry (hfate entry List.mem_cons_self) data
      have hrest := ih fun other hother => hfate other (List.mem_cons_of_mem _ hother)
      rw [← List.singleton_append, List.countP_append, List.filterMap_append, List.count_append,
        List.flatMap_append, List.countP_append, List.filter_append, List.length_append]
      omega

theorem accounts_count [DecidableEq D] {t : Traced (Sequence A D F) (Event A D F)}
    (h : Accounts t) (data : D) :
    LinkedList.timesAdded t.log data =
      t.state.timesHeld data + LinkedList.timesHandedOut t.log data +
        LinkedList.timesDealloced t.log data + (t.state.dropped data).length := by
  have hgone := countP_gone h.fate data
  rw [LinkedList.timesAdded, h.added.countP_eq, List.countP_append, List.countP_map,
    List.countP_map]
  rw [LinkedList.timesHandedOut, h.handedOut, LinkedList.timesDealloced, h.dealloced.countP_eq,
    timesHeld, dropped, List.length_map]
  simp only [Function.comp_def]
  omega

theorem dropped_dealloc [DecidableEq D] {t : Traced (Sequence A D F) (Event A D F)}
    (h : Accounts t) (data : D) : ∀ elem ∈ t.state.dropped data, elem.dealloc_func = none := by
  intro elem helem
  obtain ⟨entry, hentry, rfl⟩ := List.mem_map.mp helem
  obtain ⟨hgone, hdropped⟩ := List.mem_filter.mp hentry
  obtain ⟨hfate, -⟩ := of_decide_eq_true hdropped
  rcases h.fate entry hgone with hout | hown
  · rw [hout] at hfate
    cases hfate
  · cases hdealloc : entry.1.dealloc_func with
    | none => rfl
    | some func =>
        rw [hown] at hfate
        simp [Element.fate, hdealloc] at hfate

end Sequence

/-- The list in memory is never corrupted and stands for the sequence, and each
object that was added is in the list, or was handed out, or was deallocated, or
was dropped for want of a deallocation function, and only one of these. -/
theorem linked_list_refines [DecidableEq A] [DecidableEq D] (inputs : List (Input A D F)) :
    ∃ s : LinkedList A D F,
      LinkedList.after inputs = ⟨some s, (Sequence.after inputs).log⟩ ∧
      s.Represents (Sequence.after inputs).state.nodes ∧
      (s.p_head = none ↔ s.p_tail = none) ∧
      ∀ data,
        LinkedList.timesAdded (Sequence.after inputs).log data =
          (Sequence.after inputs).state.timesHeld data +
            LinkedList.timesHandedOut (Sequence.after inputs).log data +
            LinkedList.timesDealloced (Sequence.after inputs).log data +
            ((Sequence.after inputs).state.dropped data).length ∧
        ∀ elem ∈ (Sequence.after inputs).state.dropped data, elem.dealloc_func = none := by
  have hinit : (LinkedList.init : LinkedList A D F).Represents
      (Sequence.init : Sequence A D F).nodes := LinkedList.Represents.init
  obtain ⟨s, hlog, hrep⟩ := LinkedList.refines_sequence.run hinit [] inputs
  have haccounts := Sequence.accounts inputs
  refine ⟨s, hlog, hrep, hrep.head_eq_none.trans hrep.tail_eq_none.symm, ?_⟩
  intro data
  exact ⟨Sequence.accounts_count haccounts data, Sequence.dropped_dealloc haccounts data⟩

/-- An object that was added without a deallocation function is nowhere after a
flush; and what a search has only returned is deallocated later. -/
theorem object_dropped :
    let dropped : Traced (Option (LinkedList Nat Nat Nat)) (Event Nat Nat Nat) :=
      LinkedList.after [.add .valid (some 5) none (some 0), .flush .valid]
    let returned : Traced (Option (LinkedList Nat Nat Nat)) (Event Nat Nat Nat) :=
      LinkedList.after [.add .valid (some 5) (some 9) (some 0),
        .search .valid .valid (some fun data_0 data => data_0 == some data) (some 5) false,
        .flush .valid]
    (dropped.state.map (·.empty) = some true ∧ LinkedList.timesAdded dropped.log 5 = 1 ∧
      LinkedList.timesHandedOut dropped.log 5 = 0 ∧ LinkedList.timesDealloced dropped.log 5 = 0) ∧
    returned.log.map (·.output) =
      [⟨.success, none, []⟩, ⟨.success, some (some 5), []⟩, ⟨.success, none, [(9, 5)]⟩] := by
  decide

end G2Common.Utils
