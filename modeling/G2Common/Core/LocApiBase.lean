import G2Common.Transition
import Mathlib.Data.Finset.Card
import Mathlib.Data.Finset.Fold
import Mathlib.Data.List.Nodup

/-!
The adapters of `LocApiBase.cpp`: a table of pointers with the adapters first and
`NULL` after them, and what a change of it asks of the engine.
-/

namespace G2Common.Core

open Transition

def MAX_ADAPTERS : Nat := 10

/-- `mLocAdapters` is the array, where `none` is `NULL`. -/
structure LocApiBase (A : Type*) where
  mExcludedMask : UInt32
  mLocAdapters : List (Option A)

namespace LocApiBase

variable {A : Type*}

/-- A message for the engine, or the call that closes it. -/
inductive Call where
  | locOpenMsg (mask : UInt32)
  | close
  deriving DecidableEq, Repr

/-- `mLocAdapters[i]`. -/
def slot (mLocAdapters : List (Option A)) (i : Nat) : Option A := mLocAdapters[i]?.join

/-- The adapters for which `TO_ALL_ADAPTERS` makes its call, in this order. -/
def toAllAdapters : List (Option A) → List A
  | some adapter :: rest => adapter :: toAllAdapters rest
  | _ => []

/-- The constructor. -/
def init (mExcludedMask : UInt32) : LocApiBase A :=
  ⟨mExcludedMask, List.replicate MAX_ADAPTERS none⟩

/-- `LocApiBase::getEvtMask`, where `evtMask` has what each adapter returns. -/
def getEvtMask (s : LocApiBase A) (evtMask : A → UInt32) : UInt32 :=
  (toAllAdapters s.mLocAdapters).foldl (fun mask adapter => mask ||| evtMask adapter) 0 &&&
    ~~~ s.mExcludedMask

section Calls

variable [DecidableEq A]

/-- The loop of `addAdapter`, and whether it sends a message. -/
def addLoop (adapter : A) : List (Option A) → List (Option A) × Bool
  | [] => ([], false)
  | entry :: rest =>
      if entry = some adapter then (entry :: rest, false)
      else if entry = none then (some adapter :: rest, true)
      else (entry :: (addLoop adapter rest).1, (addLoop adapter rest).2)

/-- `LocApiBase::addAdapter`. -/
def addAdapter (s : LocApiBase A) (adapter : A) (evtMask : A → UInt32) :
    LocApiBase A × List Call :=
  let result := addLoop adapter s.mLocAdapters
  ({ s with mLocAdapters := result.1 },
    if result.2 then [.locOpenMsg (evtMask adapter)] else [])

/-- `while (++i < MAX_ADAPTERS && mLocAdapters[i] != NULL);`, with the turns that it
has left. -/
def whileAdapter (mLocAdapters : List (Option A)) : Nat → Nat → Nat
  | 0, i => i
  | turns + 1, i =>
      if i + 1 < MAX_ADAPTERS ∧ slot mLocAdapters (i + 1) ≠ none
      then whileAdapter mLocAdapters turns (i + 1)
      else i + 1

/-- The loop of `removeAdapter` from `i` on. Each turn increases `i`, so it has
`MAX_ADAPTERS` turns at most. -/
def removeLoop (adapter : A) (evtMask : A → UInt32) :
    Nat → LocApiBase A → Nat → LocApiBase A × List Call
  | 0, s, _ => (s, [])
  | turns + 1, s, i =>
      if i < MAX_ADAPTERS ∧ slot s.mLocAdapters i ≠ none then
        if slot s.mLocAdapters i = some adapter then
          let mLocAdapters := s.mLocAdapters.set i none
          let j := i
          let i := whileAdapter mLocAdapters MAX_ADAPTERS i - 1
          let mLocAdapters := mLocAdapters.set j (slot mLocAdapters i)
          let s := { s with mLocAdapters := mLocAdapters.set i none }
          let calls := if i = 0 then [.close] else [.locOpenMsg (s.getEvtMask evtMask)]
          let result := removeLoop adapter evtMask turns s (i + 1)
          (result.1, calls ++ result.2)
        else removeLoop adapter evtMask turns s (i + 1)
      else (s, [])

/-- `LocApiBase::removeAdapter`. -/
def removeAdapter (s : LocApiBase A) (adapter : A) (evtMask : A → UInt32) :
    LocApiBase A × List Call :=
  removeLoop adapter evtMask MAX_ADAPTERS s 0

/-- The calls, with the event masks that the adapters have at the time. -/
inductive Input (A : Type*) where
  | addAdapter (adapter : A) (evtMask : A → UInt32)
  | removeAdapter (adapter : A) (evtMask : A → UInt32)

def machine (s : LocApiBase A) : Input A → LocApiBase A × List Call
  | .addAdapter adapter evtMask => s.addAdapter adapter evtMask
  | .removeAdapter adapter evtMask => s.removeAdapter adapter evtMask

/-- The table after these calls. -/
def after (mExcludedMask : UInt32) (inputs : List (Input A)) : LocApiBase A :=
  run (fun s input => (machine s input).1) (init mExcludedMask) inputs

/-- The adapters that were added and not removed since. -/
def register (registered : Finset A) : Input A → Finset A
  | .addAdapter adapter _ => insert adapter registered
  | .removeAdapter adapter _ => registered.erase adapter

def registered (inputs : List (Input A)) : Finset A := run register ∅ inputs

/-- The union of the event masks of these adapters. -/
def unionMask (evtMask : A → UInt32) (adapters : Finset A) : UInt32 :=
  adapters.fold (fun mask other : UInt32 => mask ||| other) 0 evtMask

/-- There is room for the adapters that are registered after the call. -/
def Fits (registered : Finset A) (input : Input A) : Prop :=
  (register registered input).card ≤ MAX_ADAPTERS

end Calls

/-- The table with these adapters. -/
def table (adapters : List A) : List (Option A) :=
  adapters.map some ++ List.replicate (MAX_ADAPTERS - adapters.length) none

section Table

variable {adapters : List A}

theorem slot_table (adapters : List A) (i : Nat) : slot (table adapters) i = adapters[i]? := by
  rcases Nat.lt_or_ge i adapters.length with hlt | hge
  · simp [slot, table, List.getElem?_append_left, hlt]
  · rw [slot, table, List.getElem?_append_right (by simpa using hge), List.getElem?_replicate]
    split <;> simp [hge]

/-- A table reaches its adapters. -/
theorem toAllAdapters_table (adapters : List A) : toAllAdapters (table adapters) = adapters := by
  have hnull (n : Nat) : toAllAdapters (List.replicate n (none : Option A)) = [] := by
    cases n <;> rfl
  unfold table
  generalize MAX_ADAPTERS - adapters.length = n
  induction adapters with
  | nil => exact hnull n
  | cons adapter adapters ih => simpa [toAllAdapters] using ih

end Table

section Adding

variable [DecidableEq A] {adapters : List A} {adapter : A}

theorem addLoop_mem (h : adapter ∈ adapters) (rest : List (Option A)) :
    addLoop adapter (adapters.map some ++ rest) = (adapters.map some ++ rest, false) := by
  induction adapters with
  | nil => cases h
  | cons other adapters ih =>
      rw [List.map_cons, List.cons_append, addLoop]
      split
      · rfl
      · rename_i hother
        rcases List.mem_cons.mp h with rfl | hmem
        · exact absurd rfl hother
        · simp [ih hmem]

theorem addLoop_new (h : adapter ∉ adapters) (rest : List (Option A)) :
    addLoop adapter (adapters.map some ++ none :: rest) =
      (adapters.map some ++ some adapter :: rest, true) := by
  induction adapters with
  | nil => simp [addLoop]
  | cons other adapters ih =>
      obtain ⟨hother, hrest⟩ := not_or.mp (mt List.mem_cons.mpr h)
      rw [List.map_cons, List.cons_append, addLoop, if_neg (by simpa using Ne.symm hother),
        if_neg (by simp), ih hrest]
      rfl

end Adding

/-- The adapters after the hole once the last one fills it. -/
def moved (back : List A) : List A :=
  match back.getLast? with
  | some last => last :: back.dropLast
  | none => []

theorem length_moved (back : List A) : (moved back).length = back.length := by
  rcases List.eq_nil_or_concat' back with rfl | ⟨mid, last, rfl⟩
  · rfl
  · simp [moved]

theorem moved_perm (back : List A) : (moved back).Perm back := by
  rcases List.eq_nil_or_concat' back with rfl | ⟨mid, last, rfl⟩
  · rfl
  · simpa [moved] using (List.perm_append_singleton last mid).symm

theorem whileAdapter_eq {mLocAdapters : List (Option A)} {turns i length : Nat}
    (hlength : length ≤ MAX_ADAPTERS)
    (hsome : ∀ k, i < k → k < length → slot mLocAdapters k ≠ none)
    (hnone : length < MAX_ADAPTERS → slot mLocAdapters length = none) (hi : i < length)
    (hturns : length ≤ i + turns) : whileAdapter mLocAdapters turns i = length := by
  induction turns generalizing i with
  | zero => omega
  | succ turns ih =>
      unfold whileAdapter
      split
      · rename_i hgo
        have hlt : i + 1 < length := by
          rcases Nat.lt_or_ge (i + 1) length with hlt | hge
          · exact hlt
          · have heq : length = i + 1 := by omega
            rw [heq] at hnone
            exact absurd (hnone hgo.1) hgo.2
        apply ih
        · intro k hk
          exact hsome k (by omega)
        · exact hlt
        · omega
      · rename_i hstop
        by_contra hne
        apply hstop
        exact ⟨by omega, hsome (i + 1) (by omega) (by omega)⟩

/-- The last adapter is moved to the hole. -/
theorem fill_table {adapter : A} {front back : List A}
    (h : front.length + back.length + 1 ≤ MAX_ADAPTERS) :
    let mLocAdapters := (table (front ++ adapter :: back)).set front.length none
    (mLocAdapters.set front.length (slot mLocAdapters (front.length + back.length))).set
      (front.length + back.length) none = table (front ++ moved back) := by
  have hset : (table (front ++ adapter :: back)).set front.length none =
      front.map some ++ none :: (back.map some ++
        List.replicate (MAX_ADAPTERS - (front.length + back.length + 1)) none) := by
    simp [table, Nat.add_assoc]
  have hnulls : MAX_ADAPTERS - (front.length + back.length) =
      MAX_ADAPTERS - (front.length + back.length + 1) + 1 := by omega
  intro mLocAdapters
  rcases List.eq_nil_or_concat' back with rfl | ⟨mid, last, rfl⟩
  · have hslot : slot mLocAdapters front.length = none := by
      simp [mLocAdapters, hset, slot]
    rw [List.length_nil, Nat.add_zero, hslot]
    simp only [List.length_nil, Nat.add_zero] at hset hnulls
    simp [mLocAdapters, hset, moved, table, hnulls, List.replicate_succ]
  · have hslot : slot mLocAdapters (front.length + (mid ++ [last]).length) = some last := by
      simp [mLocAdapters, hset, slot]
    rw [hslot]
    simp only [List.length_append, List.length_singleton] at hset hnulls
    simp [mLocAdapters, hset, moved, table, hnulls, List.replicate_succ]

section Removing

variable [DecidableEq A] {adapter : A}

theorem removeLoop_stop {evtMask : A → UInt32} {turns i : Nat} {s : LocApiBase A}
    (h : i < MAX_ADAPTERS → slot s.mLocAdapters i = none) :
    removeLoop adapter evtMask turns s i = (s, []) := by
  cases turns with
  | zero => rfl
  | succ turns => exact if_neg fun hgo => hgo.2 (h hgo.1)

/-- The turns before the adapter is found. -/
theorem removeLoop_skip {evtMask : A → UInt32} {turns i n : Nat} {s : LocApiBase A}
    (h : ∀ k, i ≤ k → k < i + n →
      k < MAX_ADAPTERS ∧ slot s.mLocAdapters k ≠ none ∧ slot s.mLocAdapters k ≠ some adapter) :
    removeLoop adapter evtMask (n + turns) s i = removeLoop adapter evtMask turns s (i + n) := by
  induction n generalizing i with
  | zero => simp
  | succ n ih =>
      obtain ⟨hi, hsome, hother⟩ := h i (by omega) (by omega)
      have hrest := ih (i := i + 1) fun k hk hk' => h k (by omega) (by omega)
      rw [show n + 1 + turns = n + turns + 1 by omega, removeLoop, if_pos ⟨hi, hsome⟩,
        if_neg hother, hrest]
      congr 1
      omega

/-- The turn that finds the adapter is the last one. -/
theorem removeLoop_found {front back : List A} (mExcludedMask : UInt32) (evtMask : A → UInt32)
    (h : front.length + back.length + 1 ≤ MAX_ADAPTERS) (turns : Nat) :
    removeLoop adapter evtMask (turns + 1) ⟨mExcludedMask, table (front ++ adapter :: back)⟩
        front.length =
      (⟨mExcludedMask, table (front ++ moved back)⟩,
        if front = [] ∧ back = [] then [.close]
        else [.locOpenMsg (getEvtMask ⟨mExcludedMask, table (front ++ moved back)⟩ evtMask)]) := by
  have hslot : slot (table (front ++ adapter :: back)) front.length = some adapter := by
    rw [slot_table]
    simp
  have hother (k : Nat) (hk : front.length < k) :
      slot ((table (front ++ adapter :: back)).set front.length none) k =
        (front ++ adapter :: back)[k]? := by
    rw [slot, List.getElem?_set_ne (by omega)]
    exact slot_table _ k
  have hwhile : whileAdapter ((table (front ++ adapter :: back)).set front.length none)
      MAX_ADAPTERS front.length = front.length + back.length + 1 := by
    apply whileAdapter_eq h
    · intro k hk hk'
      rw [hother k hk]
      simp
      omega
    · intro _
      rw [hother _ (by omega)]
      simp
      omega
    · omega
    · omega
  have hlast : slot (table (front ++ moved back)) (front.length + back.length + 1) = none := by
    rw [slot_table, List.getElem?_eq_none]
    rw [List.length_append, length_moved]
    omega
  rw [removeLoop, if_pos ⟨by omega, by simp [hslot]⟩, if_pos hslot]
  simp only [hwhile, Nat.add_sub_cancel]
  rw [fill_table h, removeLoop_stop fun _ => hlast]
  simp

/-- Removing an adapter of the table. -/
theorem removeAdapter_mem {adapters : List A} (mExcludedMask : UInt32) (evtMask : A → UInt32)
    (hlength : adapters.length ≤ MAX_ADAPTERS) (hnodup : adapters.Nodup)
    (hmem : adapter ∈ adapters) :
    ∃ rest, rest.Perm (adapters.erase adapter) ∧
      removeAdapter ⟨mExcludedMask, table adapters⟩ adapter evtMask =
        (⟨mExcludedMask, table rest⟩,
          if adapters = [adapter] then [.close]
          else [.locOpenMsg (getEvtMask ⟨mExcludedMask, table rest⟩ evtMask)]) := by
  obtain ⟨front, back, rfl⟩ := List.append_of_mem hmem
  have hfront : adapter ∉ front := by
    intro hin
    exact (List.disjoint_of_nodup_append hnodup) hin List.mem_cons_self
  have hlength' : front.length + back.length + 1 ≤ MAX_ADAPTERS := by
    simpa [Nat.add_assoc] using hlength
  refine ⟨front ++ moved back, ?_, ?_⟩
  · rw [List.erase_append_right _ hfront, List.erase_cons_head]
    exact (moved_perm back).append_left front
  · have hturns : MAX_ADAPTERS = front.length + (MAX_ADAPTERS - front.length - 1 + 1) := by omega
    rw [removeAdapter, hturns, removeLoop_skip, Nat.zero_add, removeLoop_found _ _ hlength']
    · simp [List.append_eq_singleton_iff]
    · intro k _ hk
      have hk' : k < front.length := by omega
      rw [slot_table, List.getElem?_append_left hk', List.getElem?_eq_getElem hk']
      refine ⟨by omega, by simp, ?_⟩
      intro heq
      exact hfront (Option.some.inj heq ▸ List.getElem_mem hk')

/-- Removing an adapter that is not in the table. -/
theorem removeAdapter_notMem {adapters : List A} (mExcludedMask : UInt32) (evtMask : A → UInt32)
    (hlength : adapters.length ≤ MAX_ADAPTERS) (hmem : adapter ∉ adapters) :
    removeAdapter ⟨mExcludedMask, table adapters⟩ adapter evtMask =
      (⟨mExcludedMask, table adapters⟩, []) := by
  have hturns : MAX_ADAPTERS = adapters.length + (MAX_ADAPTERS - adapters.length) := by omega
  rw [removeAdapter, hturns, removeLoop_skip, removeLoop_stop]
  · intro _
    rw [slot_table]
    simp
  · intro k _ hk
    have hk' : k < adapters.length := by omega
    rw [slot_table, List.getElem?_eq_getElem hk']
    refine ⟨by omega, by simp, ?_⟩
    intro heq
    exact hmem (Option.some.inj heq ▸ List.getElem_mem hk')

end Removing

section Run

variable [DecidableEq A] {mExcludedMask : UInt32} {adapters : List A} {registered : Finset A}

/-- The mask is the union of the masks of the adapters. -/
theorem getEvtMask_table (evtMask : A → UInt32) (h : adapters.Nodup) :
    getEvtMask ⟨mExcludedMask, table adapters⟩ evtMask =
      unionMask evtMask adapters.toFinset &&& ~~~ mExcludedMask := by
  rw [getEvtMask, toAllAdapters_table, unionMask, Finset.fold, List.toFinset_val, h.dedup,
    Multiset.map_coe, Multiset.coe_fold_l, List.foldl_map]

/-- The table has the registered adapters, each once. -/
structure Holds (mExcludedMask : UInt32) (s : LocApiBase A) (registered : Finset A)
    (adapters : List A) : Prop where
  table : s = ⟨mExcludedMask, table adapters⟩
  length : adapters.length ≤ MAX_ADAPTERS
  nodup : adapters.Nodup
  registered : adapters.toFinset = registered

theorem addAdapter_holds {s : LocApiBase A} (h : Holds mExcludedMask s registered adapters)
    (adapter : A) (evtMask : A → UInt32) (hfits : (insert adapter registered).card ≤ MAX_ADAPTERS) :
    ∃ adapters', Holds mExcludedMask (s.addAdapter adapter evtMask).1 (insert adapter registered)
      adapters' := by
  obtain ⟨rfl, hlength, hnodup, rfl⟩ := h
  by_cases hmem : adapter ∈ adapters
  · refine ⟨adapters, ?_, hlength, hnodup, ?_⟩
    · simp [addAdapter, LocApiBase.table, addLoop_mem hmem]
    · simp [hmem]
  · have hroom : adapters.length + 1 ≤ MAX_ADAPTERS := by
      rw [Finset.card_insert_of_notMem (by simpa using hmem),
        List.toFinset_card_of_nodup hnodup] at hfits
      exact hfits
    refine ⟨adapters ++ [adapter], ?_, by simpa using hroom, ?_, ?_⟩
    · have hnulls : MAX_ADAPTERS - adapters.length =
          MAX_ADAPTERS - (adapters.length + 1) + 1 := by omega
      simp [addAdapter, LocApiBase.table, hnulls, List.replicate_succ, addLoop_new hmem]
    · simpa [List.nodup_append] using ⟨hnodup, fun other hother heq => hmem (heq ▸ hother)⟩
    · ext other
      simp

theorem removeAdapter_holds {s : LocApiBase A} (h : Holds mExcludedMask s registered adapters)
    (adapter : A) (evtMask : A → UInt32) :
    ∃ adapters', Holds mExcludedMask (s.removeAdapter adapter evtMask).1
      (registered.erase adapter) adapters' := by
  obtain ⟨rfl, hlength, hnodup, rfl⟩ := h
  by_cases hmem : adapter ∈ adapters
  · obtain ⟨rest, hperm, hremove⟩ := removeAdapter_mem mExcludedMask evtMask hlength hnodup hmem
    refine ⟨rest, by rw [hremove], ?_, ?_, ?_⟩
    · rw [hperm.length_eq]
      exact List.length_erase_le.trans hlength
    · exact hperm.nodup_iff.mpr (hnodup.erase adapter)
    · ext other
      rw [List.mem_toFinset, hperm.mem_iff, hnodup.mem_erase_iff]
      simp
  · refine ⟨adapters, by rw [removeAdapter_notMem mExcludedMask evtMask hlength hmem], hlength,
      hnodup, ?_⟩
    rw [Finset.erase_eq_of_notMem (by simpa using hmem)]

theorem machine_holds {s : LocApiBase A} (h : Holds mExcludedMask s registered adapters)
    (input : Input A) (hfits : Fits registered input) :
    ∃ adapters', Holds mExcludedMask (s.machine input).1 (register registered input) adapters' := by
  cases input with
  | addAdapter adapter evtMask => exact addAdapter_holds h adapter evtMask hfits
  | removeAdapter adapter evtMask => exact removeAdapter_holds h adapter evtMask

theorem run_holds {s : LocApiBase A} (h : Holds mExcludedMask s registered adapters)
    {inputs : List (Input A)} (hfits : Meets register Fits registered inputs) :
    ∃ adapters', Holds mExcludedMask (run (fun s input => (machine s input).1) s inputs)
      (run register registered inputs) adapters' := by
  induction inputs generalizing s registered adapters with
  | nil => exact ⟨adapters, h⟩
  | cons input inputs ih =>
      obtain ⟨adapters', hnext⟩ := machine_holds h input hfits.1
      exact ih hnext hfits.2

end Run

end LocApiBase

open LocApiBase

/-- As long as no more than `MAX_ADAPTERS` adapters are registered, the table is a
prefix with each of them once and then `NULL`, so a call for all adapters reaches
each of them once; and a removal closes the engine, or sends it the union of the
masks that remain, or changes nothing. -/
theorem adapters_registered {A : Type*} [DecidableEq A] (mExcludedMask : UInt32)
    (inputs : List (LocApiBase.Input A)) (h : Meets register Fits ∅ inputs) :
    let s : LocApiBase A := after mExcludedMask inputs
    (∃ adapters, s.mLocAdapters = table adapters ∧ adapters.length ≤ MAX_ADAPTERS ∧
      adapters.Nodup ∧ adapters.toFinset = registered inputs) ∧
    (∀ adapter, (toAllAdapters s.mLocAdapters).count adapter =
      if adapter ∈ registered inputs then 1 else 0) ∧
    ∀ adapter evtMask,
      (adapter ∉ registered inputs → s.removeAdapter adapter evtMask = (s, [])) ∧
      (registered inputs = {adapter} → (s.removeAdapter adapter evtMask).2 = [.close]) ∧
      (adapter ∈ registered inputs → registered inputs ≠ {adapter} →
        (s.removeAdapter adapter evtMask).2 =
          [.locOpenMsg (unionMask evtMask ((registered inputs).erase adapter) &&&
            ~~~ mExcludedMask)]) := by
  have hinit : Holds mExcludedMask (LocApiBase.init mExcludedMask : LocApiBase A) ∅ [] :=
    ⟨rfl, Nat.zero_le _, List.nodup_nil, rfl⟩
  obtain ⟨adapters, hs, hlength, hnodup, hregistered⟩ := run_holds hinit h
  have hs' : after mExcludedMask inputs = ⟨mExcludedMask, table adapters⟩ := hs
  have hmem (adapter : A) : adapter ∈ registered inputs ↔ adapter ∈ adapters := by
    rw [registered, ← hregistered, List.mem_toFinset]
  rw [hs']
  refine ⟨⟨adapters, rfl, hlength, hnodup, hregistered⟩, ?_, ?_⟩
  · intro adapter
    simp only [toAllAdapters_table, hmem, hnodup.count]
  · intro adapter evtMask
    refine ⟨?_, ?_, ?_⟩
    · intro hnot
      exact removeAdapter_notMem mExcludedMask evtMask hlength (mt (hmem adapter).mpr hnot)
    · intro honly
      have hset : adapters.toFinset = [adapter].toFinset := by
        rw [hregistered.trans honly]
        rfl
      have hperm := List.perm_of_nodup_nodup_toFinset_eq hnodup (List.nodup_singleton adapter) hset
      obtain ⟨rest, -, hremove⟩ :=
        removeAdapter_mem mExcludedMask evtMask hlength hnodup ((hmem adapter).mp (by simp [honly]))
      rw [hremove, if_pos (List.perm_singleton.mp hperm)]
    · intro hin hother
      obtain ⟨rest, hrest, hremove⟩ :=
        removeAdapter_mem mExcludedMask evtMask hlength hnodup ((hmem adapter).mp hin)
      have hne : adapters ≠ [adapter] := by
        rintro rfl
        exact hother (hregistered.symm.trans (by simp))
      have hset : rest.toFinset = (registered inputs).erase adapter := by
        ext other
        rw [List.mem_toFinset, hrest.mem_iff, hnodup.mem_erase_iff, Finset.mem_erase, hmem]
      rw [hremove, if_neg hne,
        getEvtMask_table evtMask (hrest.nodup_iff.mpr (hnodup.erase adapter)), hset]

/-- Three adapters, of which the first is removed. -/
theorem adapters_registered_three :
    let inputs : List (LocApiBase.Input Nat) := [.addAdapter 0 fun _ => 1, .addAdapter 1 fun _ => 2,
      .addAdapter 2 fun _ => 4, .removeAdapter 0 fun _ => 0]
    Meets register Fits ∅ inputs ∧
      ∃ adapters, (after 0 inputs : LocApiBase Nat).mLocAdapters = table adapters ∧
        adapters.length ≤ MAX_ADAPTERS ∧ adapters.Nodup ∧
        adapters.toFinset = registered inputs := by
  have h : Meets register Fits ∅ [LocApiBase.Input.addAdapter 0 fun _ => 1,
      .addAdapter 1 fun _ => 2, .addAdapter 2 fun _ => 4, .removeAdapter 0 fun _ => 0] := by
    simp only [Meets, Fits, register]
    decide
  exact ⟨h, (adapters_registered 0 _ h).1⟩

end G2Common.Core
