import Mathlib.Data.List.Basic

/-!
Arrays whose accesses are checked. A program that indexes them with integers has a
result only if every index is inside, so that it has one says that all its accesses
are. A checked program is compared with one on values, which has no faults.
-/

namespace G2Common.CheckedArray

/-- Why a run has no result. -/
inductive Fault where
  | index | overflow | fuel
  deriving DecidableEq, Repr

universe u v w

variable {α β σ : Type u} {τ : Type v} {ι : Type w}

def readAt (a : List α) (i : Int) : Except Fault α :=
  match i with
  | .ofNat n => match a[n]? with
      | some x => .ok x
      | none => .error .index
  | .negSucc _ => .error .index

def writeAt (a : List α) (i : Int) (x : α) : Except Fault (List α) :=
  match i with
  | .ofNat n => if n < a.length then .ok (a.set n x) else .error .index
  | .negSucc _ => .error .index

/-- The values are written one behind another, from position `i` on. -/
def writeAll (a : List α) (i : Int) : List α → Except Fault (List α)
  | [] => .ok a
  | x :: xs => do
      let a ← writeAt a i x
      writeAll a (i + 1) xs

@[simp] theorem ok_bind (a : α) (f : α → Except Fault β) :
    (Except.ok a >>= f) = f a := rfl

theorem readAt_of_some {a : List α} {n : Nat} {x : α} (h : a[n]? = some x) :
    readAt a n = .ok x := by
  change (match a[n]? with | some x => Except.ok x | none => .error Fault.index) = _
  rw [h]

theorem writeAt_of_lt {a : List α} {n : Nat} (h : n < a.length) (x : α) :
    writeAt a n x = .ok (a.set n x) :=
  if_pos h

theorem readAt_append_cons (before after : List α) (x : α) :
    readAt (before ++ x :: after) (before.length : Int) = .ok x := by
  apply readAt_of_some
  rw [List.getElem?_append_right (Nat.le_refl _), Nat.sub_self, List.getElem?_cons_zero]

theorem writeAt_append_cons (before after : List α) (x y : α) :
    writeAt (before ++ x :: after) (before.length : Int) y = .ok (before ++ y :: after) := by
  have hlt : before.length < (before ++ x :: after).length := by
    rw [List.length_append, List.length_cons]
    omega
  rw [writeAt_of_lt hlt, List.set_append_right _ _ (Nat.le_refl _), Nat.sub_self,
    List.set_cons_zero]

theorem writeAll_append {before old new after : List α} (h : old.length = new.length) :
    writeAll (before ++ (old ++ after)) before.length new =
      .ok (before ++ (new ++ after)) := by
  induction new generalizing before old with
  | nil => rw [List.length_eq_zero_iff.mp h, writeAll]
  | cons y new ih =>
      obtain ⟨x, old, rfl⟩ := List.exists_cons_of_length_eq_add_one h
      have hrest := @ih (before ++ [y]) old (Nat.succ.inj h)
      rw [List.append_assoc, List.append_assoc, List.singleton_append, List.singleton_append,
        List.length_append, List.length_singleton] at hrest
      rw [writeAll, List.cons_append, writeAt_append_cons, ok_bind]
      exact hrest

/-- The simulation rule for loops over a list: what each turn keeps between the checked
state and the value, the whole loop keeps, and it has a result. -/
theorem foldlM_simulates {f : σ → ι → Except Fault σ} {g : τ → ι → τ} {rel : τ → σ → Prop}
    {l : List ι}
    (hturn : ∀ i ∈ l, ∀ t s, rel t s → ∃ s', f s i = .ok s' ∧ rel (g t i) s')
    {t : τ} {s : σ} (h : rel t s) :
    ∃ s', l.foldlM f s = .ok s' ∧ rel (l.foldl g t) s' := by
  induction l generalizing t s with
  | nil => exact ⟨s, rfl, h⟩
  | cons i rest ih =>
      obtain ⟨s', hs', hrel⟩ := hturn i List.mem_cons_self t s h
      obtain ⟨s'', hs'', hrel'⟩ := ih (fun j hj => hturn j (List.mem_cons_of_mem _ hj)) hrel
      refine ⟨s'', ?_, hrel'⟩
      rw [List.foldlM_cons, hs']
      exact hs''

end G2Common.CheckedArray
