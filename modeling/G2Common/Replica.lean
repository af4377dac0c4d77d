import Mathlib.Logic.Function.Basic

/-!
A store that is written through a queue. Some messages write a key; others have all keys written
again, behind what is in the queue. As long as each change of the source is told, and each loss
of the store is followed by a message of the second kind, the store has what the source has once
the queue is empty.
-/

namespace G2Common.Replica

variable {M K V : Type*} [DecidableEq K]

/-- The store after a message, which writes one key or none. -/
def apply (write : M → Option (K × V)) (r : K → Option V) (msg : M) : K → Option V :=
  match write msg with
  | some (k, v) => Function.update r k (some v)
  | none => r

/-- The store after all messages. -/
def settle (write : M → Option (K × V)) (r : K → Option V) (queue : List M) : K → Option V :=
  queue.foldl (apply write) r

variable {write : M → Option (K × V)} {refresh : M → Bool} {source source' : K → V}
  {r : K → Option V} {queue msgs : List M} {msg : M}

theorem settle_append (r : K → Option V) (first second : List M) :
    settle write r (first ++ second) = settle write (settle write r first) second :=
  List.foldl_append

theorem settle_singleton (r : K → Option V) (msg : M) :
    settle write r [msg] = apply write r msg := rfl

/-- A message about another key. -/
theorem apply_of_ne {k : K} (h : ∀ v, write msg ≠ some (k, v)) : apply write r msg k = r k := by
  unfold apply
  cases hwrite : write msg with
  | none => rfl
  | some pair =>
      apply Function.update_of_ne
      intro hk
      apply h pair.2
      rw [hwrite, hk]

theorem apply_of_write {k : K} {v : V} (h : write msg = some (k, v)) :
    apply write r msg k = some v := by
  unfold apply
  rw [h]
  exact Function.update_self k (some v) r

/-- Only the messages about a key matter for it. -/
theorem settle_filter {k : K} (about : M → Bool)
    (h : ∀ msg ∈ queue, about msg = false → ∀ v, write msg ≠ some (k, v)) :
    settle write r queue k = settle write r (queue.filter about) k := by
  have hfrom (r' : K → Option V) (hr : r k = r' k) :
      settle write r queue k = settle write r' (queue.filter about) k := by
    induction queue generalizing r r' with
    | nil => exact hr
    | cons msg queue ih =>
        have hrest := fun other hother => h other (List.mem_cons_of_mem _ hother)
        cases habout : about msg with
        | false =>
            rw [List.filter_cons_of_neg (Bool.eq_false_iff.mp habout)]
            apply ih hrest
            rw [apply_of_ne (h msg List.mem_cons_self habout)]
            exact hr
        | true =>
            rw [List.filter_cons_of_pos habout]
            apply ih hrest
            unfold apply
            cases write msg with
            | none => exact hr
            | some pair =>
                change Function.update r pair.1 _ k = Function.update r' pair.1 _ k
                rw [Function.update_apply, Function.update_apply, hr]
  exact hfrom r rfl

/-- Each key either gets its new value from the messages, or is not written and keeps its
value. -/
def Tells (write : M → Option (K × V)) (source source' : K → V) (msgs : List M) : Prop :=
  ∀ r k, settle write r msgs k = some (source' k) ∨
    settle write r msgs k = r k ∧ source' k = source k

/-- The store will have what the source has, or all of it will be written again. -/
def Synced (write : M → Option (K × V)) (refresh : M → Bool) (source : K → V)
    (r : K → Option V) (queue : List M) : Prop :=
  (∃ msg ∈ queue, refresh msg = true) ∨ ∀ k, settle write r queue k = some (source k)

theorem Synced.send (h : Synced write refresh source r queue)
    (hmsgs : Tells write source source' msgs) :
    Synced write refresh source' r (queue ++ msgs) := by
  rcases h with ⟨msg, hmsg, hrefresh⟩ | h
  · exact .inl ⟨msg, List.mem_append_left _ hmsg, hrefresh⟩
  · right
    intro k
    rw [settle_append]
    rcases hmsgs (settle write r queue) k with htold | ⟨hkept, hsame⟩
    · exact htold
    · rw [hkept, hsame]
      exact h k

/-- Whatever the store has lost is written again. -/
theorem synced_of_refresh (hrefresh : refresh msg = true) (hmsg : msg ∈ queue) :
    Synced write refresh source r queue :=
  .inl ⟨msg, hmsg, hrefresh⟩

theorem Synced.take (h : Synced write refresh source r (msg :: queue))
    (hmsg : refresh msg = false) : Synced write refresh source (apply write r msg) queue := by
  rcases h with ⟨other, hother, hrefresh⟩ | h
  · rcases List.mem_cons.mp hother with rfl | hother
    · exact absurd (hrefresh.symm.trans hmsg) Bool.noConfusion
    · exact .inl ⟨other, hother, hrefresh⟩
  · exact .inr h

/-- All keys are written behind the queue. -/
theorem synced_of_all (hall : ∀ r k, settle write r msgs k = some (source k)) :
    Synced write refresh source r (queue ++ msgs) := by
  right
  intro k
  rw [settle_append]
  exact hall _ k

theorem Synced.done (h : Synced write refresh source r []) (k : K) : r k = some (source k) := by
  rcases h with ⟨msg, hmsg, -⟩ | h
  · cases hmsg
  · exact h k

end G2Common.Replica
