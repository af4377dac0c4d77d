import Mathlib.Data.List.Basic
import Mathlib.Data.List.TakeWhile

/-!
A buffer of slots of one size, each with a text that ends at a filler and is filled up with it.
-/

namespace G2Common.Slots

variable {α : Type*}

/-- The elements are written from position `p` on. -/
def store (buffer : List α) (p : Nat) (elements : List α) : List α :=
  buffer.take p ++ elements ++ buffer.drop (p + elements.length)

/-- As much of the text as fits, and the filler behind it. -/
def strlcpy (z : α) (buffer : List α) (p : Nat) (text : List α) (size : Nat) : List α :=
  if size = 0 then buffer else store buffer p (text.take (size - 1) ++ [z])

def slot (z : α) (size : Nat) (text : List α) : List α :=
  text.take (size - 1) ++ List.replicate (size - (text.take (size - 1)).length) z

def slots (z : α) (size : Nat) (texts : List (List α)) : List α := texts.flatMap (slot z size)

/-- The text from position `p` on. -/
def textAt [DecidableEq α] (z : α) (buffer : List α) (p : Nat) : List α :=
  (buffer.drop p).takeWhile (· ≠ z)

variable {z : α} {size n : Nat} {texts : List (List α)} {text : List α}

theorem length_slot (hsize : 0 < size) : (slot z size text).length = size := by
  rw [slot, List.length_append, List.length_replicate, List.length_take]
  omega

theorem length_slots (hsize : 0 < size) : (slots z size texts).length = texts.length * size := by
  induction texts with
  | nil => rw [slots, List.flatMap_nil, List.length_nil, List.length_nil, Nat.zero_mul]
  | cons text texts ih =>
      rw [slots, List.flatMap_cons, List.length_append, length_slot hsize, List.length_cons,
        Nat.succ_mul, ← ih, Nat.add_comm]
      rfl

/-- The next slot is filled. -/
theorem strlcpy_slots (hsize : 0 < size) :
    strlcpy z (slots z size texts ++ List.replicate (size + n) z) (texts.length * size) text size =
      slots z size (texts ++ [text]) ++ List.replicate n z := by
  have hlength : (text.take (size - 1)).length < size := by
    rw [List.length_take]
    omega
  have hfill : [z] ++ List.replicate (size + n - ((text.take (size - 1)).length + 1)) z =
      List.replicate (size - (text.take (size - 1)).length) z ++ List.replicate n z := by
    rw [List.replicate_append_replicate, List.singleton_append, ← List.replicate_succ]
    congr 1
    omega
  rw [strlcpy, if_neg hsize.ne', store, ← length_slots hsize, List.take_left, ← List.drop_drop,
    List.drop_left, List.drop_replicate, List.length_append, List.length_singleton,
    List.append_assoc, List.append_assoc, hfill, slots, slots, List.flatMap_append,
    List.flatMap_singleton, slot]
  simp only [List.append_assoc]

/-- What stands in the slots can be read from them. -/
theorem textAt_slots [DecidableEq α] (hsize : 0 < size) (htexts : ∀ text ∈ texts, z ∉ text)
    (i : Nat) :
    textAt z (slots z size texts ++ List.replicate n z) (i * size) =
      (texts[i]?.getD []).take (size - 1) := by
  induction texts generalizing i with
  | nil =>
      rw [textAt, slots, List.flatMap_nil, List.nil_append, List.drop_replicate,
        List.takeWhile_replicate_eq_filter]
      simp
  | cons text texts ih =>
      obtain ⟨htext, hrest⟩ := List.forall_mem_cons.mp htexts
      rw [textAt, slots, List.flatMap_cons, List.append_assoc]
      cases i with
      | zero =>
          have hkept : ∀ c ∈ text.take (size - 1), decide (c ≠ z) = true := by
            intro c hc
            rw [decide_eq_true_iff]
            rintro rfl
            exact htext (List.mem_of_mem_take hc)
          obtain ⟨fill, hfill⟩ : ∃ fill, size - (text.take (size - 1)).length = fill + 1 := by
            rw [List.length_take]
            exact ⟨size - min (size - 1) text.length - 1, by omega⟩
          rw [Nat.zero_mul, List.drop_zero, slot, List.append_assoc,
            List.takeWhile_append_of_pos hkept, hfill, List.replicate_succ, List.cons_append,
            List.takeWhile_cons_of_neg (by simp), List.append_nil]
          rfl
      | succ i =>
          have hskip : (i + 1) * size = (slot z size text).length + i * size := by
            rw [length_slot hsize, Nat.succ_mul, Nat.add_comm]
          rw [hskip, ← List.drop_drop, List.drop_left]
          exact ih hrest i

end G2Common.Slots
