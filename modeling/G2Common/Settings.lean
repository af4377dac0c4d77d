import Mathlib.Data.List.Basic
import Mathlib.Data.List.Pairwise

/-!
Items that set the entries of a table, one after another. What an item makes of an entry
does not depend on the items before it, so an entry ends as its last item left it. Each
item sets one entry at most; then the entries that are set are as many as the items
exactly if every item sets an entry of its own.
-/

namespace G2Common.Settings

variable {ι α : Type*}

/-- The entry after an item. -/
def put (set : ι → α → Option α) (a : α) (x : ι) : α := (set x a).getD a

/-- What the last item makes of the entry, of those that set it. -/
def last (set : ι → α → Option α) (xs : List ι) (a : α) : Option α :=
  xs.reverse.findSome? (fun x => set x a)

/-- Whether one of the items sets the entry. -/
def touches (set : ι → α → Option α) (xs : List ι) (a : α) : Bool :=
  xs.any (fun x => (set x a).isSome)

/-- The items up to the `n`-th with a property. -/
def upTo (p : ι → Bool) : Nat → List ι → List ι
  | 0, _ => []
  | _, [] => []
  | n + 1, x :: xs => x :: upTo p (if p x then n else n + 1) xs

variable {set : ι → α → Option α} {x : ι} {xs ys : List ι} {a : α} {table : List α}

@[simp] theorem upTo_zero (p : ι → Bool) (xs : List ι) : upTo p 0 xs = [] := by
  cases xs <;> rfl

@[simp] theorem upTo_nil (p : ι → Bool) (n : Nat) : upTo p n [] = [] := by
  cases n <;> rfl

@[simp] theorem last_nil (set : ι → α → Option α) (a : α) : last set [] a = none := rfl

theorem last_append : last set (xs ++ ys) a = (last set ys a).or (last set xs a) := by
  rw [last, List.reverse_append, List.findSome?_append]
  rfl

theorem last_cons : last set (x :: xs) a = (last set xs a).or (set x a) := by
  rw [← List.singleton_append, last_append]
  simp [last]

theorem last_eq_none : last set xs a = none ↔ ∀ x ∈ xs, set x a = none := by
  simp [last, List.findSome?_eq_none_iff]

theorem touches_iff : touches set xs a = true ↔ last set xs a ≠ none := by
  simp [touches, last_eq_none, Option.isSome_iff_ne_none]

/-- Items that set no entry can be left out. -/
theorem last_filter {p : ι → Bool} (h : ∀ x ∈ xs, p x = false → set x a = none) :
    last set (xs.filter p) a = last set xs a := by
  induction xs with
  | nil => rfl
  | cons x xs ih =>
      have ih' := ih (fun y hy => h y (List.mem_cons_of_mem x hy))
      cases hp : p x with
      | true => rw [List.filter_cons_of_pos hp, last_cons, last_cons, ih']
      | false =>
          rw [List.filter_cons_of_neg (by simp [hp]), last_cons, ih',
            h x List.mem_cons_self hp, Option.or_none]

theorem last_eq_getLast (set : ι → α → Option α) (xs : List ι) (a : α) :
    last set xs a = (xs.filterMap (fun x => set x a)).getLast? := by
  rw [last, ← List.head?_filterMap, List.filterMap_reverse, List.head?_reverse]

/-- If no more than `n` items have the property, only items without it are left out. -/
theorem last_upTo {p : ι → Bool} {n : Nat} (hcount : xs.countP p ≤ n)
    (hp : ∀ x, p x = false → set x a = none) : last set (upTo p n xs) a = last set xs a := by
  induction xs generalizing n with
  | nil => rw [upTo_nil]
  | cons x xs ih =>
      rw [List.countP_cons] at hcount
      cases n with
      | zero =>
          rw [upTo_zero, last_nil, eq_comm, last_eq_none]
          intro y hy
          apply hp
          have hzero : (x :: xs).countP p = 0 := by
            rw [List.countP_cons]
            omega
          simpa using List.countP_eq_zero.mp hzero y hy
      | succ n =>
          rw [upTo, last_cons, last_cons, ih]
          split
          · rename_i hx
            rw [if_pos hx] at hcount
            omega
          · rename_i hx
            rw [if_neg hx] at hcount
            omega

/-- An entry that was set is set by later items as if it had not been. -/
def Overwrites (set : ι → α → Option α) : Prop :=
  ∀ x y a b, set x a = some b → set y b = set y a

theorem Overwrites.last (hset : Overwrites set) {b : α} (h : set x a = some b) (xs : List ι) :
    Settings.last set xs b = Settings.last set xs a := by
  have heq : (fun y => set y b) = fun y => set y a := funext (fun y => hset x y a b h)
  rw [Settings.last, heq]
  rfl

/-- An entry ends as the last item left it that set it. -/
theorem Overwrites.foldl_put (hset : Overwrites set) (xs : List ι) (a : α) :
    xs.foldl (put set) a = (Settings.last set xs a).getD a := by
  induction xs generalizing a with
  | nil => rfl
  | cons x xs ih =>
      rw [List.foldl_cons, ih, last_cons]
      cases hx : set x a with
      | none => rw [put, hx, Option.getD_none, Option.or_none]
      | some b =>
          rw [put, hx, Option.getD_some, hset.last hx]
          cases Settings.last set xs a <;> rfl

/-- No item sets two entries of the table. -/
def Single (set : ι → α → Option α) (table : List α) : Prop :=
  ∀ x, table.countP (fun a => (set x a).isSome) ≤ 1

/-- Every item sets an entry that none of the others sets. -/
def Distinct (set : ι → α → Option α) (table : List α) (xs : List ι) : Prop :=
  (∀ x ∈ xs, ∃ a ∈ table, set x a ≠ none) ∧
    xs.Pairwise (fun x y => ∀ a ∈ table, set x a = none ∨ set y a = none)

theorem countP_or (p q : α → Bool) (table : List α) :
    table.countP (fun a => p a || q a) =
      table.countP q + table.countP (fun a => p a && !q a) := by
  induction table with
  | nil => rfl
  | cons a table ih =>
      rw [List.countP_cons, List.countP_cons, List.countP_cons, ih]
      cases p a <;> cases q a <;> simp <;> omega

/-- An item is the first to set an entry. -/
theorem countP_new (hsingle : Single set table) (x : ι) (xs : List ι) :
    table.countP (fun a => (set x a).isSome && !touches set xs a) ≤ 1 ∧
      (table.countP (fun a => (set x a).isSome && !touches set xs a) = 1 ↔
        ∃ a ∈ table, set x a ≠ none ∧ last set xs a = none) := by
  have hle : table.countP (fun a => (set x a).isSome && !touches set xs a) ≤ 1 := by
    apply Nat.le_trans (List.countP_mono_left _) (hsingle x)
    intro a _ ha
    exact (Bool.and_eq_true_iff.mp ha).1
  refine ⟨hle, ?_⟩
  have hpos : 0 < table.countP (fun a => (set x a).isSome && !touches set xs a) ↔
      ∃ a ∈ table, set x a ≠ none ∧ last set xs a = none := by
    rw [List.countP_pos_iff]
    simp [← Bool.not_eq_true, touches_iff, Option.isSome_iff_ne_none]
  rw [← hpos]
  omega

theorem eq_of_countP_le {p : α → Bool} (h : table.countP p ≤ 1) {a b : α} (ha : a ∈ table)
    (hb : b ∈ table) (hpa : p a = true) (hpb : p b = true) : a = b := by
  rw [List.countP_eq_length_filter] at h
  have ha' : a ∈ table.filter p := List.mem_filter.mpr ⟨ha, hpa⟩
  have hb' : b ∈ table.filter p := List.mem_filter.mpr ⟨hb, hpb⟩
  match hfilter : table.filter p with
  | [] => simp [hfilter] at ha'
  | [c] =>
      rw [hfilter, List.mem_singleton] at ha' hb'
      rw [ha', hb']
  | _ :: _ :: _ =>
      rw [hfilter] at h
      simp at h

theorem distinct_cons (hsingle : Single set table) :
    Distinct set table (x :: xs) ↔
      (∃ a ∈ table, set x a ≠ none ∧ last set xs a = none) ∧ Distinct set table xs := by
  constructor
  · rintro ⟨heach, hpairs⟩
    obtain ⟨hfirst, hrest⟩ := List.pairwise_cons.mp hpairs
    obtain ⟨a, ha, hx⟩ := heach x List.mem_cons_self
    refine ⟨⟨a, ha, hx, last_eq_none.mpr ?_⟩, ?_, hrest⟩
    · intro y hy
      exact (hfirst y hy a ha).resolve_left hx
    · intro y hy
      exact heach y (List.mem_cons_of_mem x hy)
  · rintro ⟨⟨a, ha, hx, hnone⟩, heach, hpairs⟩
    refine ⟨List.forall_mem_cons.mpr ⟨⟨a, ha, hx⟩, heach⟩, List.pairwise_cons.mpr ⟨?_, hpairs⟩⟩
    intro y hy b hb
    by_cases hxb : set x b = none
    · exact Or.inl hxb
    · right
      obtain rfl : a = b := by
        apply eq_of_countP_le (hsingle x) ha hb
        · exact Option.isSome_iff_ne_none.mpr hx
        · exact Option.isSome_iff_ne_none.mpr hxb
      exact last_eq_none.mp hnone y hy

/-- No more entries are set than there are items, and as many only if every item sets an
entry of its own. -/
theorem countP_touches (hsingle : Single set table) (xs : List ι) :
    table.countP (touches set xs) ≤ xs.length ∧
      (table.countP (touches set xs) = xs.length ↔ Distinct set table xs) := by
  induction xs with
  | nil =>
      have hnone : table.countP (touches set []) = 0 := by simp [touches]
      refine ⟨Nat.le_of_eq hnone, iff_of_true hnone ⟨?_, List.Pairwise.nil⟩⟩
      intro x hx
      cases hx
  | cons x xs ih =>
      obtain ⟨hle, hiff⟩ := ih
      obtain ⟨hnew, hnewiff⟩ := countP_new hsingle x xs
      have hcount : table.countP (touches set (x :: xs)) = table.countP (touches set xs) +
          table.countP (fun a => (set x a).isSome && !touches set xs a) :=
        countP_or (fun a => (set x a).isSome) (touches set xs) table
      rw [hcount, List.length_cons]
      refine ⟨Nat.add_le_add hle hnew, ?_⟩
      rw [distinct_cons hsingle, ← hiff, ← hnewiff]
      omega

end G2Common.Settings
