import Mathlib.Data.List.Basic
import Mathlib.Data.List.Infix
import Mathlib.Data.List.TakeWhile

/-!
Patterns that are matched with backtracking. A pattern is given what has to match behind it, and
tries its own ways one after the other until that matches. A search takes the first position of
the text at which its pattern matches.
-/

namespace G2Common.Pattern

variable {α β : Type*}

section Patterns

variable (p : α → Bool) (next : List α → Option β)

/-- One element of the class. -/
def one : List α → Option β
  | [] => none
  | c :: text => if p c then next text else none

/-- As many elements of the class as there are, or fewer if only then the rest matches. -/
def star : List α → Option β
  | [] => next []
  | c :: text => if p c then (star text).or (next (c :: text)) else next (c :: text)

def plus : List α → Option β := one p (star p next)

end Patterns

def literal [DecidableEq α] : List α → (List α → Option β) → List α → Option β
  | [], next => next
  | c :: s, next => one (· = c) (literal s next)

/-- The text that the pattern matches, with nothing behind it. -/
def group (pattern : (List α → Option (List α)) → List α → Option (List α)) (text : List α) :
    Option (List α) :=
  (pattern some text).map (fun rest => text.take (text.length - rest.length))

def search (pattern : List α → Option β) : List α → Option β
  | [] => pattern []
  | c :: text => (pattern (c :: text)).or (search pattern text)

/-- A text that matches does not begin with the class. -/
def Excludes (p : α → Bool) (next : List α → Option β) : Prop :=
  ∀ c text, p c = true → next (c :: text) = none

section Matches

variable {p : α → Bool} {next : List α → Option β} {text s : List α} {b : β}

theorem one_eq_some :
    one p next text = some b ↔ ∃ c rest, text = c :: rest ∧ p c = true ∧ next rest = some b := by
  cases text with
  | nil => simp [one]
  | cons c text => simp [one]

theorem one_cons_of_neg {c : α} (h : ¬ p c = true) : one p next (c :: text) = none := by
  rw [one, if_neg h]

theorem literal_eq_some [DecidableEq α] :
    literal s next text = some b ↔ ∃ rest, text = s ++ rest ∧ next rest = some b := by
  induction s generalizing text with
  | nil => simp [literal]
  | cons c s ih => simp [literal, one_eq_some, ih]

/-- There is only one way to match. -/
theorem star_eq_dropWhile (hnext : Excludes p next) (text : List α) :
    star p next text = next (text.dropWhile p) := by
  induction text with
  | nil => rfl
  | cons c text ih =>
      rw [star, List.dropWhile_cons]
      split
      case isTrue hc => rw [ih, hnext c text hc, Option.or_none]
      case isFalse => rfl

theorem excludes_literal [DecidableEq α] {c : α} (hc : ¬ p c = true) :
    Excludes p (literal (c :: s) next) := by
  intro d text hd
  apply one_cons_of_neg
  rw [decide_eq_true_iff]
  rintro rfl
  exact hc hd

theorem star_eq_some (hnext : Excludes p next) :
    star p next text = some b ↔
      ∃ s rest, text = s ++ rest ∧ (∀ c ∈ s, p c = true) ∧ next rest = some b := by
  rw [star_eq_dropWhile hnext]
  constructor
  · intro h
    exact ⟨text.takeWhile p, text.dropWhile p, List.takeWhile_append_dropWhile.symm,
      fun c hc => List.mem_takeWhile_imp hc, h⟩
  · rintro ⟨s, rest, rfl, hs, h⟩
    cases rest with
    | nil =>
        rw [List.append_nil, List.dropWhile_eq_nil_iff.mpr hs]
        exact h
    | cons c rest =>
        have hc : ¬ p c = true := by
          intro hc
          rw [hnext c rest hc] at h
          cases h
        rw [List.dropWhile_append_of_pos hs, List.dropWhile_cons_of_neg hc]
        exact h

theorem plus_eq_some (hnext : Excludes p next) :
    plus p next text = some b ↔
      ∃ s rest, text = s ++ rest ∧ s ≠ [] ∧ (∀ c ∈ s, p c = true) ∧ next rest = some b := by
  rw [plus, one_eq_some]
  constructor
  · rintro ⟨c, text, rfl, hc, h⟩
    obtain ⟨s, rest, rfl, hs, h⟩ := (star_eq_some hnext).mp h
    exact ⟨c :: s, rest, rfl, List.cons_ne_nil c s, List.forall_mem_cons.mpr ⟨hc, hs⟩, h⟩
  · rintro ⟨s, rest, rfl, hne, hs, h⟩
    cases s with
    | nil => exact absurd rfl hne
    | cons c s =>
        obtain ⟨hc, hs⟩ := List.forall_mem_cons.mp hs
        exact ⟨c, s ++ rest, rfl, hc, (star_eq_some hnext).mpr ⟨s, rest, rfl, hs, h⟩⟩

/-- With nothing behind it, the pattern takes all it can. -/
theorem star_some (text : List α) : star p some text = some (text.dropWhile p) := by
  induction text with
  | nil => rfl
  | cons c text ih =>
      rw [star, List.dropWhile_cons]
      split
      case isTrue => rw [ih]; rfl
      case isFalse => rfl

theorem plus_some :
    plus p some text = if text.takeWhile p = [] then none else some (text.dropWhile p) := by
  cases text with
  | nil => rfl
  | cons c text =>
      rw [plus, one, star_some, List.takeWhile_cons, List.dropWhile_cons]
      split
      case isTrue => rw [if_neg (List.cons_ne_nil _ _)]
      case isFalse => rw [if_pos rfl]

theorem group_plus : group (plus p) text = some s ↔ s = text.takeWhile p ∧ s ≠ [] := by
  have htake : text.take (text.length - (text.dropWhile p).length) = text.takeWhile p := by
    have happend : text.takeWhile p ++ text.dropWhile p = text :=
      List.takeWhile_append_dropWhile
    have hlength := congrArg List.length happend
    rw [List.length_append] at hlength
    calc text.take (text.length - (text.dropWhile p).length)
        = (text.takeWhile p ++ text.dropWhile p).take (text.takeWhile p).length := by
          rw [happend]
          congr 1
          omega
      _ = text.takeWhile p := List.take_left
  rw [group, plus_some]
  split
  case isTrue hnil =>
    rw [hnil]
    constructor
    · intro h
      cases h
    · rintro ⟨rfl, h⟩
      exact absurd rfl h
  case isFalse hne =>
    rw [Option.map_some, htake, Option.some_inj]
    constructor
    · rintro rfl
      exact ⟨rfl, hne⟩
    · rintro ⟨rfl, -⟩
      rfl

theorem excludes_group {q : α → Bool} (hpq : ∀ c, p c = true → ¬ q c = true) :
    Excludes p (group (plus q)) := by
  intro c text hc
  rw [group, plus, one_cons_of_neg (hpq c hc), Option.map_none]

end Matches

section Search

variable {pattern : List α → Option β} {text : List α} {b : β}

/-- The match of the search is the one with most text behind its start. -/
theorem search_eq_some :
    search pattern text = some b ↔
      ∃ after, after <:+ text ∧ pattern after = some b ∧
        ∀ earlier, earlier <:+ text → after.length < earlier.length → pattern earlier = none := by
  induction text with
  | nil =>
      constructor
      · intro h
        refine ⟨[], List.suffix_rfl, h, ?_⟩
        intro earlier hearlier hlength
        rw [List.suffix_nil.mp hearlier] at hlength
        exact absurd hlength (Nat.lt_irrefl _)
      · rintro ⟨after, hafter, h, -⟩
        rwa [List.suffix_nil.mp hafter] at h
  | cons c text ih =>
      rw [search, Option.or_eq_some_iff]
      constructor
      · rintro (h | ⟨hhere, h⟩)
        · refine ⟨c :: text, List.suffix_rfl, h, ?_⟩
          intro earlier hearlier hlength
          exact absurd hearlier.length_le (Nat.not_le.mpr hlength)
        · obtain ⟨after, hafter, h, hfirst⟩ := ih.mp h
          refine ⟨after, hafter.trans (List.suffix_cons c text), h, ?_⟩
          intro earlier hearlier hlength
          rcases List.suffix_cons_iff.mp hearlier with rfl | hearlier
          · exact hhere
          · exact hfirst earlier hearlier hlength
      · rintro ⟨after, hafter, h, hfirst⟩
        rcases List.suffix_cons_iff.mp hafter with rfl | hafter
        · exact .inl h
        · refine .inr ⟨hfirst _ List.suffix_rfl (Nat.lt_succ_of_le hafter.length_le), ?_⟩
          apply ih.mpr
          refine ⟨after, hafter, h, ?_⟩
          intro earlier hearlier
          exact hfirst earlier (hearlier.trans (List.suffix_cons c text))

end Search

end G2Common.Pattern
