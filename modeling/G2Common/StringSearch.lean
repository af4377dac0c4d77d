import Mathlib.Data.List.Basic
import Mathlib.Data.List.Infix
import Mathlib.Data.Nat.Find

/-!
Search for a pattern in a text. A search that slides a window over the text and
compares it with the pattern from its end knows, at a mismatch, a suffix of the pattern
and one more element of the text. This rules out most shifts of the window: what is left
are shifts by which the suffix reoccurs in the pattern, and periods of the pattern.
-/

namespace G2Common.StringSearch

variable {α : Type*} {str pat : List α} {s j d : Nat}

/-- The pattern stands at position `s` of the text. -/
def OccursAt (str pat : List α) (s : Nat) : Prop :=
  ∀ j < pat.length, str[s + j]? = pat[j]?

instance [DecidableEq α] (str pat : List α) (s : Nat) : Decidable (OccursAt str pat s) :=
  inferInstanceAs (Decidable (∀ j < pat.length, str[s + j]? = pat[j]?))

/-- Naive search from left to right. -/
def firstOccurrence [DecidableEq α] (str pat : List α) : Option Nat :=
  (List.range (str.length + 1)).find? (fun s => decide (OccursAt str pat s))

theorem OccursAt.fits (h : OccursAt str pat s) (hpat : pat ≠ []) :
    s + pat.length ≤ str.length := by
  have hpos : 0 < pat.length := List.length_pos_of_ne_nil hpat
  have hlast := h (pat.length - 1) (by omega)
  rw [List.getElem?_eq_getElem (show pat.length - 1 < pat.length by omega)] at hlast
  have hlt := (List.getElem?_eq_some_iff.mp hlast).choose
  omega

section FirstOccurrence

variable [DecidableEq α]

theorem firstOccurrence_eq_some (hpat : pat ≠ []) (hocc : OccursAt str pat s)
    (hfirst : ∀ r < s, ¬ OccursAt str pat r) : firstOccurrence str pat = some s := by
  have hfits := hocc.fits hpat
  rw [firstOccurrence, List.find?_range_eq_some]
  refine ⟨decide_eq_true hocc, List.mem_range.mpr (by omega), ?_⟩
  intro r hr
  simpa using hfirst r hr

theorem firstOccurrence_eq_none (h : ∀ s, ¬ OccursAt str pat s) :
    firstOccurrence str pat = none := by
  rw [firstOccurrence, List.find?_eq_none]
  intro s _
  simpa using h s

/-- The search goes no further than an occurrence. -/
theorem firstOccurrence_le (hpat : pat ≠ []) (hocc : OccursAt str pat s) :
    ∃ r ≤ s, firstOccurrence str pat = some r := by
  classical
  have hex : ∃ r, OccursAt str pat r := ⟨s, hocc⟩
  exact ⟨Nat.find hex, Nat.find_min' hex hocc,
    firstOccurrence_eq_some hpat (Nat.find_spec hex) (fun _ hr => Nat.find_min hex hr)⟩

end FirstOccurrence

/-- A text has no occurrence that the whole text does not have. -/
theorem OccursAt.of_take {n : Nat} (h : OccursAt (str.take n) pat s) : OccursAt str pat s := by
  intro j hj
  have hsome := h j hj
  rw [List.getElem?_eq_getElem hj, List.getElem?_take] at hsome
  split at hsome
  case isTrue => rw [hsome, List.getElem?_eq_getElem hj]
  case isFalse => cases hsome

theorem firstOccurrence_take [DecidableEq α] (hpat : pat ≠ [])
    (h : firstOccurrence str pat = none) (n : Nat) :
    firstOccurrence (str.take n) pat = none := by
  apply firstOccurrence_eq_none
  intro s hocc
  obtain ⟨r, -, hfound⟩ := firstOccurrence_le hpat hocc.of_take
  rw [h] at hfound
  cases hfound

/-- The pattern shifted by `k` agrees with itself where both overlap, that is, its
suffix from `k` on is a prefix. -/
def IsPeriod (pat : List α) (k : Nat) : Prop :=
  ∀ j < pat.length - k, pat[k + j]? = pat[j]?

instance [DecidableEq α] (pat : List α) (k : Nat) : Decidable (IsPeriod pat k) :=
  inferInstanceAs (Decidable (∀ j < pat.length - k, pat[k + j]? = pat[j]?))

theorem isPeriod_zero (pat : List α) : IsPeriod pat 0 := by
  intro j _
  rw [Nat.zero_add]

theorem IsPeriod.at (h : IsPeriod pat d) (hd : d ≤ j) (hj : j < pat.length) :
    pat[j]? = pat[j - d]? := by
  have hshift := h (j - d) (by omega)
  rwa [Nat.add_sub_cancel' hd] at hshift

/-- All elements of the pattern are equal if it has the period 1. -/
theorem IsPeriod.all (h : IsPeriod pat 1) (k : Nat) : IsPeriod pat k := by
  induction k with
  | zero => exact isPeriod_zero pat
  | succ k ih =>
      intro j hj
      have hnext := h (k + j) (by omega)
      rw [show 1 + (k + j) = k + 1 + j by omega] at hnext
      rw [hnext, ih j (by omega)]

/-- The window at `s`, compared from its end, first differs from the pattern at `j`. -/
structure Mismatch (str pat : List α) (s j : Nat) : Prop where
  inside : j < pat.length
  suffix : ∀ t, j < t → t < pat.length → str[s + t]? = pat[t]?
  differs : str[s + j]? ≠ pat[j]?

/-- The suffix of the pattern after `j` stands in it `d` earlier, too, after another
element. -/
structure Reoccurs (pat : List α) (j d : Nat) : Prop where
  pos : 0 < d
  le : d ≤ j
  suffix : ∀ t, j < t → t < pat.length → pat[t - d]? = pat[t]?
  differs : pat[j - d]? ≠ pat[j]?

theorem OccursAt.shifted (h : OccursAt str pat (s + d)) (hd : d ≤ j) (hj : j < pat.length) :
    str[s + j]? = pat[j - d]? := by
  have hshift := h (j - d) (by omega)
  rwa [show s + d + (j - d) = s + j by omega] at hshift

theorem Mismatch.not_occursAt (h : Mismatch str pat s j) : ¬ OccursAt str pat s :=
  fun hocc => h.differs (hocc j h.inside)

theorem Mismatch.unique {i : Nat} (hi : Mismatch str pat s i)
    (hj : Mismatch str pat s j) : i = j := by
  rcases Nat.lt_trichotomy i j with hlt | heq | hgt
  · exact absurd (hi.suffix j hlt hj.inside) hj.differs
  · exact heq
  · exact absurd (hj.suffix i hgt hi.inside) hi.differs

/-- A short shift to an occurrence makes the suffix reoccur. -/
theorem Mismatch.reoccurs (h : Mismatch str pat s j) (hocc : OccursAt str pat (s + d))
    (hpos : 0 < d) (hle : d ≤ j) : Reoccurs pat j d where
  pos := hpos
  le := hle
  suffix t hjt ht := by
    rw [← hocc.shifted (by omega) ht]
    exact h.suffix t hjt ht
  differs := by
    rw [← hocc.shifted hle h.inside]
    exact h.differs

/-- A long shift to an occurrence is a period. -/
theorem Mismatch.isPeriod (h : Mismatch str pat s j) (hocc : OccursAt str pat (s + d))
    (hlt : j < d) : IsPeriod pat d := by
  intro t ht
  rw [← h.suffix (d + t) (by omega) (by omega), hocc.shifted (by omega) (by omega),
    Nat.add_sub_cancel_left]

/-- A shift that is not longer than the way to any occurrence jumps over none. -/
theorem none_below_shift (hbelow : ∀ r < s, ¬ OccursAt str pat r) (hs : ¬ OccursAt str pat s)
    (hshift : ∀ t, 0 < t → OccursAt str pat (s + t) → d ≤ t) :
    ∀ r < s + d, ¬ OccursAt str pat r := by
  intro r hr hocc
  rcases Nat.lt_trichotomy r s with hlt | rfl | hgt
  · exact hbelow r hlt hocc
  · exact hs hocc
  · have hd := hshift (r - s) (by omega) (by rwa [Nat.add_sub_cancel' (Nat.le_of_lt hgt)])
    omega

end G2Common.StringSearch
