import G2Common.Transition

/-!
A lease that one party asks a provider for and gives back, seen as an automaton
over the letters they exchange. It is free or held, it is asked for while it is
free and given back while it is held, and the provider may take it away.
-/

namespace G2Common.Lease

open Transition

inductive Letter where
  | request
  | release
  | lost
  deriving DecidableEq, Repr

/-- Is the lease held after the letter? A request of a held lease and a release
of a free one are refused. -/
def delta : Bool → Letter → Option Bool
  | false, .request => some true
  | true, .release => some false
  | _, .lost => some false
  | _, _ => none

theorem accepts_requests {word : List Letter} (h : ∀ letter ∈ word, letter = .request)
    (rest : List Letter) : accepts delta true (word ++ .request :: rest) = none := by
  cases word with
  | nil => rfl
  | cons letter more =>
      obtain rfl := h letter (by simp)
      rfl

/-- Two requests are separated by a release or a loss. -/
theorem separated_requests {held : Bool} {before between after : List Letter}
    (h : accepts delta held (before ++ .request :: between ++ .request :: after) ≠ none) :
    .release ∈ between ∨ .lost ∈ between := by
  by_contra hno
  have hbetween : ∀ letter ∈ between, letter = .request := by
    intro letter hletter
    cases letter with
    | request => rfl
    | release => exact absurd (.inl hletter) hno
    | lost => exact absurd (.inr hletter) hno
  rw [List.append_assoc, accepts_append] at h
  apply h
  cases accepts delta held before with
  | none => rfl
  | some state =>
      cases state with
      | true => rfl
      | false => exact accepts_requests hbetween after

theorem accepts_free {word : List Letter} (h : .request ∉ word) (rest : List Letter) :
    accepts delta false (word ++ .release :: rest) = none := by
  induction word with
  | nil => rfl
  | cons letter more ih =>
      cases letter with
      | request => exact absurd (by simp) h
      | release => rfl
      | lost => exact ih (by simpa using h)

/-- Two releases are separated by a request. -/
theorem separated_releases {held : Bool} {before between after : List Letter}
    (h : accepts delta held (before ++ .release :: between ++ .release :: after) ≠ none) :
    .request ∈ between := by
  by_contra hno
  rw [List.append_assoc, accepts_append] at h
  apply h
  cases accepts delta held before with
  | none => rfl
  | some state =>
      cases state with
      | true => exact accepts_free hno after
      | false => rfl

end G2Common.Lease
