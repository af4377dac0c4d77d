import Mathlib.Algebra.BigOperators.Group.List.Basic
import Mathlib.Algebra.GroupWithZero.Nat

/-!
Sizes in whole pages, rounded down and rounded up.
-/

namespace G2Common.Paging

def roundDown (page : Nat) (size : Nat) : Nat := size / page * page

def roundUp (page : Nat) (size : Nat) : Nat := (size + page - 1) / page * page

/-- The bytes up to the end of their last page are zero. -/
def padded (page : Nat) (content : List UInt8) : List UInt8 :=
  content ++ List.replicate (roundUp page content.length - content.length) 0

variable {page size : Nat}

/-- Rounding down loses a page of what does not end with one. -/
theorem roundUp_eq (hpage : 0 < page) (size : Nat) :
    roundUp page size = roundDown page size + if page ∣ size then 0 else page := by
  have hsize := Nat.div_add_mod size page
  have hmod := Nat.mod_lt size hpage
  rw [roundUp, roundDown]
  split
  case isTrue hdvd =>
      have hround : size + page - 1 = page * (size / page) + (page - 1) := by
        rw [Nat.mul_div_cancel' hdvd]
        omega
      have hlt : page - 1 < page := by omega
      rw [hround, Nat.mul_add_div hpage, Nat.div_eq_of_lt hlt]
      rfl
  case isFalse hdvd =>
      have hpos : 0 < size % page := Nat.pos_of_ne_zero (fun h => hdvd (Nat.dvd_of_mod_eq_zero h))
      have hround : size + page - 1 = page * (size / page + 1) + (size % page - 1) := by
        rw [Nat.mul_add, Nat.mul_one]
        omega
      have hlt : size % page - 1 < page := by omega
      rw [hround, Nat.mul_add_div hpage, Nat.div_eq_of_lt hlt, Nat.add_zero, Nat.succ_mul]

theorem le_roundUp (hpage : 0 < page) (size : Nat) : size ≤ roundUp page size := by
  have hsize := Nat.div_add_mod' size page
  have hmod := Nat.mod_lt size hpage
  rw [roundUp_eq hpage, roundDown]
  split
  case isTrue hdvd => exact Nat.le_of_eq (Nat.div_mul_cancel hdvd).symm
  case isFalse => omega

theorem dvd_roundUp (page size : Nat) : page ∣ roundUp page size := Nat.dvd_mul_left page _

theorem length_padded (hpage : 0 < page) (content : List UInt8) :
    (padded page content).length = roundUp page content.length := by
  have hle := le_roundUp hpage content.length
  rw [padded, List.length_append, List.length_replicate]
  omega

/-- The pages that rounding down loses. -/
theorem sum_roundUp (hpage : 0 < page) (sizes : List Nat) :
    (sizes.map (roundUp page)).sum =
      (sizes.map (roundDown page)).sum + sizes.countP (fun size => ¬ page ∣ size) * page := by
  induction sizes with
  | nil => simp
  | cons size sizes ih =>
      rw [List.map_cons, List.sum_cons, ih, roundUp_eq hpage, List.map_cons, List.sum_cons,
        List.countP_cons, Nat.add_mul]
      by_cases hdvd : page ∣ size
      · simp only [hdvd, not_true_eq_false, decide_false, if_true, Bool.false_eq_true, if_false]
        omega
      · simp only [hdvd, not_false_eq_true, decide_true, if_true, if_false]
        omega

theorem dvd_sum_roundUp (page : Nat) (sizes : List Nat) :
    page ∣ (sizes.map (roundUp page)).sum := by
  induction sizes with
  | nil => exact Nat.dvd_zero page
  | cons size sizes ih => exact Nat.dvd_add (dvd_roundUp page size) ih

end G2Common.Paging
