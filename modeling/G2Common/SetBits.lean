import Mathlib.Algebra.Group.Nat.Defs
import Mathlib.Data.List.Count

/-!
How many bits of a number are set, and the step that clears the lowest of them.
-/

namespace G2Common.SetBits

/-- The bits that are set among the first `w`. -/
def setBits (w n : Nat) : Nat := (List.range w).countP n.testBit

variable {w n : Nat}

@[simp] theorem setBits_zero (w : Nat) : setBits w 0 = 0 := by
  rw [setBits, List.countP_eq_zero]
  intro i _
  rw [Nat.zero_testBit]
  exact Bool.false_ne_true

theorem setBits_le (w n : Nat) : setBits w n ≤ w := by
  have hle : setBits w n ≤ (List.range w).length := List.countP_le_length
  rwa [List.length_range] at hle

theorem setBits_succ (w n : Nat) : setBits (w + 1) n = n % 2 + setBits w (n / 2) := by
  rw [setBits, List.range_succ_eq_map, List.countP_cons, List.countP_map, Nat.add_comm]
  congr 1
  · rw [Nat.testBit_zero]
    rcases Nat.mod_two_eq_zero_or_one n with h | h <;> rw [h] <;> rfl
  · apply List.countP_congr
    intro i _
    rw [Function.comp_apply, Nat.succ_eq_add_one, Nat.testBit_succ]

/-- The lowest bit that is set is cleared, and no other. -/
theorem setBits_and_sub_one (h : 0 < n) (hw : n < 2 ^ w) :
    setBits w (n &&& (n - 1)) + 1 = setBits w n := by
  induction w generalizing n with
  | zero =>
      rw [Nat.pow_zero] at hw
      omega
  | succ w ih =>
      rw [setBits_succ, setBits_succ, Nat.and_div_two]
      rcases Nat.mod_two_eq_zero_or_one n with heven | hodd
      · have hhalf : (n - 1) / 2 = n / 2 - 1 := by omega
        have hlow : (n &&& (n - 1)) % 2 = 0 := by
          have hone := @Nat.and_mod_two_eq_one n (n - 1)
          omega
        have hrest := @ih (n / 2) (by omega) (by rw [Nat.pow_succ] at hw; omega)
        rw [hhalf, hlow, heven]
        omega
      · have hhalf : (n - 1) / 2 = n / 2 := by omega
        have hlow : (n &&& (n - 1)) % 2 = 0 := by
          have hone := @Nat.and_mod_two_eq_one n (n - 1)
          omega
        rw [hhalf, hlow, hodd, Nat.and_self]
        omega

end G2Common.SetBits
