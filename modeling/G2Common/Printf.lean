import Mathlib.Algebra.Group.Nat.Defs
import Mathlib.Data.List.Basic

/-!
Numbers as `printf` prints them, and the texts that are told apart by them.
-/

namespace G2Common.Printf

/-- `"%d"` of an `int`. -/
def decimal (i : Int) : List Char :=
  (if i < 0 then ['-'] else []) ++ Nat.toDigits 10 i.natAbs

/-- `"%x"` of an `unsigned int`. -/
def hexadecimal (n : Nat) : List Char := Nat.toDigits 16 n

/-- Texts are told apart by what stands before their first separator and behind it. -/
theorem append_separator_inj {α : Type*} {sep : α} {a b s t : List α} (ha : sep ∉ a)
    (hb : sep ∉ b) : a ++ sep :: s = b ++ sep :: t ↔ a = b ∧ s = t := by
  induction a generalizing b with
  | nil =>
      cases b with
      | nil => simp
      | cons c b => simp [List.ne_of_not_mem_cons hb]
  | cons d a ih =>
      cases b with
      | nil => simp [(List.ne_of_not_mem_cons ha).symm]
      | cons c b =>
          rw [List.cons_append, List.cons_append, List.cons.injEq, List.cons.injEq, and_assoc,
            ih (List.not_mem_of_not_mem_cons ha) (List.not_mem_of_not_mem_cons hb)]

section Digits

variable {base n m : Nat} {c : Char}

theorem mem_toDigits (hone : 1 < base) (hc : c ∈ Nat.toDigits base n) :
    ∃ d < base, c = d.digitChar := by
  induction n using Nat.strongRecOn with
  | ind n ih =>
      rw [Nat.toDigits_eq_if hone] at hc
      split at hc
      case isTrue hlt => exact ⟨n, hlt, List.mem_singleton.mp hc⟩
      case isFalse hge =>
        rcases List.mem_append.mp hc with hhigh | hlow
        · exact ih (n / base) (Nat.div_lt_self (by omega) hone) hhigh
        · exact ⟨n % base, Nat.mod_lt n (by omega), List.mem_singleton.mp hlow⟩

theorem digitChar_injective (hn : n < 16) (hm : m < 16) (h : n.digitChar = m.digitChar) :
    n = m := by
  have hall : ∀ a b : Fin 16, a.val.digitChar = b.val.digitChar → a = b := by decide
  exact congrArg Fin.val (hall ⟨n, hn⟩ ⟨m, hm⟩ h)

/-- The last digit comes off both numbers, and the digits before it are those of the
quotients. -/
theorem toDigits_injective (hone : 1 < base) (hbase : base ≤ 16)
    (h : Nat.toDigits base n = Nat.toDigits base m) : n = m := by
  induction n using Nat.strongRecOn generalizing m with
  | ind n ih =>
      have hlast (k : Nat) : k % base < 16 :=
        Nat.lt_of_lt_of_le (Nat.mod_lt k (Nat.lt_of_succ_lt hone)) hbase
      rw [Nat.toDigits_eq_if hone, Nat.toDigits_eq_if (n := m) hone] at h
      split at h
      case isTrue hn =>
        split at h
        case isTrue hm =>
          exact digitChar_injective (by omega) (by omega) (List.singleton_inj.mp h)
        case isFalse hm =>
          have hlength := congrArg List.length h
          have hpos := Nat.length_toDigits_pos (b := base) (n := m / base)
          simp only [List.length_singleton, List.length_append] at hlength
          omega
      case isFalse hn =>
        split at h
        case isTrue hm =>
          have hlength := congrArg List.length h
          have hpos := Nat.length_toDigits_pos (b := base) (n := n / base)
          simp only [List.length_singleton, List.length_append] at hlength
          omega
        case isFalse hm =>
          obtain ⟨hhigh, hlow⟩ := List.append_inj' h rfl
          have hdiv := ih (n / base) (Nat.div_lt_self (by omega) hone) hhigh
          have hmod := digitChar_injective (hlast n) (hlast m) (List.singleton_inj.mp hlow)
          rw [← Nat.div_add_mod n base, ← Nat.div_add_mod m base, hdiv, hmod]

theorem comma_notMem_toDigits (hone : 1 < base) (hbase : base ≤ 16) (n : Nat) :
    ',' ∉ Nat.toDigits base n := by
  intro hmem
  obtain ⟨d, hd, heq⟩ := mem_toDigits hone hmem
  have hall : ∀ a : Fin 16, ',' ≠ a.val.digitChar := by decide
  exact hall ⟨d, by omega⟩ heq

theorem minus_notMem_toDigits (n : Nat) : '-' ∉ Nat.toDigits 10 n := by
  intro hmem
  obtain ⟨d, hd, heq⟩ := mem_toDigits (by omega) hmem
  have hall : ∀ a : Fin 10, '-' ≠ a.val.digitChar := by decide
  exact hall ⟨d, hd⟩ heq

end Digits

section Decimal

variable {i j : Int}

theorem decimal_nonneg (h : 0 ≤ i) : decimal i = Nat.toDigits 10 i.natAbs := by
  rw [decimal, if_neg (by omega), List.nil_append]

theorem decimal_neg (h : i < 0) : decimal i = '-' :: Nat.toDigits 10 i.natAbs := by
  rw [decimal, if_pos h]
  rfl

theorem decimal_injective (h : decimal i = decimal j) : i = j := by
  have hdigits (a b : Int) (ha : a < 0) (hb : 0 ≤ b) : decimal a ≠ decimal b := by
    intro heq
    rw [decimal_neg ha, decimal_nonneg hb] at heq
    exact minus_notMem_toDigits b.natAbs (heq ▸ List.mem_cons_self)
  rcases Int.lt_or_le i 0 with hi | hi
  · rcases Int.lt_or_le j 0 with hj | hj
    · rw [decimal_neg hi, decimal_neg hj] at h
      have habs := toDigits_injective (by omega) (by omega) (List.cons.inj h).2
      omega
    · exact absurd h (hdigits i j hi hj)
  · rcases Int.lt_or_le j 0 with hj | hj
    · exact absurd h.symm (hdigits j i hj hi)
    · rw [decimal_nonneg hi, decimal_nonneg hj] at h
      have habs := toDigits_injective (by omega) (by omega) h
      omega

theorem comma_notMem_decimal (i : Int) : ',' ∉ decimal i := by
  have hdigits : ',' ∉ Nat.toDigits 10 i.natAbs :=
    comma_notMem_toDigits (by omega) (by omega) _
  rcases Int.lt_or_le i 0 with hi | hi
  · rw [decimal_neg hi, List.mem_cons, not_or]
    exact ⟨by decide, hdigits⟩
  · rw [decimal_nonneg hi]
    exact hdigits

/-- An `int` of 32 bits takes at most eleven characters. -/
theorem length_decimal_le (v : Int32) : (decimal v.toInt).length ≤ 11 := by
  have hlow := v.le_toInt
  have hhigh := v.toInt_lt
  have hdigits : (Nat.toDigits 10 v.toInt.natAbs).length ≤ 10 := by
    apply (Nat.length_toDigits_le_iff (by omega) (by omega)).mpr
    omega
  rcases Int.lt_or_le v.toInt 0 with hv | hv
  · rw [decimal_neg hv, List.length_cons]
    omega
  · rw [decimal_nonneg hv]
    omega

end Decimal

theorem length_hexadecimal_le (v : UInt32) : (hexadecimal v.toNat).length ≤ 8 := by
  apply (Nat.length_toDigits_le_iff (by omega) (by omega)).mpr
  have := v.toNat_lt
  omega

end G2Common.Printf
