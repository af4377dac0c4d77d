import Mathlib.Algebra.Order.Floor.Ring
import Mathlib.Data.Rat.Floor
import Mathlib.Tactic.Linarith
import Mathlib.Tactic.FieldSimp
import Mathlib.Tactic.NormNum
import Mathlib.Tactic.Ring

/-!
Decimal text. Natural numbers are printed with leading zeros, rationals with a fixed number
of places, rounded to the nearest multiple of the last place, and what was printed is read off
the digits again.
-/

namespace G2Common.Decimal

/-- The nearest integer, the even one of two. -/
def roundHalfEven (q : ℚ) : ℤ :=
  if q - ⌊q⌋ < 1 / 2 then ⌊q⌋
  else if q - ⌊q⌋ = 1 / 2 then ⌊q⌋ + ⌊q⌋ % 2
  else ⌊q⌋ + 1

section Rounding

variable {q r : ℚ}

theorem roundHalfEven_cases (q : ℚ) :
    (roundHalfEven q = ⌊q⌋ ∧ q ≤ ⌊q⌋ + 1 / 2 ∧ (q = ⌊q⌋ + 1 / 2 → ⌊q⌋ % 2 = 0)) ∨
      (roundHalfEven q = ⌊q⌋ + 1 ∧ ⌊q⌋ + 1 / 2 ≤ q) := by
  rw [roundHalfEven]
  split
  case isTrue hlow => exact .inl ⟨rfl, by linarith, fun heq => by linarith⟩
  case isFalse hlow =>
    split
    case isTrue hhalf =>
      rcases Int.emod_two_eq_zero_or_one ⌊q⌋ with heven | hodd
      · exact .inl ⟨by omega, by linarith, fun _ => heven⟩
      · exact .inr ⟨by omega, by linarith⟩
    case isFalse hhalf => exact .inr ⟨rfl, by linarith⟩

theorem abs_sub_roundHalfEven_le (q : ℚ) : |q - roundHalfEven q| ≤ 1 / 2 := by
  have hfloor := Int.floor_le q
  have hceil := Int.lt_floor_add_one q
  rcases roundHalfEven_cases q with ⟨heq, hle, -⟩ | ⟨heq, hle⟩
  · rw [heq, abs_le]
    constructor <;> linarith
  · rw [heq, abs_le]
    push_cast
    constructor <;> linarith

theorem abs_sub_le_of_roundHalfEven (h : roundHalfEven q = roundHalfEven r) : |q - r| ≤ 1 := by
  have hq := abs_le.mp (abs_sub_roundHalfEven_le q)
  have hr := abs_le.mp (abs_sub_roundHalfEven_le r)
  rw [h] at hq
  rw [abs_le]
  constructor <;> linarith

theorem roundHalfEven_nonneg (h : 0 ≤ q) : 0 ≤ roundHalfEven q := by
  have hfloor := Int.floor_nonneg.mpr h
  rcases roundHalfEven_cases q with ⟨heq, -⟩ | ⟨heq, -⟩ <;> omega

/-- An even integer is reached from a half below it on. -/
theorem roundHalfEven_lt_iff {n : ℤ} (heven : n % 2 = 0) :
    roundHalfEven q < n ↔ q < n - 1 / 2 := by
  have hfloor := Int.floor_le q
  have hceil := Int.lt_floor_add_one q
  constructor
  · intro hlt
    rcases roundHalfEven_cases q with ⟨heq, hle, htie⟩ | ⟨heq, -⟩
    · rcases lt_or_ge ⌊q⌋ (n - 1) with hbelow | hlast
      · have hcast : ((⌊q⌋ : ℤ) : ℚ) ≤ n - 2 := by exact_mod_cast (by omega : ⌊q⌋ ≤ n - 2)
        linarith
      · -- the floor is odd, so there is no tie that would be resolved to it
        have hfloor : ⌊q⌋ = n - 1 := by omega
        have hcast : ((⌊q⌋ : ℤ) : ℚ) = n - 1 := by exact_mod_cast hfloor
        have hne : q ≠ ⌊q⌋ + 1 / 2 := by
          intro hhalf
          have := htie hhalf
          omega
        have hstrict := lt_of_le_of_ne hle hne
        linarith
    · have hcast : ((⌊q⌋ : ℤ) : ℚ) ≤ n - 2 := by exact_mod_cast (by omega : ⌊q⌋ ≤ n - 2)
      linarith
  · intro hlt
    have hbelow : ⌊q⌋ < n := by
      have hcast : ((⌊q⌋ : ℤ) : ℚ) < (n : ℚ) := by linarith
      exact_mod_cast hcast
    rcases roundHalfEven_cases q with ⟨heq, -⟩ | ⟨heq, hle⟩
    · omega
    · have hcast : ((⌊q⌋ : ℤ) : ℚ) + 1 < (n : ℚ) := by linarith
      have hnext : ⌊q⌋ + 1 < n := by exact_mod_cast hcast
      omega

end Rounding

/-- At least so many digits. -/
def padded (width n : Nat) : List Char :=
  List.replicate (width - (Nat.toDigits 10 n).length) '0' ++ Nat.toDigits 10 n

section Digits

variable {width n : Nat}

theorem length_padded (hwidth : 0 < width) (hn : n < 10 ^ width) :
    (padded width n).length = width := by
  have hle := (Nat.length_toDigits_le_iff (by decide) hwidth).mpr hn
  rw [padded, List.length_append, List.length_replicate]
  omega

theorem value_padded (width n : Nat) : Nat.ofDigitChars 10 (padded width n) 0 = n := by
  rw [padded, Nat.ofDigitChars_append, Nat.ofDigitChars_replicate_zero, Nat.mul_zero,
    Nat.ofDigitChars_ten_toDigits]

theorem isDigit_of_mem_padded {c : Char} (h : c ∈ padded width n) : c.isDigit := by
  rcases List.mem_append.mp h with hzero | hdigit
  · rw [List.eq_of_mem_replicate hzero]
    rfl
  · exact Nat.isDigit_of_mem_toDigits (by decide) (by decide) hdigit

theorem notMem_toDigits {c : Char} (h : c.isDigit = false) (n : Nat) :
    c ∉ Nat.toDigits 10 n := by
  intro hmem
  have hdigit := Nat.isDigit_of_mem_toDigits (by decide) (by decide) hmem
  rw [h] at hdigit
  cases hdigit

theorem notMem_padded {c : Char} (h : c.isDigit = false) (width n : Nat) :
    c ∉ padded width n := by
  intro hmem
  have hdigit := isDigit_of_mem_padded hmem
  rw [h] at hdigit
  cases hdigit

/-- The number that digits stand for. -/
def readNat (text : List Char) : Option Nat :=
  if text ≠ [] ∧ text.all Char.isDigit then some (Nat.ofDigitChars 10 text 0) else none

/-- An integer, with its sign in front of the digits if it is negative. -/
def readInt : List Char → Option Int
  | '-' :: text => (readNat text).map fun n => -(n : Int)
  | text => (readNat text).map fun n => (n : Int)

theorem padded_ne_nil (width n : Nat) : padded width n ≠ [] := by
  have hpos := Nat.length_toDigits_pos (b := 10) (n := n)
  intro hnil
  rw [List.append_eq_nil_iff.mp hnil |>.2] at hpos
  cases hpos

theorem readNat_padded (width n : Nat) : readNat (padded width n) = some n := by
  have hdigits : (padded width n).all Char.isDigit = true :=
    List.all_eq_true.mpr fun _ => isDigit_of_mem_padded
  rw [readNat, if_pos ⟨padded_ne_nil width n, hdigits⟩, value_padded]

theorem readInt_padded (width n : Nat) : readInt (padded width n) = some (n : Int) := by
  have hminus : '-' ∉ padded width n := notMem_padded rfl width n
  rw [readInt, readNat_padded]
  · rfl
  · intro text htext
    rw [htext] at hminus
    exact hminus List.mem_cons_self

theorem readInt_minus (width n : Nat) : readInt ('-' :: padded width n) = some (-(n : Int)) := by
  rw [readInt, readNat_padded]
  rfl

end Digits

/-- The multiple of the last place that is printed, without its sign. -/
def scaled (places : Nat) (q : ℚ) : Nat := (roundHalfEven (|q| * 10 ^ places)).toNat

/-- `"%0*.*f"` of a rational, with the width and the number of places. -/
def fixed (width places : Nat) (q : ℚ) : List Char :=
  let n := scaled places q
  let body := Nat.toDigits 10 (n / 10 ^ places) ++ '.' :: padded places (n % 10 ^ places)
  let sign := if q < 0 then ['-'] else []
  sign ++ List.replicate (width - (sign.length + body.length)) '0' ++ body

section Fixed

variable {places : Nat} {q r : ℚ}

theorem fixed_zero (places : Nat) (q : ℚ) :
    fixed 0 places q = (if q < 0 then ['-'] else []) ++
      (Nat.toDigits 10 (scaled places q / 10 ^ places) ++
        '.' :: padded places (scaled places q % 10 ^ places)) := by
  rw [fixed, Nat.zero_sub, List.replicate_zero, List.append_nil]

/-- Up to the width, the leading digits are filled up with zeros. -/
theorem fixed_padded {width : Nat} (hplaces : 0 < places) (hwidth : 0 < width) (hq : 0 ≤ q)
    (hn : scaled places q / 10 ^ places < 10 ^ width) :
    fixed (width + 1 + places) places q = padded width (scaled places q / 10 ^ places) ++
      '.' :: padded places (scaled places q % 10 ^ places) := by
  have hfraction : scaled places q % 10 ^ places < 10 ^ places :=
    Nat.mod_lt _ (Nat.pow_pos (by decide))
  have hlength := length_padded hplaces hfraction
  have hdigits := (Nat.length_toDigits_le_iff (by decide : 1 < 10) hwidth).mpr hn
  have hzeros : width + 1 + places - (0 + (Nat.toDigits 10 (scaled places q / 10 ^ places) ++
      '.' :: padded places (scaled places q % 10 ^ places)).length) =
        width - (Nat.toDigits 10 (scaled places q / 10 ^ places)).length := by
    rw [List.length_append, List.length_cons, hlength]
    omega
  rw [fixed, if_neg (not_lt.mpr hq), List.length_nil, List.nil_append, hzeros,
    ← List.append_assoc]
  rfl

/-- A bound on the printed multiple, where it is even as those of 10 are. -/
theorem scaled_lt {n : Nat} (heven : n % 2 = 0) (h : |q| * 10 ^ places < n - 1 / 2) :
    scaled places q < n := by
  have hround : roundHalfEven (|q| * 10 ^ places) < (n : ℤ) :=
    (roundHalfEven_lt_iff (by omega)).mpr (by exact_mod_cast h)
  have hnonneg : 0 ≤ roundHalfEven (|q| * 10 ^ places) := by
    apply roundHalfEven_nonneg
    positivity
  rw [scaled]
  omega

/-- The printed multiple is nearest. -/
theorem abs_scaled_sub_le (hq : 0 ≤ q) :
    |(scaled places q : ℚ) / 10 ^ places - q| ≤ 1 / 2 * (1 / 10 ^ places) := by
  have hpow : (0 : ℚ) < 10 ^ places := by positivity
  have hnonneg : 0 ≤ roundHalfEven (q * 10 ^ places) := by
    apply roundHalfEven_nonneg
    positivity
  have hcast : ((scaled places q : ℤ) : ℚ) = roundHalfEven (q * 10 ^ places) := by
    rw [scaled, abs_of_nonneg hq, Int.toNat_of_nonneg hnonneg]
  have hround := abs_sub_roundHalfEven_le (q * 10 ^ places)
  have hscale : (scaled places q : ℚ) / 10 ^ places - q =
      -(q * 10 ^ places - roundHalfEven (q * 10 ^ places)) * (1 / 10 ^ places) := by
    rw [← hcast]
    push_cast
    field_simp
    ring
  rw [hscale, abs_mul, abs_neg, abs_of_pos (one_div_pos.mpr hpow)]
  exact mul_le_mul_of_nonneg_right hround (by positivity)

/-- In front of the point stand as many digits as the bound has. -/
theorem scaled_div_lt {digits : Nat} (hdigits : 0 < digits) (h : |q| + 1 ≤ 10 ^ digits) :
    scaled places q / 10 ^ places < 10 ^ digits := by
  apply Nat.div_lt_of_lt_mul
  apply scaled_lt
  · rw [← Nat.pow_add]
    exact Nat.mod_eq_zero_of_dvd (dvd_pow (by decide) (by omega))
  · have hplaces : (1 : ℚ) ≤ 10 ^ places := one_le_pow₀ (by norm_num)
    have hscaled : (|q| + 1) * 10 ^ places ≤ 10 ^ digits * 10 ^ places :=
      mul_le_mul_of_nonneg_right h (by positivity)
    push_cast
    linarith

theorem length_fixed {width digits : Nat} (hplaces : 0 < places) (hdigits : 0 < digits)
    (hn : scaled places q / 10 ^ places < 10 ^ digits) :
    (fixed width places q).length ≤ max width (digits + places + 2) := by
  have hfraction : scaled places q % 10 ^ places < 10 ^ places :=
    Nat.mod_lt _ (Nat.pow_pos (by decide))
  have hlength := length_padded hplaces hfraction
  have hint := (Nat.length_toDigits_le_iff (by decide : 1 < 10) hdigits).mpr hn
  have hsign : (if q < 0 then ['-'] else []).length ≤ 1 := by
    split <;> simp
  simp only [fixed, List.length_append, List.length_replicate, List.length_cons, hlength]
  omega

/-- Two texts are the same where their numbers are rounded to the same. -/
theorem fixed_eq_iff (hq : 0 ≤ q) (hr : 0 ≤ r) :
    fixed 0 places q = fixed 0 places r ↔
      roundHalfEven (q * 10 ^ places) = roundHalfEven (r * 10 ^ places) := by
  have hscaled {x : ℚ} (hx : 0 ≤ x) : (scaled places x : ℤ) = roundHalfEven (x * 10 ^ places) := by
    rw [scaled, abs_of_nonneg hx, Int.toNat_of_nonneg]
    apply roundHalfEven_nonneg
    positivity
  rw [← hscaled hq, ← hscaled hr, Int.natCast_inj, fixed_zero, fixed_zero,
    if_neg (not_lt.mpr hq), if_neg (not_lt.mpr hr), List.nil_append, List.nil_append]
  constructor
  · intro h
    obtain ⟨hint, -, hfraction⟩ :=
      (List.append_cons_inj_of_notMem (notMem_toDigits rfl _) (notMem_padded rfl _ _)).mp h
    have hhigh := congrArg (Nat.ofDigitChars 10 · 0) hint
    have hlow := congrArg (Nat.ofDigitChars 10 · 0) hfraction
    simp only [Nat.ofDigitChars_ten_toDigits, value_padded] at hhigh hlow
    rw [← Nat.div_add_mod (scaled places q) (10 ^ places), hhigh, hlow, Nat.div_add_mod]
  · intro h
    rw [h]

theorem comma_notMem_fixed (width places : Nat) (q : ℚ) : ',' ∉ fixed width places q := by
  intro hmem
  simp only [fixed, List.mem_append, List.mem_cons] at hmem
  rcases hmem with (hsign | hzero) | hint | hpoint | hfraction
  · split at hsign <;> simp at hsign
  · exact absurd (List.eq_of_mem_replicate hzero) (by decide)
  · exact notMem_toDigits rfl _ hint
  · exact absurd hpoint (by decide)
  · exact notMem_padded rfl _ _ hfraction

end Fixed

end G2Common.Decimal
