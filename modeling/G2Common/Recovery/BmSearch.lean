import G2Common.StringSearch
import Mathlib.Algebra.Group.Nat.Defs
import Mathlib.Logic.Function.Basic

/-!
The Boyer-Moore search of `recovery_updater.cpp`. A length is the number of bytes in the
list; where it is below 2^31 it survives the conversions between `size_t`, `uint32_t` and
`int`. What is undefined in the source, or does not return, has no result.
-/

namespace G2Common.Recovery

open StringSearch

/-- Whether `strncmp` finds no difference; both lists hold at least `n` bytes. -/
def strncmpZero : Nat → List UInt8 → List UInt8 → Bool
  | n + 1, a :: as, b :: bs => a == b && (a == 0 || strncmpZero n as bs)
  | _, _, _ => true

/-- The loop of `max_suffix_len`, with `left` for `p - i`. -/
def maxSuffixLoop (str : List UInt8) (p : Nat) : Nat → Nat → Nat
  | 0, i => i
  | left + 1, i =>
      if str[p - i]? = str[str.length - 1 - i]? then maxSuffixLoop str p left (i + 1) else i

def maxSuffixLen (str : List UInt8) (p : Nat) : Nat :=
  maxSuffixLoop str p p 0

/-- The second loop of `bm_make_delta1`, with the number of turns that are left. -/
def delta1Loop (pat : List UInt8) : Nat → Nat → (UInt8 → Nat) → Option (UInt8 → Nat)
  | 0, _, delta1 => some delta1
  | left + 1, i, delta1 => do
      let idx ← pat[i]?
      delta1Loop pat left (i + 1) (Function.update delta1 idx (pat.length - 1 - i))

/-- `bm_make_delta1`. The bound `pat_len - 1` is unsigned and wraps for no pattern. -/
def bmMakeDelta1 (pat : List UInt8) : Option (UInt8 → Nat) :=
  delta1Loop pat ((pat.length + (2 ^ 32 - 1)) % 2 ^ 32) 0 (fun _ => pat.length)

/-- The first loop of `bm_make_delta2`, from `p` down to 0, with the entries above. -/
def delta2Prefix (pat : List UInt8) : Nat → Nat → List Nat → List Nat
  | 0, _, delta2 => delta2
  | p + 1, lastPrefix, delta2 =>
      let lastPrefix :=
        if strncmpZero (pat.length - p) (pat.drop p) pat then p + 1 else lastPrefix
      delta2Prefix pat p lastPrefix ((lastPrefix + (pat.length - 1 - p)) :: delta2)

/-- One turn of the second loop of `bm_make_delta2`. -/
def delta2Suffix (pat : List UInt8) (delta2 : List Nat) (p : Nat) : List Nat :=
  let suf_len := maxSuffixLen pat p
  if pat[p - suf_len]? ≠ pat[pat.length - 1 - suf_len]? then
    delta2.set (pat.length - 1 - suf_len) (pat.length - 1 - p + suf_len)
  else delta2

def bmMakeDelta2 (pat : List UInt8) : List Nat :=
  (List.range (pat.length - 1)).foldl (delta2Suffix pat)
    (delta2Prefix pat pat.length (pat.length - 1) [])

/-- The inner loop of `bm_search`. Here and below `i` and `j` are one higher than in the
source, where both can reach -1. -/
def compareLoop (str pat : List UInt8) : Nat → Nat → Option (Nat × Nat)
  | i, 0 => some (i, 0)
  | 0, _ + 1 => none
  | i + 1, j + 1 => do
      let a ← str[i]?
      let b ← pat[j]?
      if a = b then compareLoop str pat i j else some (i + 1, j + 1)

/-- The sum may not overflow an `int`. -/
def addInt (i n : Nat) : Option Nat :=
  if i + n ≤ 2 ^ 31 then some (i + n) else none

/-- The outer loop of `bm_search`. -/
def searchLoop (str pat : List UInt8) (delta1 : UInt8 → Nat) (delta2 : List Nat) :
    Nat → Nat → Option (Option Nat)
  | 0, _ => none
  | fuel + 1, i =>
      if i ≤ str.length then
        match compareLoop str pat i pat.length with
        | none => none
        | some (i, 0) => some (some i)
        | some (i, j + 1) => do
            let c ← str[i - 1]?
            let shift ← delta2[j]?
            searchLoop str pat delta1 delta2 fuel (← addInt i (max (delta1 c) shift))
      else some none

/-- `bm_search`, with the position that the returned pointer has in the text. -/
def bmSearch (str pat : List UInt8) : Option (Option Nat) := do
  let delta1 ← bmMakeDelta1 pat
  let delta2 := bmMakeDelta2 pat
  if pat.length = 0 then some (some 0)
  else searchLoop str pat delta1 delta2 (str.length + 1) pat.length

section Tables

variable {pat : List UInt8} {j p : Nat}

theorem strncmpZero_iff {n : Nat} {as bs : List UInt8} (has : n ≤ as.length)
    (hbs : n ≤ bs.length) (hzero : 0 ∉ as) :
    strncmpZero n as bs = true ↔ ∀ j < n, as[j]? = bs[j]? := by
  induction n generalizing as bs with
  | zero => simp [strncmpZero]
  | succ n ih =>
      cases as with
      | nil => simp at has
      | cons a as =>
          cases bs with
          | nil => simp at hbs
          | cons b bs =>
              simp only [List.length_cons, Nat.add_le_add_iff_right] at has hbs
              obtain ⟨ha, hrest⟩ : a ≠ 0 ∧ 0 ∉ as := by
                simpa [eq_comm] using hzero
              have htail := ih has hbs hrest
              simp only [strncmpZero, Bool.and_eq_true, Bool.or_eq_true, beq_iff_eq, ha,
                false_or, htail]
              constructor
              · rintro ⟨rfl, hall⟩ j hj
                cases j with
                | zero => rfl
                | succ j => exact hall j (by omega)
              · intro hall
                refine ⟨by simpa using hall 0 (by omega), ?_⟩
                intro j hj
                simpa using hall (j + 1) (by omega)

theorem strncmpZero_drop (hzero : 0 ∉ pat) (p : Nat) :
    strncmpZero (pat.length - p) (pat.drop p) pat = true ↔ IsPeriod pat p := by
  rw [strncmpZero_iff (by simp) (by omega) (fun h => hzero (List.mem_of_mem_drop h))]
  simp only [List.getElem?_drop]
  rfl

/-- What the first loop makes of a mismatch at `j`: one more than the next start of a
suffix that is a prefix. -/
def PrefixShift (pat : List UInt8) (j shift : Nat) : Prop :=
  (∃ q, j ≤ q ∧ q < pat.length ∧ IsPeriod pat q ∧
    (∀ k, j ≤ k → k < q → ¬ IsPeriod pat k) ∧ shift = q + 1) ∨
  ((∀ k, j ≤ k → k < pat.length → ¬ IsPeriod pat k) ∧ shift = pat.length - 1)

theorem PrefixShift.next (h : PrefixShift pat (p + 1) j) (hp : ¬ IsPeriod pat p) :
    PrefixShift pat p j := by
  rcases h with ⟨q, hle, hlt, hq, hnone, rfl⟩ | ⟨hnone, rfl⟩
  · refine Or.inl ⟨q, by omega, hlt, hq, ?_, rfl⟩
    intro k hk hkq hperiod
    rcases Nat.eq_or_lt_of_le hk with rfl | hlt
    · exact hp hperiod
    · exact hnone k hlt hkq hperiod
  · refine Or.inr ⟨?_, rfl⟩
    intro k hk hkq hperiod
    rcases Nat.eq_or_lt_of_le hk with rfl | hlt
    · exact hp hperiod
    · exact hnone k hlt hkq hperiod

theorem delta2Prefix_spec (hzero : 0 ∉ pat) {lastPrefix : Nat} {delta2 : List Nat}
    (hp : p ≤ pat.length) (hlast : PrefixShift pat p lastPrefix)
    (habove : ∀ j, p ≤ j → j < pat.length →
      ∃ shift, delta2[j - p]? = some (shift + (pat.length - 1 - j)) ∧ PrefixShift pat j shift) :
    ∀ j < pat.length, ∃ shift,
      (delta2Prefix pat p lastPrefix delta2)[j]? = some (shift + (pat.length - 1 - j)) ∧
        PrefixShift pat j shift := by
  induction p generalizing lastPrefix delta2 with
  | zero => exact fun j hj => habove j (Nat.zero_le j) hj
  | succ p ih =>
      rw [delta2Prefix]
      have hnext : PrefixShift pat p
          (if strncmpZero (pat.length - p) (pat.drop p) pat then p + 1 else lastPrefix) := by
        split
        · rename_i hzero'
          have hperiod := (strncmpZero_drop hzero p).mp hzero'
          exact Or.inl ⟨p, Nat.le_refl p, hp, hperiod, fun k hk hkp => absurd hkp (by omega), rfl⟩
        · rename_i hdiffer
          exact hlast.next (mt (strncmpZero_drop hzero p).mpr hdiffer)
      apply ih (by omega) hnext
      intro j hle hj
      rcases Nat.eq_or_lt_of_le hle with rfl | hlt
      · exact ⟨_, by rw [Nat.sub_self, List.getElem?_cons_zero], hnext⟩
      · obtain ⟨shift, hentry, hshift⟩ := habove j hlt hj
        refine ⟨shift, ?_, hshift⟩
        rwa [show j - p = (j - (p + 1)) + 1 by omega, List.getElem?_cons_succ]

theorem maxSuffixLoop_spec (pat : List UInt8) {left i : Nat} (h : i + left = p) :
    i ≤ maxSuffixLoop pat p left i ∧ maxSuffixLoop pat p left i ≤ p ∧
      (∀ t, i ≤ t → t < maxSuffixLoop pat p left i →
        pat[p - t]? = pat[pat.length - 1 - t]?) ∧
      (maxSuffixLoop pat p left i = p ∨
        pat[p - maxSuffixLoop pat p left i]? ≠
          pat[pat.length - 1 - maxSuffixLoop pat p left i]?) := by
  induction left generalizing i with
  | zero =>
      simp only [maxSuffixLoop]
      exact ⟨Nat.le_refl i, by omega, fun t hle hlt => absurd hlt (by omega), Or.inl (by omega)⟩
  | succ left ih =>
      rw [maxSuffixLoop]
      split
      · rename_i heq
        obtain ⟨hle, hp, hsame, hend⟩ := ih (show i + 1 + left = p by omega)
        refine ⟨by omega, hp, ?_, hend⟩
        intro t hit ht
        rcases Nat.eq_or_lt_of_le hit with rfl | hlt
        · exact heq
        · exact hsame t hlt ht
      · rename_i hdiffer
        exact ⟨Nat.le_refl i, by omega, fun t hle hlt => absurd hlt (by omega), Or.inr hdiffer⟩

/-- One turn of the second loop writes the entry of a mismatch at `j` exactly if the suffix
after `j` reoccurs so that it ends at `p`. -/
theorem reoccurs_iff (hp : p + 1 < pat.length) (hj : j < pat.length) :
    Reoccurs pat j (pat.length - 1 - p) ↔
      pat[p - maxSuffixLen pat p]? ≠ pat[pat.length - 1 - maxSuffixLen pat p]? ∧
        j = pat.length - 1 - maxSuffixLen pat p := by
  obtain ⟨-, hle, hsame, hend⟩ := maxSuffixLoop_spec pat (Nat.zero_add p)
  change maxSuffixLen pat p ≤ p at hle
  constructor
  · intro h
    have hdiffer := h.differs
    have hjp := h.le
    have hlen : maxSuffixLen pat p = pat.length - 1 - j := by
      rcases Nat.lt_trichotomy (maxSuffixLen pat p) (pat.length - 1 - j) with hlt | heq | hgt
      · exfalso
        have hfar := hend.resolve_left (show maxSuffixLen pat p ≠ p by omega)
        have hsuffix := h.suffix (pat.length - 1 - maxSuffixLen pat p) (by omega) (by omega)
        rw [show pat.length - 1 - maxSuffixLen pat p - (pat.length - 1 - p) =
          p - maxSuffixLen pat p by omega] at hsuffix
        exact hfar hsuffix
      · exact heq
      · exfalso
        have hequal := hsame (pat.length - 1 - j) (Nat.zero_le _) hgt
        rw [show p - (pat.length - 1 - j) = j - (pat.length - 1 - p) by omega,
          show pat.length - 1 - (pat.length - 1 - j) = j by omega] at hequal
        exact hdiffer hequal
    rw [hlen, show p - (pat.length - 1 - j) = j - (pat.length - 1 - p) by omega,
      show pat.length - 1 - (pat.length - 1 - j) = j by omega]
    exact ⟨hdiffer, rfl⟩
  · rintro ⟨hdiffer, rfl⟩
    refine ⟨by omega, by omega, ?_, ?_⟩
    · intro t hlt ht
      have hequal := hsame (pat.length - 1 - t) (Nat.zero_le _)
        (show pat.length - 1 - t < maxSuffixLen pat p by omega)
      rwa [show p - (pat.length - 1 - t) = t - (pat.length - 1 - p) by omega,
        show pat.length - 1 - (pat.length - 1 - t) = t by omega] at hequal
    · rwa [show pat.length - 1 - maxSuffixLen pat p - (pat.length - 1 - p) =
        p - maxSuffixLen pat p by omega]

/-- What both loops make of a mismatch at `j`. -/
def Shift (pat : List UInt8) (j shift : Nat) : Prop :=
  (Reoccurs pat j shift ∧ ∀ d, Reoccurs pat j d → shift ≤ d) ∨
  ((∀ d, ¬ Reoccurs pat j d) ∧ PrefixShift pat j shift)

/-- The same after the turns of the second loop below `turns`. -/
def ShiftSoFar (pat : List UInt8) (turns j shift : Nat) : Prop :=
  (Reoccurs pat j shift ∧ ∀ d, Reoccurs pat j d → pat.length ≤ turns + d → shift ≤ d) ∨
  ((∀ d, Reoccurs pat j d → turns + d < pat.length) ∧ PrefixShift pat j shift)

theorem ShiftSoFar.shift (h : ShiftSoFar pat (pat.length - 1) j p) : Shift pat j p := by
  rcases h with ⟨hre, hleast⟩ | ⟨hnone, hprefix⟩
  · exact Or.inl ⟨hre, fun d hd => hleast d hd (by have := hd.pos; omega)⟩
  · refine Or.inr ⟨fun d hd => ?_, hprefix⟩
    have hlt := hnone d hd
    have hpos := hd.pos
    omega

/-- A turn that does not write the entry. -/
theorem ShiftSoFar.skip {turns shift : Nat} (h : ShiftSoFar pat turns j shift)
    (hskip : ¬ Reoccurs pat j (pat.length - 1 - turns)) : ShiftSoFar pat (turns + 1) j shift := by
  have hold (d : Nat) (hd : Reoccurs pat j d) (hle : pat.length ≤ turns + 1 + d) :
      pat.length ≤ turns + d := by
    by_contra hlt
    apply hskip
    rwa [show pat.length - 1 - turns = d by omega]
  rcases h with ⟨hre, hleast⟩ | ⟨hnone, hprefix⟩
  · exact Or.inl ⟨hre, fun d hd hle => hleast d hd (hold d hd hle)⟩
  · refine Or.inr ⟨fun d hd => ?_, hprefix⟩
    have hlt := hnone d hd
    have hle := hold d hd
    omega

theorem delta2Suffix_spec {delta2 : List Nat} (hp : p + 1 < pat.length)
    (h : ∀ j < pat.length, ∃ shift, delta2[j]? = some (shift + (pat.length - 1 - j)) ∧
      ShiftSoFar pat p j shift) :
    ∀ j < pat.length, ∃ shift,
      (delta2Suffix pat delta2 p)[j]? = some (shift + (pat.length - 1 - j)) ∧
        ShiftSoFar pat (p + 1) j shift := by
  intro j hj
  obtain ⟨shift, hentry, hshift⟩ := h j hj
  have hlength : j < delta2.length := (List.getElem?_eq_some_iff.mp hentry).choose
  by_cases hre : Reoccurs pat j (pat.length - 1 - p)
  · obtain ⟨hdiffer, hindex⟩ := (reoccurs_iff hp hj).mp hre
    refine ⟨pat.length - 1 - p, ?_, Or.inl ⟨hre, fun d _ hle => by omega⟩⟩
    have hlen : maxSuffixLen pat p < pat.length := by
      have hle := (maxSuffixLoop_spec pat (Nat.zero_add p)).2.1
      change maxSuffixLen pat p ≤ p at hle
      omega
    rw [delta2Suffix, if_pos hdiffer, ← hindex, List.getElem?_set_self hlength,
      show maxSuffixLen pat p = pat.length - 1 - j by omega]
  · refine ⟨shift, ?_, hshift.skip hre⟩
    rw [delta2Suffix]
    split
    · rename_i hdiffer
      rw [List.getElem?_set_ne, hentry]
      intro hindex
      exact hre ((reoccurs_iff hp hj).mpr ⟨hdiffer, hindex.symm⟩)
    · exact hentry

theorem bmMakeDelta2_spec (hzero : 0 ∉ pat) :
    ∀ j < pat.length, ∃ shift, (bmMakeDelta2 pat)[j]? = some (shift + (pat.length - 1 - j)) ∧
      Shift pat j shift := by
  have hturns (turns : Nat) (hle : turns ≤ pat.length - 1) :
      ∀ j < pat.length, ∃ shift,
        ((List.range turns).foldl (delta2Suffix pat)
          (delta2Prefix pat pat.length (pat.length - 1) []))[j]? =
            some (shift + (pat.length - 1 - j)) ∧ ShiftSoFar pat turns j shift := by
    induction turns with
    | zero =>
        intro j hj
        have hnone : PrefixShift pat pat.length (pat.length - 1) :=
          Or.inr ⟨fun k hk hlt => absurd hlt (by omega), rfl⟩
        have habove : ∀ k, pat.length ≤ k → k < pat.length → ∃ shift,
            ([] : List Nat)[k - pat.length]? = some (shift + (pat.length - 1 - k)) ∧
              PrefixShift pat k shift :=
          fun k hk hlt => absurd hlt (by omega)
        obtain ⟨shift, hentry, hshift⟩ :=
          delta2Prefix_spec hzero (Nat.le_refl _) hnone habove j hj
        refine ⟨shift, hentry, Or.inr ⟨fun d hd => ?_, hshift⟩⟩
        have hle := hd.le
        omega
    | succ turns ih =>
        rw [List.range_succ, List.foldl_append]
        exact delta2Suffix_spec (by omega) (ih (by omega))
  intro j hj
  obtain ⟨shift, hentry, hshift⟩ := hturns (pat.length - 1) (Nat.le_refl _) j hj
  exact ⟨shift, hentry, hshift.shift⟩

theorem delta1Loop_spec {left i : Nat} {delta1 : UInt8 → Nat} (h : i + left < pat.length)
    (hbound : ∀ c, delta1 c ≤ pat.length)
    (hbefore : ∀ c l, l < i → pat[l]? = some c → delta1 c ≤ pat.length - 1 - l) :
    ∃ table, delta1Loop pat left i delta1 = some table ∧ (∀ c, table c ≤ pat.length) ∧
      ∀ c l, l < i + left → pat[l]? = some c → table c ≤ pat.length - 1 - l := by
  induction left generalizing i delta1 with
  | zero => exact ⟨delta1, rfl, hbound, hbefore⟩
  | succ left ih =>
      have hread : pat[i]? = some pat[i] := List.getElem?_eq_getElem (by omega)
      have hbound' (c : UInt8) :
          Function.update delta1 pat[i] (pat.length - 1 - i) c ≤ pat.length := by
        rw [Function.update_apply]
        split
        · omega
        · exact hbound c
      have hbefore' (c : UInt8) (l : Nat) (hl : l < i + 1) (hc : pat[l]? = some c) :
          Function.update delta1 pat[i] (pat.length - 1 - i) c ≤ pat.length - 1 - l := by
        rw [Function.update_apply]
        split
        · omega
        · rename_i hne
          apply hbefore c l _ hc
          rcases Nat.eq_or_lt_of_le (Nat.le_of_lt_succ hl) with rfl | hlt
          · exact absurd (Option.some.inj (hc.symm.trans hread)) hne
          · exact hlt
      obtain ⟨table, htable, hle, hat⟩ := ih (by omega) hbound' hbefore'
      refine ⟨table, by rw [delta1Loop, hread]; exact htable, hle, ?_⟩
      intro c l hl
      exact hat c l (by omega)

theorem bmMakeDelta1_nil : bmMakeDelta1 [] = none := rfl

theorem bmMakeDelta1_spec (hpat : pat ≠ []) (hlen : pat.length < 2 ^ 31) :
    ∃ delta1, bmMakeDelta1 pat = some delta1 ∧ (∀ c, delta1 c ≤ pat.length) ∧
      ∀ c l, l + 1 < pat.length → pat[l]? = some c → delta1 c ≤ pat.length - 1 - l := by
  have hpos : 0 < pat.length := List.length_pos_of_ne_nil hpat
  have hbound : (pat.length + (2 ^ 32 - 1)) % 2 ^ 32 = pat.length - 1 := by omega
  obtain ⟨delta1, htable, hle, hat⟩ :=
    @delta1Loop_spec pat (pat.length - 1) 0 (fun _ => pat.length) (by omega)
      (fun _ => Nat.le_refl _) (fun _ l hl => absurd hl (Nat.not_lt_zero l))
  refine ⟨delta1, by rw [bmMakeDelta1, hbound, htable], hle, ?_⟩
  intro c l hl
  exact hat c l (by omega)

end Tables

section Shifts

variable {str pat : List UInt8} {s j d shift : Nat}

theorem Shift.pos (h : Shift pat j shift) (hj : j < pat.length) : 0 < shift := by
  rcases h with ⟨hre, -⟩ | ⟨-, ⟨q, -, -, -, -, rfl⟩ | ⟨hnone, rfl⟩⟩
  · exact hre.pos
  · exact Nat.succ_pos q
  · -- only a pattern of one byte would not be shifted, but it has the period 0
    by_contra hzero
    exact hnone 0 (by omega) (by omega) (isPeriod_zero pat)

theorem Shift.le (h : Shift pat j shift) (hj : j < pat.length) : shift ≤ pat.length := by
  rcases h with ⟨hre, -⟩ | ⟨-, ⟨q, -, hlt, -, -, rfl⟩ | ⟨-, rfl⟩⟩
  · have hle := hre.le
    omega
  · exact hlt
  · omega

/-- Two overlapping occurrences of the pattern do not fit into `n` bytes, unless all its
bytes are equal. -/
def Apart (pat : List UInt8) (n : Nat) : Prop :=
  IsPeriod pat 1 ∨ ∀ k, 0 < k → k < pat.length → IsPeriod pat k → n < pat.length + k

/-- The table is off by one at the next period, which is of no account if no second
occurrence fits there. -/
theorem Shift.safe (h : Shift pat j shift) (hapart : Apart pat str.length)
    (hmismatch : Mismatch str pat s j) (hpos : 0 < d) (hocc : OccursAt str pat (s + d)) :
    shift ≤ d := by
  have hj := hmismatch.inside
  have hpat : pat ≠ [] := List.ne_nil_of_length_pos (by omega)
  have hfits := hocc.fits hpat
  rcases Nat.lt_or_ge j d with hlong | hshort
  · have hperiod := hmismatch.isPeriod hocc hlong
    rcases h with ⟨hre, -⟩ | ⟨-, ⟨q, hjq, hq, hperiodq, hnone, rfl⟩ | ⟨hnone, rfl⟩⟩
    · have hle := hre.le
      omega
    · rcases Nat.lt_trichotomy d q with hlt | rfl | hgt
      · exact absurd hperiod (hnone d (by omega) hlt)
      · rcases hapart with hone | hapart
        · exact absurd (hone.all j) (hnone j (Nat.le_refl j) hlong)
        · have hshort := hapart d hpos hq hperiod
          omega
      · exact hgt
    · by_contra hlt
      exact hnone d (by omega) (by omega) hperiod
  · have hre := hmismatch.reoccurs hocc hpos hshort
    rcases h with ⟨-, hleast⟩ | ⟨hnone, -⟩
    · exact hleast d hre
    · exact absurd hre (hnone d)

end Shifts

section Search

variable {str pat : List UInt8} {delta1 : UInt8 → Nat} {delta2 : List Nat} {s j : Nat}

/-- What the two tables say. -/
structure Tables (pat : List UInt8) (delta1 : UInt8 → Nat) (delta2 : List Nat) : Prop where
  bound : ∀ c, delta1 c ≤ pat.length
  bad : ∀ c l, l + 1 < pat.length → pat[l]? = some c → delta1 c ≤ pat.length - 1 - l
  good : ∀ j < pat.length, ∃ shift, delta2[j]? = some (shift + (pat.length - 1 - j)) ∧
    Shift pat j shift

theorem compareLoop_spec (hj : j ≤ pat.length) (hs : s + j ≤ str.length) :
    (compareLoop str pat (s + j) j = some (s, 0) ∧ ∀ t < j, str[s + t]? = pat[t]?) ∨
    ∃ k < j, compareLoop str pat (s + j) j = some (s + k + 1, k + 1) ∧
      str[s + k]? ≠ pat[k]? ∧ ∀ t, k < t → t < j → str[s + t]? = pat[t]? := by
  induction j with
  | zero =>
      left
      refine ⟨by rw [Nat.add_zero, compareLoop], fun t ht => absurd ht (Nat.not_lt_zero t)⟩
  | succ j ih =>
      have hread : str[s + j]? = some str[s + j] := List.getElem?_eq_getElem (by omega)
      have hpat : pat[j]? = some pat[j] := List.getElem?_eq_getElem (by omega)
      have hturn : compareLoop str pat (s + (j + 1)) (j + 1) =
          if str[s + j] = pat[j] then compareLoop str pat (s + j) j
          else some (s + j + 1, j + 1) := by
        rw [← Nat.add_assoc, compareLoop, hread, hpat]
        rfl
      by_cases heq : str[s + j] = pat[j]
      · have hsame : str[s + j]? = pat[j]? := by rw [hread, hpat, heq]
        rw [hturn, if_pos heq]
        rcases ih (by omega) (by omega) with ⟨hfound, hall⟩ | ⟨k, hk, hstop, hdiffer, hall⟩
        · refine Or.inl ⟨hfound, fun t ht => ?_⟩
          rcases Nat.eq_or_lt_of_le (Nat.le_of_lt_succ ht) with rfl | hlt
          · exact hsame
          · exact hall t hlt
        · refine Or.inr ⟨k, by omega, hstop, hdiffer, fun t hkt ht => ?_⟩
          rcases Nat.eq_or_lt_of_le (Nat.le_of_lt_succ ht) with rfl | hlt
          · exact hsame
          · exact hall t hkt hlt
      · rw [hturn, if_neg heq]
        refine Or.inr ⟨j, Nat.lt_succ_self j, rfl, ?_, fun t hjt ht => absurd hjt (by omega)⟩
        rw [hread, hpat]
        exact fun h => heq (Option.some.inj h)

/-- The inner loop finds an occurrence or a mismatch. -/
theorem compareLoop_cases (hs : s + pat.length ≤ str.length) :
    (compareLoop str pat (s + pat.length) pat.length = some (s, 0) ∧ OccursAt str pat s) ∨
    ∃ k, compareLoop str pat (s + pat.length) pat.length = some (s + k + 1, k + 1) ∧
      Mismatch str pat s k := by
  rcases compareLoop_spec (Nat.le_refl pat.length) hs with hfound | ⟨k, hk, hstop, hdiffer, hall⟩
  · exact Or.inl hfound
  · exact Or.inr ⟨k, hstop, hk, hall, hdiffer⟩

/-- One turn of the outer loop at a mismatch. The first table makes the shift longer, but
not beyond an occurrence. -/
theorem searchLoop_mismatch (htables : Tables pat delta1 delta2)
    (hs : s + pat.length ≤ str.length)
    (hstop : compareLoop str pat (s + pat.length) pat.length = some (s + j + 1, j + 1))
    (hmismatch : Mismatch str pat s j) (fuel : Nat) :
    ∃ shift move, Shift pat j shift ∧ shift ≤ move ∧ move ≤ pat.length ∧
      (∀ d, 0 < d → shift ≤ d → OccursAt str pat (s + d) → move ≤ d) ∧
      searchLoop str pat delta1 delta2 (fuel + 1) (s + pat.length) =
        if s + move + pat.length ≤ 2 ^ 31 then
          searchLoop str pat delta1 delta2 fuel (s + move + pat.length)
        else none := by
  have hj := hmismatch.inside
  obtain ⟨shift, hentry, hshift⟩ := htables.good j hj
  have hle := hshift.le hj
  have hread : str[s + j]? = some str[s + j] := List.getElem?_eq_getElem (by omega)
  have hbound := htables.bound str[s + j]
  refine ⟨shift, max shift (delta1 str[s + j] + j + 1 - pat.length), hshift,
    Nat.le_max_left _ _, by omega, ?_, ?_⟩
  · intro d hpos hd hocc
    apply Nat.max_le.mpr
    refine ⟨hd, ?_⟩
    rcases Nat.lt_or_ge j d with hlong | hshort
    · omega
    · have hbyte := (hocc.shifted hshort hj).symm.trans hread
      have hbad := htables.bad str[s + j] (j - d) (by omega) hbyte
      omega
  · have hsum : s + j + 1 + max (delta1 str[s + j]) (shift + (pat.length - 1 - j)) =
        s + max shift (delta1 str[s + j] + j + 1 - pat.length) + pat.length := by
      omega
    rw [searchLoop, if_pos hs, hstop]
    simp only [Nat.add_sub_cancel, hread, hentry, Option.bind_eq_bind, Option.bind_some, addInt,
      hsum]
    split <;> rfl

theorem searchLoop_found (hs : s + pat.length ≤ str.length)
    (hfound : compareLoop str pat (s + pat.length) pat.length = some (s, 0)) (fuel : Nat) :
    searchLoop str pat delta1 delta2 (fuel + 1) (s + pat.length) = some (some s) := by
  rw [searchLoop, if_pos hs, hfound]

theorem searchLoop_end (hs : str.length < s + pat.length) (fuel : Nat) :
    searchLoop str pat delta1 delta2 (fuel + 1) (s + pat.length) = some none := by
  rw [searchLoop, if_neg (by omega)]

/-- From a window before which there is no occurrence, the search is right. -/
theorem searchLoop_agrees (htables : Tables pat delta1 delta2) (hpat : pat ≠ [])
    (hlen : str.length + pat.length < 2 ^ 31) (hapart : Apart pat str.length) {fuel : Nat}
    (hs : s ≤ str.length) (hfuel : str.length < s + fuel)
    (hbelow : ∀ r < s, ¬ OccursAt str pat r) :
    searchLoop str pat delta1 delta2 fuel (s + pat.length) =
      some (firstOccurrence str pat) := by
  induction fuel generalizing s with
  | zero => omega
  | succ fuel ih =>
      rcases Nat.lt_or_ge str.length (s + pat.length) with hend | hfits
      · have hnone (r : Nat) : ¬ OccursAt str pat r := by
          intro hocc
          have hlast := hocc.fits hpat
          exact hbelow r (by omega) hocc
        rw [searchLoop_end hend, firstOccurrence_eq_none hnone]
      · rcases compareLoop_cases hfits with ⟨hfound, hocc⟩ | ⟨j, hstop, hmismatch⟩
        · rw [searchLoop_found hfits hfound, firstOccurrence_eq_some hpat hocc hbelow]
        · obtain ⟨shift, move, hshift, hle, hmove, hjump, hnext⟩ :=
            searchLoop_mismatch htables hfits hstop hmismatch fuel
          have hpos := hshift.pos hmismatch.inside
          rw [hnext, if_pos (by omega)]
          apply ih (by omega) (by omega)
          apply none_below_shift hbelow hmismatch.not_occursAt
          intro d hd hocc
          exact hjump d hd (hshift.safe hapart hmismatch hd hocc) hocc

/-- The search does not go back. -/
theorem searchLoop_ge (htables : Tables pat delta1 delta2) {fuel r : Nat}
    (h : searchLoop str pat delta1 delta2 fuel (s + pat.length) = some (some r)) : s ≤ r := by
  induction fuel generalizing s with
  | zero => cases h
  | succ fuel ih =>
      rcases Nat.lt_or_ge str.length (s + pat.length) with hend | hfits
      · rw [searchLoop_end hend] at h
        cases h
      · rcases compareLoop_cases hfits with ⟨hfound, -⟩ | ⟨j, hstop, hmismatch⟩
        · rw [searchLoop_found hfits hfound] at h
          have heq : s = r := by simpa using h
          exact Nat.le_of_eq heq
        · obtain ⟨shift, move, -, -, -, -, hnext⟩ :=
            searchLoop_mismatch htables hfits hstop hmismatch fuel
          rw [hnext] at h
          split at h
          · exact Nat.le_trans (Nat.le_add_right s move) (ih h)
          · cases h

theorem tables_exist (hzero : 0 ∉ pat) (hpat : pat ≠ []) (hlen : pat.length < 2 ^ 31) :
    ∃ delta1, Tables pat delta1 (bmMakeDelta2 pat) ∧ ∀ str, bmSearch str pat =
      searchLoop str pat delta1 (bmMakeDelta2 pat) (str.length + 1) (0 + pat.length) := by
  obtain ⟨delta1, htable, hbound, hbad⟩ := bmMakeDelta1_spec hpat hlen
  refine ⟨delta1, ⟨hbound, hbad, bmMakeDelta2_spec hzero⟩, fun str => ?_⟩
  have hpos := List.length_pos_of_ne_nil hpat
  rw [bmSearch, htable, Nat.zero_add]
  exact if_neg (by omega)

theorem bmSearch_agrees (hzero : 0 ∉ pat) (hpat : pat ≠ [])
    (hlen : str.length + pat.length < 2 ^ 31) (hapart : Apart pat str.length) :
    bmSearch str pat = some (firstOccurrence str pat) := by
  obtain ⟨delta1, htables, hsearch⟩ := tables_exist hzero hpat (by omega)
  rw [hsearch]
  exact searchLoop_agrees htables hpat hlen hapart (Nat.zero_le _) (by omega)
    (fun r hr => absurd hr (Nat.not_lt_zero r))

end Search

section Jumped

variable {pat : List UInt8} {n q : Nat}

/-- A pattern with the period `q` stands at `q`, and in front of it stands its first part
with another second byte. -/
def jumpedText (pat : List UInt8) (q n : Nat) : List UInt8 :=
  (pat.take q).set 1 (pat.getD 1 0 + 1) ++ pat ++ List.replicate (n - (q + pat.length)) 0

theorem length_jumpedText (hq : q < pat.length) (hn : pat.length + q ≤ n) :
    (jumpedText pat q n).length = n := by
  simp [jumpedText]
  omega

theorem occursAt_jumpedText (hq : q < pat.length) : OccursAt (jumpedText pat q n) pat q := by
  intro j hj
  have hlength : ((pat.take q).set 1 (pat.getD 1 0 + 1)).length = q := by
    rw [List.length_set, List.length_take, Nat.min_eq_left (Nat.le_of_lt hq)]
  rw [jumpedText, List.append_assoc, List.getElem?_append_right (by omega), hlength,
    Nat.add_sub_cancel_left, List.getElem?_append_left hj]

theorem mismatch_jumpedText (hq : q < pat.length) (hone : 1 < q) (hperiod : IsPeriod pat q) :
    Mismatch (jumpedText pat q n) pat 0 1 where
  inside := by omega
  suffix t hlt ht := by
    rw [Nat.zero_add]
    rcases Nat.lt_or_ge t q with hbefore | hafter
    · rw [jumpedText, List.append_assoc, List.getElem?_append_left (by simp; omega),
        List.getElem?_set_ne (by omega), List.getElem?_take_of_lt hbefore]
    · have hocc := occursAt_jumpedText (n := n) hq (t - q) (by omega)
      rw [Nat.add_sub_cancel' hafter] at hocc
      rw [hocc, hperiod.at hafter ht]
  differs := by
    rw [jumpedText, List.append_assoc, List.getElem?_append_left (by simp; omega),
      List.getElem?_set_self (by simp; omega), List.getD_eq_getElem?_getD,
      List.getElem?_eq_getElem (show 1 < pat.length by omega)]
    simp

/-- Where the smallest period is not 1, the second byte of the pattern has one too much in
the second table. -/
theorem Shift.jumps {shift : Nat} (h : Shift pat 1 shift) (hq : q < pat.length) (hone : 1 < q)
    (hperiod : IsPeriod pat q) (hleast : ∀ k, 0 < k → k < q → ¬ IsPeriod pat k) :
    q < shift := by
  rcases h with ⟨hre, -⟩ | ⟨-, ⟨r, hr, hlt, hperiodr, hnone, rfl⟩ | ⟨hnone, rfl⟩⟩
  · -- all bytes but the first would be equal, and the first is the one at `q`
    exfalso
    have hshift : shift = 1 := Nat.le_antisymm hre.le hre.pos
    subst hshift
    have hequal (t : Nat) (ht : 0 < t) (htq : t < pat.length) : pat[t]? = pat[1]? := by
      induction t with
      | zero => omega
      | succ t ih =>
          cases t with
          | zero => rfl
          | succ t =>
              rw [← hre.suffix (t + 1 + 1) (by omega) htq]
              exact ih (by omega) (by omega)
    have hfirst := hperiod.at (Nat.le_refl q) hq
    rw [hequal q (by omega) hq, Nat.sub_self] at hfirst
    exact hre.differs hfirst.symm
  · by_contra hge
    exact hleast r hr (by omega) hperiodr
  · exact absurd hperiod (hnone q (by omega) hq)

theorem bmSearch_jumps (hzero : 0 ∉ pat) (hlen : n + pat.length < 2 ^ 31) (hone : 1 < q)
    (hq : q < pat.length) (hperiod : IsPeriod pat q)
    (hleast : ∀ k, 0 < k → k < q → ¬ IsPeriod pat k) (hn : pat.length + q ≤ n) :
    bmSearch (jumpedText pat q n) pat ≠ some (firstOccurrence (jumpedText pat q n) pat) := by
  have hpat : pat ≠ [] := List.ne_nil_of_length_pos (by omega)
  have hlength := length_jumpedText hq hn
  obtain ⟨r, hr, hfirst⟩ := firstOccurrence_le hpat (occursAt_jumpedText (n := n) hq)
  obtain ⟨delta1, htables, hsearch⟩ := tables_exist hzero hpat (by omega)
  have hfits : 0 + pat.length ≤ (jumpedText pat q n).length := by omega
  have hmismatch := mismatch_jumpedText (n := n) hq hone hperiod
  rcases compareLoop_cases hfits with ⟨-, hocc⟩ | ⟨j, hstop, hj⟩
  · exact absurd hocc hmismatch.not_occursAt
  · obtain rfl := hj.unique hmismatch
    obtain ⟨shift, move, hshift, hle, -, -, hnext⟩ :=
      searchLoop_mismatch htables hfits hstop hmismatch (jumpedText pat q n).length
    have hjump := hshift.jumps hq hone hperiod hleast
    rw [hsearch, hnext, hfirst]
    split
    · intro h
      have hge := searchLoop_ge htables h
      omega
    · exact fun h => by cases h

end Jumped

/-- The search finds the first occurrence in every text of a length exactly if there is a
pattern and two overlapping occurrences of it do not fit into the text, unless all its
bytes are equal. -/
theorem finds_first_occurrence {pat : List UInt8} {n : Nat} (hzero : 0 ∉ pat)
    (hlen : n + pat.length < 2 ^ 31) :
    (∀ str : List UInt8, str.length = n →
      bmSearch str pat = some (firstOccurrence str pat)) ↔ pat ≠ [] ∧ Apart pat n := by
  constructor
  · intro hall
    have hpat : pat ≠ [] := by
      rintro rfl
      have hnone := hall (List.replicate n 0) List.length_replicate
      rw [bmSearch, bmMakeDelta1_nil] at hnone
      cases hnone
    refine ⟨hpat, ?_⟩
    by_contra hapart
    obtain ⟨hone, k, hk, hlt, hperiod, hn⟩ : ¬ IsPeriod pat 1 ∧ ∃ k, 0 < k ∧ k < pat.length ∧
        IsPeriod pat k ∧ pat.length + k ≤ n := by
      simpa [Apart, not_or] using hapart
    have hex : ∃ q, 0 < q ∧ IsPeriod pat q := ⟨k, hk, hperiod⟩
    obtain ⟨hpos, hperiodq⟩ := Nat.find_spec hex
    have hqk : Nat.find hex ≤ k := Nat.find_min' hex ⟨hk, hperiod⟩
    have hleast (r : Nat) (hr : 0 < r) (hrq : r < Nat.find hex) : ¬ IsPeriod pat r :=
      fun hperiodr => Nat.find_min hex hrq ⟨hr, hperiodr⟩
    have hgt : 1 < Nat.find hex := by
      by_contra hle
      have heq : Nat.find hex = 1 := by omega
      rw [heq] at hperiodq
      exact hone hperiodq
    exact bmSearch_jumps hzero hlen hgt (by omega) hperiodq hleast (by omega)
      (hall _ (length_jumpedText (by omega) (by omega)))
  · rintro ⟨hpat, hapart⟩ str rfl
    exact bmSearch_agrees hzero hpat hlen hapart

/-- A pattern of two different bytes in a text of five. -/
theorem finds_first_occurrence_two :
    bmSearch [97, 99, 97, 98, 98] [97, 98] =
      some (firstOccurrence [97, 99, 97, 98, 98] ([97, 98] : List UInt8)) := by
  apply (@finds_first_occurrence [97, 98] 5 (by decide) (by decide)).mpr _ _ rfl
  refine ⟨by decide, Or.inr ?_⟩
  intro k hk hlt hperiod
  obtain rfl : k = 1 := by
    simp at hlt
    omega
  exact absurd hperiod (by decide)

/-- The pattern stands at the end of the text and is not found. -/
theorem occurrence_jumped :
    bmSearch [120, 99, 97, 98, 97] [97, 98, 97] = some none ∧
      firstOccurrence [120, 99, 97, 98, 97] ([97, 98, 97] : List UInt8) = some 2 := by
  decide

end G2Common.Recovery
