import G2Common.CheckedArray
import G2Common.Recovery.BmSearch
import Mathlib.Algebra.Group.Int.Defs

/-!
The search of `recovery_updater.cpp` with checked accesses: every index is the integer that
the source computes, and the two tables are arrays of `int` with whatever the stack held. It
computes what the search on values does.
-/

namespace G2Common.Recovery.Checked

open CheckedArray StringSearch

/-- A value stored in an `int`. -/
def toInt (n : Nat) : Int := Int.bmod n (2 ^ 32)

/-- The sum of two `int`. -/
def addInt (i n : Int) : Except Fault Int :=
  if -2 ^ 31 ≤ i + n ∧ i + n < 2 ^ 31 then .ok (i + n) else .error .overflow

/-- The loop of `max_suffix_len`, with `left` for `p - i`. It reads before it looks at the
bound. -/
def maxSuffixLoop (str : List UInt8) (p : Nat) : Nat → Nat → Except Fault Nat
  | 0, i => do
      let _ ← readAt str (p - i)
      let _ ← readAt str (str.length - 1 - i)
      .ok i
  | left + 1, i => do
      let a ← readAt str (p - i)
      let b ← readAt str (str.length - 1 - i)
      if a = b then maxSuffixLoop str p left (i + 1) else .ok i

def maxSuffixLen (str : List UInt8) (p : Nat) : Except Fault Nat :=
  maxSuffixLoop str p p 0

/-- The first loop of `bm_make_delta1`. -/
def delta1Fill (pat : List UInt8) (delta1 : List Int) : Except Fault (List Int) :=
  (List.range 256).foldlM (fun delta1 (i : Nat) => writeAt delta1 i (toInt pat.length)) delta1

/-- The second loop of `bm_make_delta1`, with the number of turns that are left. -/
def delta1Loop (pat : List UInt8) : Nat → Nat → List Int → Except Fault (List Int)
  | 0, _, delta1 => .ok delta1
  | left + 1, i, delta1 => do
      let idx ← readAt pat i
      let delta1 ← writeAt delta1 idx.toNat (toInt (pat.length - 1 - i))
      delta1Loop pat left (i + 1) delta1

def bmMakeDelta1 (delta1 : List Int) (pat : List UInt8) : Except Fault (List Int) := do
  let delta1 ← delta1Fill pat delta1
  delta1Loop pat ((pat.length + (2 ^ 32 - 1)) % 2 ^ 32) 0 delta1

/-- Whether `strncmp(pat + p, pat, n)` finds no difference, from the byte `k` on. -/
def strncmpZero (pat : List UInt8) (p : Nat) : Nat → Nat → Except Fault Bool
  | 0, _ => .ok true
  | n + 1, k => do
      let a ← readAt pat (p + k)
      let b ← readAt pat k
      if a ≠ b then .ok false else if a = 0 then .ok true else strncmpZero pat p n (k + 1)

/-- The first loop of `bm_make_delta2`, from `p` down to 0. -/
def delta2Prefix (pat : List UInt8) : Nat → Nat → List Int → Except Fault (List Int)
  | 0, _, delta2 => .ok delta2
  | p + 1, lastPrefix, delta2 => do
      let same ← strncmpZero pat p (pat.length - p) 0
      let lastPrefix := if same then p + 1 else lastPrefix
      let delta2 ← writeAt delta2 p (toInt (lastPrefix + (pat.length - 1 - p)))
      delta2Prefix pat p lastPrefix delta2

/-- One turn of the second loop of `bm_make_delta2`. -/
def delta2Suffix (pat : List UInt8) (delta2 : List Int) (p : Nat) :
    Except Fault (List Int) := do
  let suf_len ← maxSuffixLen pat p
  let a ← readAt pat (p - suf_len)
  let b ← readAt pat (pat.length - 1 - suf_len)
  if a ≠ b then
    writeAt delta2 (pat.length - 1 - suf_len) (toInt (pat.length - 1 - p + suf_len))
  else .ok delta2

def bmMakeDelta2 (delta2 : List Int) (pat : List UInt8) : Except Fault (List Int) := do
  let delta2 ← delta2Prefix pat pat.length (pat.length - 1) delta2
  (List.range (pat.length - 1)).foldlM (delta2Suffix pat) delta2

/-- The inner loop of `bm_search`, with `j` one higher than in the source. -/
def compareLoop (str pat : List UInt8) : Int → Nat → Except Fault (Int × Nat)
  | i, 0 => .ok (i, 0)
  | i, j + 1 => do
      let a ← readAt str i
      let b ← readAt pat j
      if a = b then compareLoop str pat (i - 1) j else .ok (i, j + 1)

/-- What a turn of the outer loop ends with: the position of a match, or the end of the next
alignment. -/
inductive Turn where
  | found (position : Int)
  | next (i : Int)
  deriving DecidableEq, Repr

/-- The body of the outer loop of `bm_search`. -/
def searchTurn (str pat : List UInt8) (delta1 delta2 : List Int) (i : Int) :
    Except Fault Turn := do
  match ← compareLoop str pat i pat.length with
  | (i, 0) => .ok (.found (i + 1))
  | (i, j + 1) =>
      let c ← readAt str i
      let bad ← readAt delta1 c.toNat
      let good ← readAt delta2 j
      let i ← addInt i (max bad good)
      .ok (.next i)

/-- The outer loop of `bm_search`. -/
def searchLoop (str pat : List UInt8) (delta1 delta2 : List Int) :
    Nat → Int → Except Fault (Option Int)
  | 0, _ => .error .fuel
  | fuel + 1, i =>
      if i < str.length then do
        match ← searchTurn str pat delta1 delta2 i with
        | .found position => .ok (some position)
        | .next i => searchLoop str pat delta1 delta2 fuel i
      else .ok none

/-- `bm_search` with the two arrays that it finds on the stack. -/
def bmSearch (delta1 delta2 : List Int) (str pat : List UInt8) :
    Except Fault (Option Int) := do
  let delta1 ← bmMakeDelta1 delta1 pat
  let delta2 ← bmMakeDelta2 delta2 pat
  if pat.length = 0 then .ok (some 0)
  else searchLoop str pat delta1 delta2 (str.length + 1) (pat.length - 1)

/-- The ends of the alignments that the outer loop comes to. -/
inductive Aligned (str pat : List UInt8) (delta1 delta2 : List Int) : Int → Prop
  | first : Aligned str pat delta1 delta2 (pat.length - 1)
  | next {i next : Int} (h : Aligned str pat delta1 delta2 i) (hi : i < str.length)
      (hturn : searchTurn str pat delta1 delta2 i = .ok (.next next)) :
      Aligned str pat delta1 delta2 next

section Tables

variable {pat : List UInt8} {p : Nat}

theorem toInt_eq {n : Nat} (h : n < 2 ^ 31) : toInt n = n := by
  apply Int.bmod_eq_of_le <;> omega

/-- The read of a list at a position that is inside. -/
theorem readAt_eq {α : Type} {a : List α} {i : Int} {n : Nat} (hi : i = n)
    (h : n < a.length) : readAt a i = .ok a[n] := by
  rw [hi]
  exact readAt_of_some (List.getElem?_eq_getElem h)

theorem maxSuffixLoop_eq {left i : Nat} (h : i + left = p) (hp : p < pat.length) :
    maxSuffixLoop pat p left i = .ok (Recovery.maxSuffixLoop pat p left i) := by
  induction left generalizing i with
  | zero =>
      have ha := @readAt_eq _ pat (p - i) (p - i) (by omega) (by omega)
      have hb := @readAt_eq _ pat (pat.length - 1 - i) (pat.length - 1 - i) (by omega) (by omega)
      rw [maxSuffixLoop, ha, hb]
      rfl
  | succ left ih =>
      have hlast : p - i < pat.length := by omega
      have hlast' : pat.length - 1 - i < pat.length := by omega
      have ha := @readAt_eq _ pat (p - i) (p - i) (by omega) hlast
      have hb := @readAt_eq _ pat (pat.length - 1 - i) (pat.length - 1 - i) (by omega) hlast'
      rw [maxSuffixLoop, ha, hb, Recovery.maxSuffixLoop, List.getElem?_eq_getElem hlast,
        List.getElem?_eq_getElem hlast']
      simp only [ok_bind, Option.some.injEq]
      split
      · exact ih (by omega)
      · rfl

theorem strncmpZero_eq {n k : Nat} (h : p + k + n ≤ pat.length) :
    strncmpZero pat p n k =
      .ok (Recovery.strncmpZero n (pat.drop (p + k)) (pat.drop k)) := by
  induction n generalizing k with
  | zero => rw [strncmpZero, Recovery.strncmpZero]; rintro _ _ _ _ _ ⟨⟩
  | succ n ih =>
      have ha := @readAt_eq _ pat (p + k) (p + k) (by omega) (by omega)
      have hb := @readAt_eq _ pat k k rfl (by omega)
      rw [strncmpZero, ha, hb, List.drop_eq_getElem_cons (show p + k < pat.length by omega),
        List.drop_eq_getElem_cons (show k < pat.length by omega), Recovery.strncmpZero]
      simp only [ok_bind]
      by_cases hsame : pat[p + k] = pat[k]
      · by_cases hzero : pat[p + k] = 0
        · simp [hsame, hzero ▸ hsame.symm]
        · have hrest : strncmpZero pat p n (k + 1) =
              .ok (Recovery.strncmpZero n (pat.drop (p + k + 1)) (pat.drop (k + 1))) :=
            ih (by omega)
          have hzero' : ¬pat[k] = 0 := hsame ▸ hzero
          simp [hsame, hzero', hrest]
      · simp [hsame]

theorem length_delta2Prefix (pat : List UInt8) (p lastPrefix : Nat) (entries : List Nat) :
    (Recovery.delta2Prefix pat p lastPrefix entries).length = p + entries.length := by
  induction p generalizing lastPrefix entries with
  | zero => exact (Nat.zero_add _).symm
  | succ p ih =>
      rw [Recovery.delta2Prefix, ih, List.length_cons]
      omega

theorem length_delta2Suffix (pat : List UInt8) (entries : List Nat) (p : Nat) :
    (Recovery.delta2Suffix pat entries p).length = entries.length := by
  rw [Recovery.delta2Suffix]
  split
  · exact List.length_set
  · rfl

/-- The entries from `p` on are written, the others are what the stack held. -/
theorem delta2Prefix_eq {lastPrefix : Nat} {stack : List Int} {entries : List Nat}
    (hp : p ≤ pat.length) (hstack : p ≤ stack.length) :
    delta2Prefix pat p lastPrefix (stack.take p ++ entries.map toInt) =
      .ok ((Recovery.delta2Prefix pat p lastPrefix entries).map toInt) := by
  induction p generalizing lastPrefix entries with
  | zero => rfl
  | succ p ih =>
      have hsame := @strncmpZero_eq pat p (pat.length - p) 0 (by omega)
      rw [Nat.add_zero, List.drop_zero] at hsame
      have hlt : p < (stack.take (p + 1) ++ entries.map toInt).length := by
        simp
        omega
      rw [delta2Prefix, hsame, Recovery.delta2Prefix]
      simp only [ok_bind]
      have hstore (value : Int) : (stack.take (p + 1) ++ entries.map toInt).set p value =
          stack.take p ++ value :: entries.map toInt := by
        rw [List.take_succ_eq_append_getElem hstack, List.append_assoc,
          List.set_append_right _ _ (by rw [List.length_take]; exact Nat.min_le_left _ _),
          List.length_take, Nat.min_eq_left (by omega), Nat.sub_self]
        rfl
      rw [writeAt_of_lt hlt, hstore, ok_bind, ← List.map_cons]
      exact ih (by omega) (by omega)

theorem delta2Suffix_eq {entries : List Nat} (hp : p + 1 < pat.length)
    (hentries : entries.length = pat.length) :
    delta2Suffix pat (entries.map toInt) p =
      .ok ((Recovery.delta2Suffix pat entries p).map toInt) := by
  have hlen : Recovery.maxSuffixLen pat p ≤ p := (maxSuffixLoop_spec pat (Nat.zero_add p)).2.1
  have hsuf : maxSuffixLen pat p = .ok (Recovery.maxSuffixLen pat p) :=
    maxSuffixLoop_eq (Nat.zero_add p) (by omega)
  rw [delta2Suffix, hsuf, Recovery.delta2Suffix]
  generalize Recovery.maxSuffixLen pat p = suf_len at hlen ⊢
  have hfirst : p - suf_len < pat.length := by omega
  have hlast : pat.length - 1 - suf_len < pat.length := by omega
  have ha := @readAt_eq _ pat (p - suf_len) (p - suf_len) (by omega) hfirst
  have hb := @readAt_eq _ pat (pat.length - 1 - suf_len) (pat.length - 1 - suf_len) (by omega)
    hlast
  have hindex : ((pat.length : Int) - 1 - suf_len) = (pat.length - 1 - suf_len : Nat) := by
    omega
  rw [ok_bind, ha, ok_bind, hb, ok_bind, List.getElem?_eq_getElem hfirst,
    List.getElem?_eq_getElem hlast, hindex]
  by_cases hsame : pat[p - suf_len] = pat[pat.length - 1 - suf_len]
  · simp [hsame]
  · simp only [ne_eq, hsame, not_false_iff, if_true, Option.some.injEq]
    rw [writeAt_of_lt (by simp; omega), List.map_set]

theorem bmMakeDelta2_eq {stack : List Int} (hstack : stack.length = pat.length) :
    bmMakeDelta2 stack pat = .ok ((Recovery.bmMakeDelta2 pat).map toInt) := by
  have hfirst := @delta2Prefix_eq pat pat.length (pat.length - 1) stack [] (Nat.le_refl _)
    (by omega)
  rw [List.map_nil, List.append_nil, List.take_of_length_le (by omega)] at hfirst
  have hlength := length_delta2Prefix pat pat.length (pat.length - 1) []
  have hturn (p : Nat) (hp : p ∈ List.range (pat.length - 1)) (entries : List Nat)
      (delta2 : List Int) (h : delta2 = entries.map toInt ∧ entries.length = pat.length) :
      ∃ next, delta2Suffix pat delta2 p = .ok next ∧
        next = (Recovery.delta2Suffix pat entries p).map toInt ∧
        (Recovery.delta2Suffix pat entries p).length = pat.length := by
    obtain ⟨rfl, hentries⟩ := h
    have hlt := List.mem_range.mp hp
    exact ⟨_, delta2Suffix_eq (by omega) hentries, rfl,
      (length_delta2Suffix pat entries p).trans hentries⟩
  obtain ⟨_, hloop, rfl, -⟩ := foldlM_simulates hturn ⟨rfl, by simpa using hlength⟩
  rw [bmMakeDelta2, hfirst, ok_bind, hloop, Recovery.bmMakeDelta2]

/-- The array holds the table of the bytes. -/
def Holds (delta1 : List Int) (table : UInt8 → Nat) : Prop :=
  delta1.length = 256 ∧ ∀ c : UInt8, delta1[c.toNat]? = some (toInt (table c))

theorem delta1Fill_holds (pat : List UInt8) {stack : List Int} (hstack : stack.length = 256) :
    ∃ delta1, delta1Fill pat stack = .ok delta1 ∧ Holds delta1 (fun _ => pat.length) := by
  have hturns (turns : Nat) (h : turns ≤ stack.length) :
      (List.range turns).foldlM
          (fun delta1 (i : Nat) => writeAt delta1 i (toInt pat.length)) stack =
        .ok (List.replicate turns (toInt pat.length) ++ stack.drop turns) := by
    induction turns with
    | zero => rfl
    | succ turns ih =>
        have hlt : turns <
            (List.replicate turns (toInt pat.length) ++ stack.drop turns).length := by
          simp
          omega
        rw [List.range_succ, List.foldlM_append, ih (by omega), ok_bind, List.foldlM_cons,
          writeAt_of_lt hlt, ok_bind, List.set_append_right _ _ (by simp),
          List.length_replicate, Nat.sub_self, List.drop_eq_getElem_cons h, List.set_cons_zero,
          List.replicate_succ', List.append_assoc]
        rfl
  have hall := hturns 256 (by omega)
  rw [List.drop_eq_nil_of_le (by omega), List.append_nil] at hall
  refine ⟨List.replicate 256 (toInt pat.length), by rw [delta1Fill, hall],
    List.length_replicate, ?_⟩
  intro c
  rw [List.getElem?_replicate, if_pos c.toNat_lt]

theorem delta1Loop_holds {left i : Nat} {delta1 : List Int} {table result : UInt8 → Nat}
    (h : Holds delta1 table) (hloop : Recovery.delta1Loop pat left i table = some result) :
    ∃ next, delta1Loop pat left i delta1 = .ok next ∧ Holds next result := by
  induction left generalizing i delta1 table with
  | zero =>
      obtain rfl := Option.some.inj hloop
      exact ⟨delta1, rfl, h⟩
  | succ left ih =>
      rw [Recovery.delta1Loop] at hloop
      obtain ⟨idx, hidx, hrest⟩ := Option.bind_eq_some_iff.mp hloop
      have hlt : idx.toNat < delta1.length := by
        have hbyte := idx.toNat_lt
        rw [h.1]
        omega
      have hnext : Holds (delta1.set idx.toNat (toInt (pat.length - 1 - i)))
          (Function.update table idx (pat.length - 1 - i)) := by
        refine ⟨by rw [List.length_set, h.1], ?_⟩
        intro c
        rw [Function.update_apply]
        split
        case isTrue heq => rw [heq, List.getElem?_set_self hlt]
        case isFalse hne =>
          rw [List.getElem?_set_ne (fun heq => hne (UInt8.toNat_inj.mp heq.symm)), h.2 c]
      rw [delta1Loop, readAt_of_some hidx, ok_bind, writeAt_of_lt hlt, ok_bind]
      exact ih hnext hrest

theorem bmMakeDelta1_holds {stack : List Int} (hstack : stack.length = 256)
    {table : UInt8 → Nat} (htable : Recovery.bmMakeDelta1 pat = some table) :
    ∃ delta1, bmMakeDelta1 stack pat = .ok delta1 ∧ Holds delta1 table := by
  obtain ⟨filled, hfill, hholds⟩ := delta1Fill_holds pat hstack
  obtain ⟨delta1, hloop, hfinal⟩ := delta1Loop_holds hholds htable
  refine ⟨delta1, ?_, hfinal⟩
  rw [bmMakeDelta1, hfill, ok_bind, hloop]

end Tables

section Search

variable {str pat : List UInt8} {delta1 delta2 : List Int} {table : UInt8 → Nat}
  {entries : List Nat} {s : Nat}

theorem compareLoop_eq {i j i' j' : Nat} (hj : j ≤ pat.length)
    (h : Recovery.compareLoop str pat i j = some (i', j')) :
    compareLoop str pat ((i : Int) - 1) j = .ok ((i' : Int) - 1, j') := by
  induction j generalizing i with
  | zero =>
      rw [Recovery.compareLoop] at h
      cases h
      rfl
  | succ j ih =>
      cases i with
      | zero => cases h
      | succ i =>
          rw [Recovery.compareLoop] at h
          obtain ⟨a, ha, h⟩ := Option.bind_eq_some_iff.mp h
          obtain ⟨b, hb, h⟩ := Option.bind_eq_some_iff.mp h
          have hindex : ((i + 1 : Nat) : Int) - 1 = i := by omega
          rw [hindex, compareLoop, readAt_of_some ha, ok_bind, readAt_of_some hb, ok_bind]
          split at h
          · rw [if_pos ‹a = b›]
            exact ih (by omega) h
          · rw [if_neg ‹¬a = b›]
            cases h
            rw [hindex]

/-- The arrays hold the two tables. -/
structure Filled (pat : List UInt8) (table : UInt8 → Nat) (entries : List Nat)
    (delta1 delta2 : List Int) : Prop where
  bad : ∀ c : UInt8, readAt delta1 c.toNat = .ok (table c : Int)
  good : ∀ {j n : Nat}, j < pat.length → entries[j]? = some n →
    readAt delta2 j = .ok (n : Int)

theorem filled_of_holds (hlen : 2 * pat.length ≤ 2 ^ 31) (hholds : Holds delta1 table)
    (htables : Tables pat table entries) :
    Filled pat table entries delta1 (entries.map toInt) where
  bad c := by
    have hbound := htables.bound c
    rw [readAt_of_some (hholds.2 c), toInt_eq (by omega)]
  good {j n} hj hentry := by
    obtain ⟨shift, hshift, hspec⟩ := htables.good j hj
    have hle := hspec.le hj
    have hread : (entries.map toInt)[j]? = some (toInt n) := by
      rw [List.getElem?_map, hentry, Option.map_some]
    obtain rfl : n = shift + (pat.length - 1 - j) := Option.some.inj (hentry.symm.trans hshift)
    rw [readAt_of_some hread, toInt_eq (by omega)]

/-- A turn of the outer loop makes no invalid access, and ends with a match or moves the end
of the alignment up, as the search on values does. -/
theorem searchTurn_cases (h : Filled pat table entries delta1 delta2)
    (htables : Tables pat table entries) (hs : s + pat.length ≤ str.length)
    (hlen : str.length + pat.length < 2 ^ 31) :
    (OccursAt str pat s ∧
        searchTurn str pat delta1 delta2 (s + pat.length - 1) = .ok (.found s) ∧
        ∀ fuel, Recovery.searchLoop str pat table entries (fuel + 1) (s + pat.length) =
          some (some s)) ∨
      ∃ next : Nat, s < next ∧ next ≤ s + pat.length ∧
        searchTurn str pat delta1 delta2 (s + pat.length - 1) =
          .ok (.next (next + pat.length - 1)) ∧
        ∀ fuel, Recovery.searchLoop str pat table entries (fuel + 1) (s + pat.length) =
          Recovery.searchLoop str pat table entries fuel (next + pat.length) := by
  have hcompare {i' j' : Nat}
      (hstop : Recovery.compareLoop str pat (s + pat.length) pat.length = some (i', j')) :
      compareLoop str pat (s + pat.length - 1) pat.length = .ok ((i' : Int) - 1, j') := by
    have heq := compareLoop_eq (Nat.le_refl _) hstop
    rwa [Int.natCast_add] at heq
  rcases compareLoop_cases hs with ⟨hfound, hocc⟩ | ⟨j, hstop, hmismatch⟩
  · refine .inl ⟨hocc, ?_, searchLoop_found hs hfound⟩
    rw [searchTurn, hcompare hfound, ok_bind]
    change Except.ok (Turn.found ((s : Int) - 1 + 1)) = _
    rw [Int.sub_add_cancel]
  · have hj := hmismatch.inside
    obtain ⟨shift, hentry, hshift⟩ := htables.good j hj
    have hpos := hshift.pos hj
    have hle := hshift.le hj
    have hread : str[s + j]? = some str[s + j] := List.getElem?_eq_getElem (by omega)
    have hbound := htables.bound str[s + j]
    have hindex : ((s + j + 1 : Nat) : Int) - 1 = (s + j : Nat) := by omega
    have hturn := hcompare hstop
    rw [hindex] at hturn
    refine .inr ⟨s + j + 1 + max (table str[s + j]) (shift + (pat.length - 1 - j)) - pat.length,
      by omega, by omega, ?_, ?_⟩
    · have hsum : addInt (s + j : Nat)
            (max (table str[s + j] : Int) (shift + (pat.length - 1 - j) : Nat)) =
          .ok ((s + j : Nat) +
            max (table str[s + j] : Int) (shift + (pat.length - 1 - j) : Nat)) := by
        rw [addInt, if_pos]
        omega
      rw [searchTurn, hturn, ok_bind]
      simp only [readAt_of_some hread, ok_bind, h.bad, h.good hj hentry, hsum, Except.ok.injEq,
        Turn.next.injEq]
      omega
    · intro fuel
      rw [Recovery.searchLoop, if_pos hs, hstop]
      simp only [Nat.add_sub_cancel, hread, hentry, Option.bind_eq_bind, Option.bind_some,
        Recovery.addInt]
      rw [if_pos (by omega), Option.bind_some]
      congr 1
      omega

section Runs

variable (hfilled : pat.length ≤ str.length → Filled pat table entries delta1 delta2)
  (htables : Tables pat table entries) (hlen : str.length + pat.length < 2 ^ 31)

include hfilled htables hlen

/-- The end of an alignment is the end of a window. -/
theorem Aligned.window {i : Int} (h : Aligned str pat delta1 delta2 i) :
    ∃ s : Nat, i = s + pat.length - 1 := by
  induction h with
  | first => exact ⟨0, by omega⟩
  | next _ hi hturn ih =>
      obtain ⟨s, rfl⟩ := ih
      have hs : s + pat.length ≤ str.length := by omega
      rcases searchTurn_cases (hfilled (by omega)) htables hs hlen with
        ⟨-, hfound, -⟩ | ⟨next, -, -, hnext, -⟩
      · simp [hfound] at hturn
      · refine ⟨next, ?_⟩
        simpa [hnext, eq_comm] using hturn

theorem Aligned.progress {i : Int} (h : Aligned str pat delta1 delta2 i)
    (hi : i < str.length) :
    ∃ turn, searchTurn str pat delta1 delta2 i = .ok turn ∧
      ∀ next, turn = .next next → i < next := by
  obtain ⟨s, rfl⟩ := h.window hfilled htables hlen
  have hs : s + pat.length ≤ str.length := by omega
  rcases searchTurn_cases (hfilled (by omega)) htables hs hlen with
    ⟨-, hfound, -⟩ | ⟨next, hlt, -, hnext, -⟩
  · exact ⟨_, hfound, fun _ h => by cases h⟩
  · refine ⟨_, hnext, ?_⟩
    rintro _ ⟨rfl⟩
    omega

/-- With fuel for the rest of the text, the loop ends, and where the search on values does. -/
theorem searchLoop_sound (hpat : pat ≠ []) {fuel : Nat} (hfuel : str.length < s + fuel)
    (hs : s ≤ str.length) :
    ∃ result : Option Nat,
      Recovery.searchLoop str pat table entries fuel (s + pat.length) = some result ∧
      searchLoop str pat delta1 delta2 fuel (s + pat.length - 1) =
        .ok (result.map fun position => (position : Int)) ∧
      ∀ position, result = some position → OccursAt str pat position := by
  have hpos := List.length_pos_of_ne_nil hpat
  induction fuel generalizing s with
  | zero => omega
  | succ fuel ih =>
      rw [searchLoop]
      rcases Nat.lt_or_ge str.length (s + pat.length) with hend | hfits
      · rw [if_neg (by omega)]
        exact ⟨none, searchLoop_end hend fuel, rfl, fun _ h => by cases h⟩
      · rw [if_pos (by omega)]
        rcases searchTurn_cases (hfilled (by omega)) htables hfits hlen with
          ⟨hocc, hfound, hvalue⟩ | ⟨next, hlt, hle, hnext, hvalue⟩
        · refine ⟨some s, hvalue fuel, ?_, ?_⟩
          · rw [hfound]
            rfl
          · rintro _ ⟨rfl⟩
            exact hocc
        · obtain ⟨result, hresult, hloop, hoccurs⟩ := ih (s := next) (by omega) (by omega)
          refine ⟨result, (hvalue fuel).trans hresult, ?_, hoccurs⟩
          rw [hnext]
          exact hloop

end Runs

end Search

/-- The tables are built and the text is searched without an invalid access or an overflow;
the end of the alignment moves up in each turn of the outer loop; the search ends, with the
result of the search on values; and where it returns a position, the pattern stands there.
The arrays `stack1` and `stack2` are what the two tables are built in. -/
theorem bm_search_sound {str pat : List UInt8} (hpat : pat ≠ []) (hzero : 0 ∉ pat)
    (hlen : str.length + pat.length < 2 ^ 31) {stack1 stack2 : List Int}
    (hstack1 : stack1.length = 256) (hstack2 : stack2.length = pat.length) :
    ∃ delta1 delta2, bmMakeDelta1 stack1 pat = .ok delta1 ∧
      bmMakeDelta2 stack2 pat = .ok delta2 ∧
      (∀ i, Aligned str pat delta1 delta2 i → i < str.length →
        ∃ turn, searchTurn str pat delta1 delta2 i = .ok turn ∧
          ∀ next, turn = .next next → i < next) ∧
      ∃ result : Option Nat, Recovery.bmSearch str pat = some result ∧
        bmSearch stack1 stack2 str pat = .ok (result.map fun position => (position : Int)) ∧
        ∀ position, result = some position → OccursAt str pat position := by
  obtain ⟨table, htable, hbound, hbad⟩ := bmMakeDelta1_spec hpat (by omega)
  have htables : Tables pat table (Recovery.bmMakeDelta2 pat) :=
    ⟨hbound, hbad, bmMakeDelta2_spec hzero⟩
  obtain ⟨delta1, hdelta1, hholds⟩ := bmMakeDelta1_holds hstack1 htable
  have hdelta2 := bmMakeDelta2_eq hstack2
  have hfilled (hle : pat.length ≤ str.length) :
      Filled pat table (Recovery.bmMakeDelta2 pat) delta1
        ((Recovery.bmMakeDelta2 pat).map toInt) :=
    filled_of_holds (by omega) hholds htables
  have hpos := List.length_pos_of_ne_nil hpat
  refine ⟨delta1, _, hdelta1, hdelta2, ?_, ?_⟩
  · intro i h hi
    exact h.progress hfilled htables hlen hi
  · have hfuel : str.length < 0 + (str.length + 1) := by omega
    obtain ⟨result, hvalue, hresult, hoccurs⟩ :=
      searchLoop_sound hfilled htables hlen hpat hfuel (Nat.zero_le _)
    have hfirst : ((0 : Nat) : Int) + pat.length - 1 = pat.length - 1 := by omega
    rw [hfirst] at hresult
    refine ⟨result, ?_, ?_, hoccurs⟩
    · rw [Recovery.bmSearch, htable, ← hvalue, Nat.zero_add]
      exact if_neg (by omega)
    · rw [bmSearch, hdelta1, ok_bind, hdelta2, ok_bind, if_neg (by omega), hresult]

/-- The tables are built where the stack holds other values, and the text is shorter than
twice the pattern. -/
theorem bm_search_sound_three :
    ∃ delta1 delta2, bmMakeDelta1 (List.replicate 256 (-7)) [97, 98, 97] = .ok delta1 ∧
      bmMakeDelta2 [5, 5, 5] [97, 98, 97] = .ok delta2 ∧
      (∀ i, Aligned [120, 97, 98, 97, 98] [97, 98, 97] delta1 delta2 i → i < 5 →
        ∃ turn, searchTurn [120, 97, 98, 97, 98] [97, 98, 97] delta1 delta2 i = .ok turn ∧
          ∀ next, turn = .next next → i < next) ∧
      ∃ result : Option Nat,
        Recovery.bmSearch [120, 97, 98, 97, 98] [97, 98, 97] = some result ∧
        bmSearch (List.replicate 256 (-7)) [5, 5, 5] [120, 97, 98, 97, 98] [97, 98, 97] =
          .ok (result.map fun position => (position : Int)) ∧
        ∀ position, result = some position →
          OccursAt [120, 97, 98, 97, 98] ([97, 98, 97] : List UInt8) position :=
  bm_search_sound (by decide) (by decide) (by decide) List.length_replicate rfl

end G2Common.Recovery.Checked
