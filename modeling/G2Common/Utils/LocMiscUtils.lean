import G2Common.CheckedArray
import G2Common.Utils.LocCfg

/-!
The string functions of `loc_misc_utils.cpp` on the bytes they are given. An access
outside the buffer is a fault. `NULL` is `none`, and what is only logged is left out.
-/

namespace G2Common.Utils

open CheckedArray

def NUL : Char := '\x00'

/-- The C string that starts at position `p`. -/
def stringAt (memory : List Char) (p : Nat) : List Char :=
  (memory.drop p).takeWhile (· ≠ NUL)

variable {s rest : List Char}

theorem takeWhile_nul (h : NUL ∉ s) : (s ++ NUL :: rest).takeWhile (· ≠ NUL) = s := by
  have hall : ∀ c ∈ s, decide (c ≠ NUL) = true := by
    intro c hc
    simp only [ne_eq, decide_not, Bool.not_eq_true', decide_eq_false_iff_not]
    rintro rfl
    exact h hc
  rw [List.takeWhile_append_of_pos hall, List.takeWhile_cons, if_neg (by simp),
    List.append_nil]

theorem stringAt_nul {before : List Char} (h : NUL ∉ s) :
    stringAt (before ++ (s ++ NUL :: rest)) before.length = s := by
  rw [stringAt, List.drop_left, takeWhile_nul h]

/-- The string and the pointers of the loop, as positions in the string. -/
structure TrimPointers where
  org_string : List Char
  scan_ptr : Nat
  write_ptr : Nat
  first_nonspace : Option Nat
  last_nonspace : Option Nat
  deriving DecidableEq, Repr

/-- One turn of the loop, with the character at `scan_ptr`. -/
def trimTurn (c : Char) (p : TrimPointers) : Except Fault TrimPointers :=
  let first_nonspace :=
    if isspace c = false ∧ p.first_nonspace = none then some p.scan_ptr else p.first_nonspace
  if first_nonspace = none then .ok { p with scan_ptr := p.scan_ptr + 1 }
  else do
    let org_string ← writeAt p.org_string p.write_ptr c
    let write_ptr := p.write_ptr + 1
    let last_nonspace := if isspace c then p.last_nonspace else some write_ptr
    .ok ⟨org_string, p.scan_ptr + 1, write_ptr, first_nonspace, last_nonspace⟩

def trimLoop : Nat → TrimPointers → Except Fault TrimPointers
  | 0, _ => .error .fuel
  | fuel + 1, p => do
      let c ← readAt p.org_string p.scan_ptr
      if c = NUL then .ok p
      else do
        let p ← trimTurn c p
        trimLoop fuel p

/-- `loc_util_trim_space`. -/
def locUtilTrimSpaceInPlace (org_string : Option (List Char)) :
    Except Fault (Option (List Char)) :=
  match org_string with
  | none => .ok none
  | some org_string => do
      let p ← trimLoop (org_string.length + 1) ⟨org_string, 0, 0, none, none⟩
      match p.last_nonspace with
      | some last_nonspace => do
          let org_string ← writeAt p.org_string last_nonspace NUL
          .ok (some org_string)
      | none => .ok (some p.org_string)

variable {kept shifted tail todo : List Char} {c : Char}

/-- Writing at `write_ptr` what was read at `scan_ptr` moves the characters between them one
place on. -/
theorem shift (kept shifted tail : List Char) (c : Char) :
    ∃ shifted' : List Char, shifted'.length = shifted.length ∧
      writeAt (kept ++ (shifted ++ c :: tail)) kept.length c =
        .ok (kept ++ [c] ++ (shifted' ++ tail)) := by
  cases shifted with
  | nil =>
      refine ⟨[], rfl, ?_⟩
      rw [List.append_assoc]
      exact writeAt_append_cons kept tail c c
  | cons x shifted =>
      refine ⟨shifted ++ [c], by rw [List.length_append, List.length_cons]; rfl, ?_⟩
      rw [List.append_assoc, List.append_assoc]
      exact writeAt_append_cons kept (shifted ++ c :: tail) x c

theorem readAt_scan (kept shifted tail : List Char) (c : Char) :
    readAt (kept ++ (shifted ++ c :: tail)) ((kept.length + shifted.length : Nat) : Int) =
      .ok c := by
  rw [← List.append_assoc, ← List.length_append]
  exact readAt_append_cons (kept ++ shifted) tail c

/-- The loop after it moved `kept` to the start, with `gap` characters up to `scan_ptr`. -/
def trimKept (kept behind : List Char) (gap first : Nat) : TrimPointers :=
  ⟨kept ++ behind, kept.length + gap, kept.length, some first,
    some (kept.rdropWhile isspace).length⟩

/-- A turn once a character is kept, and the one that keeps the first character. -/
theorem trimTurn_kept (first_nonspace last_nonspace : Option Nat)
    (h : isspace c = false ∨ first_nonspace ≠ none)
    (hlast : isspace c → last_nonspace = some (kept.rdropWhile isspace).length) :
    ∃ shifted' : List Char, shifted'.length = shifted.length ∧ ∃ first : Nat,
      trimTurn c ⟨kept ++ (shifted ++ c :: tail), kept.length + shifted.length, kept.length,
          first_nonspace, last_nonspace⟩ =
        .ok (trimKept (kept ++ [c]) (shifted' ++ tail) shifted.length first) := by
  obtain ⟨shifted', hlength, hwrite⟩ := shift kept shifted tail c
  refine ⟨shifted', hlength, first_nonspace.getD (kept.length + shifted.length), ?_⟩
  have hfirst : (if isspace c = false ∧ first_nonspace = none then
      some (kept.length + shifted.length) else first_nonspace) =
      some (first_nonspace.getD (kept.length + shifted.length)) := by
    cases first_nonspace with
    | none => rw [if_pos ⟨by simpa using h, rfl⟩, Option.getD_none]
    | some first => rw [if_neg (by simp), Option.getD_some]
  have hlast' : (if isspace c = true then last_nonspace else some (kept.length + 1)) =
      some ((kept ++ [c]).rdropWhile isspace).length := by
    split
    case isTrue hspace => rw [hlast hspace, List.rdropWhile_concat_pos _ _ _ hspace]
    case isFalse hspace =>
        rw [List.rdropWhile_concat_neg _ _ _ hspace, List.length_append, List.length_singleton]
  simp only [trimTurn, hfirst, if_neg (Option.some_ne_none _), hwrite, ok_bind, hlast',
    trimKept, List.length_append, List.length_singleton, Nat.add_right_comm]

/-- Once a character is kept, the loop keeps all that follow, and `last_nonspace` stands
behind the last of them that is no white space. -/
theorem trimLoop_kept (hnul : NUL ∉ todo) {fuel : Nat} (hfuel : todo.length < fuel)
    (first : Nat) :
    ∃ shifted' : List Char, shifted'.length = shifted.length ∧ ∃ first' : Nat,
      trimLoop fuel (trimKept kept (shifted ++ (todo ++ NUL :: rest)) shifted.length first) =
        .ok (trimKept (kept ++ todo) (shifted' ++ NUL :: rest) shifted.length first') := by
  obtain ⟨fuel, rfl⟩ : ∃ n, fuel = n + 1 := ⟨fuel - 1, by omega⟩
  induction todo generalizing kept shifted first fuel with
  | nil =>
      refine ⟨shifted, rfl, first, ?_⟩
      rw [trimLoop, List.nil_append, List.append_nil]
      dsimp only [trimKept]
      rw [readAt_scan, ok_bind, if_pos rfl]
  | cons c todo ih =>
      obtain ⟨hc, htodo⟩ : NUL ≠ c ∧ NUL ∉ todo := by simpa using hnul
      obtain ⟨shifted', hlength, first', hturn⟩ := @trimTurn_kept kept shifted
        (todo ++ NUL :: rest) c (some first) _ (Or.inr (by simp)) (fun _ => rfl)
      rw [List.length_cons] at hfuel
      obtain ⟨fuel, rfl⟩ : ∃ n, fuel = n + 1 := ⟨fuel - 1, by omega⟩
      obtain ⟨shifted'', hlength', first'', hloop⟩ :=
        @ih (kept ++ [c]) shifted' htodo first' fuel (by omega)
      rw [List.append_assoc kept, List.singleton_append] at hloop
      refine ⟨shifted'', hlength'.trans hlength, first'', ?_⟩
      rw [← hlength, ← hloop, trimLoop]
      dsimp only [trimKept]
      rw [List.cons_append, hlength, readAt_scan, ok_bind, if_neg hc.symm, hturn, ok_bind]
      rfl

/-- Over white space at the start, only `scan_ptr` moves. -/
theorem trimLoop_spaces {before spaces tail : List Char} (h : ∀ c ∈ spaces, isspace c)
    (fuel : Nat) :
    trimLoop (spaces.length + fuel) ⟨before ++ (spaces ++ tail), before.length, 0, none, none⟩ =
      trimLoop fuel ⟨before ++ (spaces ++ tail), before.length + spaces.length, 0, none,
        none⟩ := by
  induction spaces generalizing before with
  | nil => rw [List.length_nil, Nat.zero_add, Nat.add_zero]
  | cons c spaces ih =>
      obtain ⟨hc, hspaces⟩ := List.forall_mem_cons.mp h
      have hread := readAt_scan before [] (spaces ++ tail) c
      rw [List.nil_append, List.length_nil, Nat.add_zero] at hread
      have hne : c ≠ NUL := by
        rintro rfl
        exact absurd hc (by decide)
      have hrest := @ih (before ++ [c]) hspaces
      rw [List.append_assoc, List.singleton_append, List.length_append,
        List.length_singleton] at hrest
      rw [List.length_cons, Nat.add_right_comm, trimLoop, List.cons_append, hread, ok_bind,
        if_neg hne, trimTurn]
      simp only [hc, Bool.true_eq_false, false_and, if_false, if_true, ok_bind]
      rw [hrest, Nat.add_assoc, Nat.add_comm 1]

/-- Without the white space at both ends. -/
def stripped (s : List Char) : List Char := (s.dropWhile isspace).rdropWhile isspace

theorem locUtilTrimSpace_of_mem {c : Char} (hc : c ∈ s) (h : isspace c = false) :
    locUtilTrimSpace s = stripped s := by
  apply if_neg
  intro hall
  exact Bool.false_ne_true (h.symm.trans (List.all_eq_true.mp hall c hc))

theorem mem_of_mem_stripped {c : Char} (h : c ∈ stripped s) : c ∈ s :=
  (List.dropWhile_sublist isspace).subset ((List.rdropWhile_prefix isspace _).subset h)

theorem stripped_stripped (s : List Char) : stripped (stripped s) = stripped s := by
  have hdrop : (stripped s).dropWhile isspace = stripped s := by
    have hprefix : stripped s <+: s.dropWhile isspace := List.rdropWhile_prefix isspace _
    have hhead := List.head?_dropWhile_not isspace s
    match hstripped : stripped s with
    | [] => rfl
    | c :: t =>
        obtain ⟨tail, htail⟩ := hprefix
        rw [← htail, hstripped, List.cons_append, List.head?_cons] at hhead
        exact List.dropWhile_cons_of_neg (Bool.eq_false_iff.mp hhead)
  rw [stripped, hdrop]
  exact List.rdropWhile_idempotent _ _

theorem stripped_eq_nil (h : ∀ c ∈ s, isspace c) : stripped s = [] := by
  rw [stripped, List.dropWhile_eq_nil_iff.mpr h]
  exact List.rdropWhile_nil _

theorem locUtilTrimSpace_stripped (s : List Char) :
    locUtilTrimSpace (stripped s) = stripped s := by
  rw [locUtilTrimSpace]
  split
  case isTrue => rfl
  case isFalse => exact stripped_stripped s

theorem locUtilTrimSpaceInPlace_spaces {spaces : List Char} (h : ∀ c ∈ spaces, isspace c)
    (rest : List Char) :
    locUtilTrimSpaceInPlace (some (spaces ++ NUL :: rest)) =
      .ok (some (spaces ++ NUL :: rest)) := by
  have hfuel : (spaces ++ NUL :: rest).length + 1 = spaces.length + (rest.length + 2) := by
    rw [List.length_append, List.length_cons]
    omega
  have hstart := @trimLoop_spaces [] spaces (NUL :: rest) h (rest.length + 2)
  have hread := readAt_scan [] spaces rest NUL
  rw [List.nil_append, List.length_nil, Nat.zero_add] at hstart hread
  rw [locUtilTrimSpaceInPlace, hfuel, hstart, trimLoop, hread, ok_bind, if_pos rfl, ok_bind]

theorem locUtilTrimSpaceInPlace_text {spaces todo : List Char} {c : Char}
    (h : ∀ c ∈ spaces, isspace c) (hc : isspace c = false) (hne : c ≠ NUL) (hnul : NUL ∉ todo)
    (rest : List Char) :
    ∃ behind : List Char,
      ((c :: todo).rdropWhile isspace).length + behind.length =
        spaces.length + (todo.length + 1) ∧
      locUtilTrimSpaceInPlace (some (spaces ++ (c :: todo ++ NUL :: rest))) =
        .ok (some ((c :: todo).rdropWhile isspace ++ NUL :: (behind ++ rest))) := by
  have hfuel : (spaces ++ (c :: todo ++ NUL :: rest)).length + 1 =
      spaces.length + (todo.length + rest.length + 2 + 1) := by
    simp only [List.length_append, List.length_cons]
    omega
  have hstart := @trimLoop_spaces [] spaces (c :: todo ++ NUL :: rest) h
    (todo.length + rest.length + 2 + 1)
  have hread := readAt_scan [] spaces (todo ++ NUL :: rest) c
  rw [List.nil_append, List.length_nil, Nat.zero_add] at hstart hread
  obtain ⟨shifted, hshifted, first, hturn⟩ := @trimTurn_kept [] spaces (todo ++ NUL :: rest) c
    none none (Or.inl hc) (fun hspace => absurd hspace (by rw [hc]; decide))
  rw [List.nil_append, List.length_nil, Nat.zero_add, List.nil_append] at hturn
  obtain ⟨shifted', hshifted', first', hloop⟩ := @trimLoop_kept rest [c] shifted todo hnul
    (todo.length + rest.length + 2) (by omega) first
  have hsplit : (c :: todo).rdropWhile isspace ++ (c :: todo).rtakeWhile isspace = c :: todo := by
    rw [List.rdropWhile, List.rtakeWhile, ← List.reverse_append,
      List.takeWhile_append_dropWhile, List.reverse_reverse]
  obtain ⟨behind, hbehind, hwrite⟩ := shift ((c :: todo).rdropWhile isspace)
    ((c :: todo).rtakeWhile isspace ++ shifted') rest NUL
  rw [List.append_assoc ((c :: todo).rtakeWhile isspace), ← List.append_assoc, hsplit,
    List.append_assoc, List.singleton_append] at hwrite
  refine ⟨behind, ?_, ?_⟩
  · have hlength := congrArg List.length hsplit
    rw [List.length_append, List.length_cons] at hlength
    rw [List.length_append] at hbehind
    omega
  · rw [locUtilTrimSpaceInPlace, hfuel, hstart, trimLoop, List.cons_append, hread, ok_bind,
      if_neg hne, hturn, ok_bind, ← hshifted, hloop, ok_bind]
    dsimp only [trimKept]
    rw [List.singleton_append, hwrite, ok_bind]

/-- The bytes that the in-place function leaves: the trimmed string and its NUL, then as
much as the string has lost, then what stood behind it. -/
theorem locUtilTrimSpaceInPlace_eq (h : NUL ∉ s) (rest : List Char) :
    ∃ behind : List Char, (locUtilTrimSpace s).length + behind.length = s.length ∧
      locUtilTrimSpaceInPlace (some (s ++ NUL :: rest)) =
        .ok (some (locUtilTrimSpace s ++ NUL :: (behind ++ rest))) := by
  by_cases hall : s.all isspace
  · rw [locUtilTrimSpace, if_pos hall]
    exact ⟨[], Nat.add_zero _, locUtilTrimSpaceInPlace_spaces (List.all_eq_true.mp hall) rest⟩
  · have hs : s.takeWhile isspace ++ s.dropWhile isspace = s :=
      List.takeWhile_append_dropWhile
    have hspaces : ∀ c ∈ s.takeWhile isspace, isspace c :=
      fun c hc => List.mem_takeWhile_imp hc
    have hhead := List.head?_dropWhile_not isspace s
    rw [locUtilTrimSpace, if_neg hall]
    match hdrop : s.dropWhile isspace with
    | [] =>
        rw [hdrop, List.append_nil] at hs
        rw [hs] at hspaces
        exact absurd (List.all_eq_true.mpr hspaces) hall
    | c :: todo =>
        rw [hdrop] at hs hhead
        have hnul : NUL ∉ c :: todo := by
          rw [← hs] at h
          exact fun hmem => h (List.mem_append_right _ hmem)
        obtain ⟨hne, htodo⟩ : c ≠ NUL ∧ NUL ∉ todo := by simpa [eq_comm] using hnul
        obtain ⟨behind, hlength, hrun⟩ :=
          locUtilTrimSpaceInPlace_text hspaces hhead hne htodo rest
        rw [← List.append_assoc, hs] at hrun
        refine ⟨behind, ?_, hrun⟩
        rw [hlength, ← List.length_cons, ← List.length_append, hs]

/-- The string is stripped in place, without an access behind its terminator, and doing it
again leaves it as it is. -/
def TrimsInPlace (s : List Char) : Prop :=
  ∀ rest : List Char, ∃ behind : List Char,
    (stripped s).length + behind.length = s.length ∧
    locUtilTrimSpaceInPlace (some (s ++ NUL :: rest)) =
      .ok (some (stripped s ++ NUL :: (behind ++ rest))) ∧
    locUtilTrimSpaceInPlace (some (stripped s ++ NUL :: (behind ++ rest))) =
      .ok (some (stripped s ++ NUL :: (behind ++ rest)))

theorem trimsInPlace_iff (h : NUL ∉ s) :
    TrimsInPlace s ↔ ((∀ c ∈ s, isspace c) → s = []) := by
  constructor
  · intro hstrips hall
    obtain ⟨behind, _, hrun, _⟩ := hstrips []
    rw [stripped_eq_nil hall, locUtilTrimSpaceInPlace_spaces hall] at hrun
    have hbytes : s ++ NUL :: [] = [] ++ NUL :: (behind ++ []) :=
      Option.some.inj (Except.ok.inj hrun)
    have hstring := congrArg (List.takeWhile (· ≠ NUL)) hbytes
    rw [takeWhile_nul h, takeWhile_nul List.not_mem_nil] at hstring
    exact hstring
  · intro hspaces rest
    have htrim : locUtilTrimSpace s = stripped s := by
      by_cases hall : ∀ c ∈ s, isspace c
      · rw [hspaces hall]
        rfl
      · push Not at hall
        obtain ⟨c, hc, hnot⟩ := hall
        exact locUtilTrimSpace_of_mem hc (Bool.eq_false_iff.mpr hnot)
    obtain ⟨behind, hlength, hrun⟩ := locUtilTrimSpaceInPlace_eq h rest
    rw [htrim] at hlength hrun
    have hnul : NUL ∉ stripped s := fun hmem => h (mem_of_mem_stripped hmem)
    obtain ⟨behind', hlength', hagain⟩ := locUtilTrimSpaceInPlace_eq hnul (behind ++ rest)
    rw [locUtilTrimSpace_stripped] at hlength' hagain
    obtain rfl : behind' = [] := List.length_eq_zero_iff.mp (by omega)
    exact ⟨behind, hlength, hrun, hagain⟩

theorem trimsInPlace_padded :
    NUL ∉ " a b ".toList ∧ TrimsInPlace " a b ".toList := by
  have hnul : NUL ∉ " a b ".toList := by decide
  have hletter : isspace 'a' = false := rfl
  exact ⟨hnul, (trimsInPlace_iff hnul).mpr
    (fun hall => absurd (hall 'a' (by decide)) (by rw [hletter]; decide))⟩

/-- A string of one space stays. -/
theorem not_trimsInPlace_space : ¬ TrimsInPlace [' '] := by
  intro h
  obtain ⟨behind, _, hrun, _⟩ := h []
  have hstays : locUtilTrimSpaceInPlace (some [' ', NUL]) = .ok (some [' ', NUL]) := rfl
  rw [List.singleton_append, hstays] at hrun
  have hbytes : [' ', NUL] = NUL :: (behind ++ []) :=
    Option.some.inj (Except.ok.inj hrun)
  exact absurd (List.cons.inj hbytes).1 (by decide)

/-- `strlen`. -/
def strlen (memory : List Char) : Except Fault Nat :=
  if NUL ∈ memory then .ok (memory.takeWhile (· ≠ NUL)).length else .error .index

/-- The raw string, the array of pointers into it and how many of them are used. -/
structure SplitStrings where
  raw_string : List Char
  split_strings_ptr : List (Option Nat)
  num_split_strings : Nat
  deriving DecidableEq, Repr

/-- One turn of the loop, and whether it ends the loop. -/
def splitTurn (raw_string_length : Nat) (max_num_substrings : Int) (delimiter : Char)
    (raw_string_index : Nat) (s : SplitStrings) : Except Fault (SplitStrings × Bool) := do
  let c ← readAt s.raw_string raw_string_index
  let end_string := decide (c = NUL)
  if c = delimiter ∨ end_string then
    let raw_string ← writeAt s.raw_string raw_string_index NUL
    let num_split_strings := s.num_split_strings + 1
    if raw_string_index + 1 < raw_string_length ∧ num_split_strings < max_num_substrings then
      let split_strings_ptr ←
        writeAt s.split_strings_ptr num_split_strings (some (raw_string_index + 1))
      return (⟨raw_string, split_strings_ptr, num_split_strings⟩, end_string)
    else return (⟨raw_string, s.split_strings_ptr, num_split_strings⟩, true)
  else return (s, end_string)

/-- The loop from `raw_string_index` on, with `left` positions still to go. -/
def splitLoop (raw_string_length : Nat) (max_num_substrings : Int) (delimiter : Char) :
    Nat → Nat → SplitStrings → Except Fault SplitStrings
  | 0, _, s => .ok s
  | left + 1, raw_string_index, s => do
      let (s, done) ←
        splitTurn raw_string_length max_num_substrings delimiter raw_string_index s
      if done then return s
      else
        splitLoop raw_string_length max_num_substrings delimiter left (raw_string_index + 1) s

/-- `loc_util_split_string`: what it returns, the raw string and the array. -/
def locUtilSplitString (raw_string : Option (List Char))
    (split_strings_ptr : Option (List (Option Nat))) (max_num_substrings : Int)
    (delimiter : Char) :
    Except Fault (Int × Option (List Char) × Option (List (Option Nat))) :=
  match raw_string, split_strings_ptr with
  | some raw_string, some split_strings_ptr => do
      let length ← strlen raw_string
      let raw_string_length := length + 1
      let split_strings_ptr ← writeAt split_strings_ptr (0 : Nat) (some 0)
      let s ← splitLoop raw_string_length max_num_substrings delimiter raw_string_length 0
        ⟨raw_string, split_strings_ptr, 0⟩
      .ok (s.num_split_strings, some s.raw_string, some s.split_strings_ptr)
  | _, _ => .ok (-1, raw_string, split_strings_ptr)

example : locUtilSplitString (some "a,,b,c\x00".toList) (some (List.replicate 4 none)) 3 ',' =
    .ok (3, some "a\x00\x00b\x00c\x00".toList, some [some 0, some 2, some 3, none]) := by rfl

section Split

variable {before field : List Char} {delimiter : Char} {length left num : Nat} {max : Int}
  {slots filled free : List (Option Nat)} {p x : Option Nat}

theorem splitTurn_other (hc : c ≠ delimiter) (hnul : c ≠ NUL) :
    splitTurn length max delimiter before.length ⟨before ++ c :: tail, slots, num⟩ =
      .ok (⟨before ++ c :: tail, slots, num⟩, false) := by
  rw [splitTurn]
  dsimp only
  rw [readAt_append_cons, ok_bind, if_neg (by simp [hc, hnul]), decide_eq_false hnul]
  rfl

theorem splitTurn_last (hlength : length ≤ before.length + 1) :
    splitTurn length max delimiter before.length ⟨before ++ NUL :: tail, slots, num⟩ =
      .ok (⟨before ++ NUL :: tail, slots, num + 1⟩, true) := by
  rw [splitTurn]
  dsimp only
  rw [readAt_append_cons, ok_bind, if_pos (Or.inr (decide_eq_true rfl)), writeAt_append_cons,
    ok_bind, if_neg (fun h => absurd h.1 (by omega))]
  rfl

/-- A field ends at a delimiter, and there is room for one more. -/
theorem splitTurn_next (hd : delimiter ≠ NUL) (hlength : before.length + 1 < length)
    (hmax : (filled.length + 1 : Int) < max) :
    splitTurn length max delimiter before.length
        ⟨before ++ delimiter :: tail, filled ++ p :: x :: free, filled.length⟩ =
      .ok (⟨before ++ NUL :: tail, filled ++ p :: some (before.length + 1) :: free,
        filled.length + 1⟩, false) := by
  have hslots := writeAt_append_cons (filled ++ [p]) free x (some (before.length + 1))
  rw [List.append_assoc, List.append_assoc, List.singleton_append, List.singleton_append,
    List.length_append, List.length_singleton] at hslots
  rw [splitTurn]
  dsimp only
  rw [readAt_append_cons, ok_bind, if_pos (Or.inl rfl), writeAt_append_cons, ok_bind,
    if_pos ⟨hlength, by omega⟩, hslots, ok_bind, decide_eq_false hd]
  rfl

/-- A field ends at a delimiter, and the array is full. -/
theorem splitTurn_full (hmax : max ≤ (num + 1 : Int)) :
    splitTurn length max delimiter before.length ⟨before ++ delimiter :: tail, slots, num⟩ =
      .ok (⟨before ++ NUL :: tail, slots, num + 1⟩, true) := by
  rw [splitTurn]
  dsimp only
  rw [readAt_append_cons, ok_bind, if_pos (Or.inl rfl), writeAt_append_cons, ok_bind,
    if_neg (fun h => absurd h.2 (by omega))]
  rfl

/-- Over the characters of a field, the loop only moves on. -/
theorem splitLoop_field (hd : delimiter ∉ field) (hnul : NUL ∉ field) :
    splitLoop length max delimiter (field.length + left) before.length
        ⟨before ++ (field ++ tail), slots, num⟩ =
      splitLoop length max delimiter left (before ++ field).length
        ⟨before ++ field ++ tail, slots, num⟩ := by
  induction field generalizing before with
  | nil => rw [List.length_nil, Nat.zero_add, List.append_nil, List.nil_append]
  | cons c field ih =>
      obtain ⟨hc, hd⟩ : delimiter ≠ c ∧ delimiter ∉ field := by simpa using hd
      obtain ⟨hcnul, hnul⟩ : NUL ≠ c ∧ NUL ∉ field := by simpa using hnul
      have hrest := @ih (before ++ [c]) hd hnul
      rw [List.append_assoc, List.append_assoc, List.singleton_append, List.singleton_append,
        List.length_append, List.length_singleton] at hrest
      rw [List.length_cons, Nat.add_right_comm, splitLoop, List.cons_append,
        splitTurn_other hc.symm hcnul.symm]
      exact hrest

/-- The pointers that the loop stores: the field at `raw_string_index`, and those behind it as
far as there is room. -/
theorem splitLoop_fields (hd : delimiter ≠ NUL) (hnul : NUL ∉ s)
    (hlength : length = before.length + s.length + 1)
    (hroom : max ≤ filled.length + 1 + free.length) (hmax : filled.length < max) :
    ∃ out ps, out.length = s.length + 1 ∧
      ps.length = min (1 + s.count delimiter) (max - filled.length).toNat ∧
      splitLoop length max delimiter (s.length + 1) before.length
          ⟨before ++ (s ++ NUL :: rest), filled ++ some before.length :: free, filled.length⟩ =
        .ok ⟨before ++ (out ++ rest), filled ++ (ps ++ free.drop (ps.length - 1)),
          filled.length + ps.length⟩ ∧
      ps.map (Option.map (stringAt (before ++ (out ++ rest)))) =
        ((s.splitOn delimiter).take ps.length).map some := by
  induction hn : s.length using Nat.strongRecOn generalizing s before filled free with
  | ind n ih =>
  subst hn
  by_cases hmem : delimiter ∈ s
  · obtain ⟨field, s', rfl, hfield⟩ := List.eq_append_cons_of_mem hmem
    obtain ⟨hnulf, hnuls⟩ : NUL ∉ field ∧ NUL ∉ s' := by
      simp only [List.mem_append, List.mem_cons, not_or] at hnul
      exact ⟨hnul.1, hnul.2.2⟩
    rw [List.length_append, List.length_cons] at hlength
    have hloop : ∀ slots : List (Option Nat),
        splitLoop length max delimiter ((field ++ delimiter :: s').length + 1) before.length
          ⟨before ++ (field ++ delimiter :: s' ++ NUL :: rest), slots, filled.length⟩ =
        splitLoop length max delimiter (s'.length + 1 + 1) (before ++ field).length
          ⟨before ++ field ++ delimiter :: (s' ++ NUL :: rest), slots, filled.length⟩ := by
      intro slots
      rw [List.append_assoc field, List.length_append, List.length_cons, Nat.add_assoc]
      exact splitLoop_field hfield hnulf
    have hcount : (field ++ delimiter :: s').count delimiter = 1 + s'.count delimiter := by
      rw [List.count_append, List.count_eq_zero_of_not_mem hfield, List.count_cons_self]
      omega
    rw [List.splitOn_append_cons_self_of_not_mem hfield, hloop, hcount, splitLoop]
    by_cases hfull : max ≤ (filled.length + 1 : Int)
    · refine ⟨field ++ NUL :: (s' ++ [NUL]), [some before.length], by simp; omega,
        by rw [List.length_singleton]; omega, ?_, ?_⟩
      · rw [splitTurn_full hfull, ok_bind]
        simp
        rfl
      · have hread := @stringAt_nul field (s' ++ NUL :: rest) before hnulf
        simpa using hread
    · obtain ⟨x, free, rfl⟩ : ∃ x free', free = x :: free' :=
        List.exists_cons_of_length_pos (by omega)
      have hbefore : (before ++ field ++ [NUL]).length = (before ++ field).length + 1 := by
        rw [List.length_append, List.length_singleton]
      have hfilled : (filled ++ [some before.length]).length = filled.length + 1 := by
        rw [List.length_append, List.length_singleton]
      obtain ⟨out, ps, hout, hps, hrun, hread⟩ := @ih s'.length
        (by rw [List.length_append, List.length_cons]; omega) s' (before ++ field ++ [NUL])
        (filled ++ [some before.length]) free hnuls
        (by rw [hbefore, List.length_append]; omega)
        (by rw [hfilled]; rw [List.length_cons] at hroom; omega)
        (by rw [hfilled]; omega) rfl
      obtain ⟨q, ps, rfl⟩ : ∃ q ps', ps = q :: ps' :=
        List.exists_cons_of_length_pos (by omega)
      refine ⟨field ++ NUL :: out, some before.length :: q :: ps, ?_, ?_, ?_, ?_⟩
      · rw [List.length_append, List.length_append, List.length_cons, List.length_cons, hout]
        omega
      · rw [hfilled] at hps
        rw [List.length_cons, hps]
        omega
      · rw [splitTurn_next hd (by rw [List.length_append]; omega) (by omega), ok_bind]
        rw [hbefore, hfilled] at hrun
        simpa [Nat.add_assoc, Nat.add_comm 1] using hrun
      · have hfirst := @stringAt_nul field (out ++ rest) before hnulf
        rw [List.length_cons, List.take_succ_cons, @List.map_cons _ _ some, ← hread]
        simpa using hfirst
  · refine ⟨s ++ [NUL], [some before.length], by simp, ?_, ?_, ?_⟩
    · rw [List.count_eq_zero_of_not_mem hmem, List.length_singleton]
      omega
    · rw [splitLoop_field hmem hnul, splitLoop, splitTurn_last (by simp; omega), ok_bind]
      simp
      rfl
    · have hread := @stringAt_nul s rest before hnul
      simpa [List.splitOn_eq_singleton hmem] using hread

end Split

theorem length_splitOn (delimiter : Char) (s : List Char) :
    (s.splitOn delimiter).length = s.count delimiter + 1 := by
  induction s with
  | nil => rfl
  | cons c s ih =>
      rw [List.splitOn_cons_eq_if_modifyHead, List.count_cons]
      split
      case isTrue => rw [List.length_cons, ih]
      case isFalse => rw [List.length_modifyHead, ih, Nat.add_zero]

theorem filterMap_of_map_some {α β : Type} {f : α → Option β} {l : List α} {m : List β}
    (h : l.map f = m.map some) : l.filterMap f = m := by
  have hid := congrArg (List.filterMap id) h
  rw [List.filterMap_map, List.filterMap_map] at hid
  exact hid.trans List.filterMap_some

/-- `loc_util_split_string` splits like `splitOn`: the pointers it stores are those to the
first fields, as many as there is room for, and nothing else of the array or behind the
terminator is written. -/
theorem locUtilSplitString_eq_splitOn {delimiter : Char} {max : Int}
    {slots : List (Option Nat)} (h : NUL ∉ s) (hd : delimiter ≠ NUL) (hmax : 1 ≤ max)
    (hslots : max ≤ slots.length) (rest : List Char) :
    ∃ out ps, out.length = s.length + 1 ∧
      (ps.length : Int) = min max (1 + s.count delimiter) ∧
      locUtilSplitString (some (s ++ NUL :: rest)) (some slots) max delimiter =
        .ok (ps.length, some (out ++ rest), some (ps ++ slots.drop ps.length)) ∧
      ps.map (Option.map (stringAt (out ++ rest))) =
        ((s.splitOn delimiter).take ps.length).map some ∧
      (1 + (s.count delimiter : Int) ≤ max →
        [delimiter].intercalate (ps.filterMap (Option.map (stringAt (out ++ rest)))) = s) := by
  obtain ⟨x, free, rfl⟩ : ∃ x free, slots = x :: free :=
    List.exists_cons_of_length_pos (by omega)
  rw [List.length_cons] at hslots
  obtain ⟨out, ps, hout, hps, hrun, hread⟩ := @splitLoop_fields s rest [] delimiter
    (s.length + 1) max [] free hd h (by simp) (by simp only [List.length_nil]; omega)
    (by simp only [List.length_nil]; omega)
  rw [List.length_nil] at hps
  rw [List.nil_append] at hread
  simp only [List.nil_append, List.length_nil, Nat.zero_add] at hrun
  obtain ⟨q, ps, rfl⟩ : ∃ q ps', ps = q :: ps' := List.exists_cons_of_length_pos (by omega)
  refine ⟨out, q :: ps, hout, by omega, ?_, hread, ?_⟩
  · have hlen : strlen (s ++ NUL :: rest) = .ok s.length := by
      rw [strlen, if_pos (List.mem_append_right _ List.mem_cons_self), takeWhile_nul h]
    have hslot : writeAt (x :: free) ((0 : Nat) : Int) (some 0) = .ok (some 0 :: free) :=
      writeAt_append_cons [] free x (some 0)
    rw [locUtilSplitString, hlen, ok_bind]
    dsimp only
    rw [hslot, ok_bind, hrun, ok_bind]
    rfl
  · intro hall
    have hfields : (s.splitOn delimiter).length ≤ (q :: ps).length := by
      rw [length_splitOn]
      omega
    rw [List.take_of_length_le hfields] at hread
    rw [filterMap_of_map_some hread, List.intercalate_splitOn]

theorem locUtilSplitString_three :
    ∃ out ps, locUtilSplitString (some "a,,b,c\x00".toList) (some (List.replicate 4 none)) 3 ',' =
        .ok (3, some out, some (ps ++ [none])) ∧
      ps.map (Option.map (stringAt out)) =
        [some ['a'], some [], some ['b']] := by
  obtain ⟨out, ps, _, hlength, hrun, hread, _⟩ := @locUtilSplitString_eq_splitOn
    "a,,b,c".toList ',' 3 (List.replicate 4 none) (by decide) (by decide) (by decide)
    (by decide) []
  have hthree : ps.length = 3 := by
    rw [show (1 + (("a,,b,c".toList.count ',' : Nat) : Int)) = 4 by decide] at hlength
    omega
  rw [List.append_nil, hthree] at hrun hread
  exact ⟨out, ps, hrun, hread⟩

end G2Common.Utils
