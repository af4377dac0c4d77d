import G2Common.Utils.LocCfg

/-!
A configuration file that is read into a table. The file is read in pieces that fit into a
buffer, and only until as many pieces have set an entry as the table has entries.
-/

namespace G2Common.Utils

open Settings

variable {F : Type*}

def LOC_MAX_PARAM_NAME : Nat := 80

def LOC_MAX_PARAM_LINE : Nat := LOC_MAX_PARAM_NAME + LOC_MAX_PARAM_STRING

/-- What `fgets` reads into a buffer with room for `n` characters, and the rest of the
file. -/
def fgets : Nat → List Char → List Char × List Char
  | 0, file => ([], file)
  | _, [] => ([], [])
  | n + 1, c :: file =>
      if c = '\n' then ([c], file)
      else
        let (buf, rest) := fgets n file
        (c :: buf, rest)

/-- The pieces until the end of the file. -/
def piecesLoop (size : Nat) : Nat → List Char → List (List Char)
  | 0, _ => []
  | _, [] => []
  | fuel + 1, file =>
      let (buf, rest) := fgets (size - 1) file
      buf :: piecesLoop size fuel rest

/-- What successive calls of `fgets` read, each of which takes a character at least. -/
def pieces (size : Nat) (file : List Char) : List (List Char) :=
  piecesLoop size file.length file

theorem fgets_append (n : Nat) (file : List Char) :
    (fgets n file).1 ++ (fgets n file).2 = file := by
  induction n generalizing file with
  | zero => rfl
  | succ n ih =>
      cases file with
      | nil => rfl
      | cons c file =>
          rw [fgets]
          split
          · rfl
          · exact congrArg (c :: ·) (ih file)

theorem fgets_pos (n : Nat) (c : Char) (file : List Char) :
    0 < (fgets (n + 1) (c :: file)).1.length := by
  rw [fgets]
  split <;> exact Nat.succ_pos _

/-- The pieces make up the whole file. -/
theorem flatten_pieces {size : Nat} (hsize : 1 < size) (file : List Char) :
    (pieces size file).flatten = file := by
  have hloop (fuel : Nat) (file : List Char) (hfuel : file.length ≤ fuel) :
      (piecesLoop size fuel file).flatten = file := by
    induction fuel generalizing file with
    | zero => exact (List.eq_nil_of_length_eq_zero (by omega)).symm
    | succ fuel ih =>
        cases file with
        | nil => rfl
        | cons c file =>
            have hpos := fgets_pos (size - 2) c file
            have hwhole := fgets_append (size - 1) (c :: file)
            rw [show size - 2 + 1 = size - 1 by omega] at hpos
            have hlength := congrArg List.length hwhole
            rw [List.length_append] at hlength
            have hrest := ih (fgets (size - 1) (c :: file)).2 (by omega)
            simp only [piecesLoop, List.flatten_cons, hrest, hwhole]
  exact hloop file.length file (Nat.le_refl _)

/-- An entry with its validity bit cleared. -/
def clearSet (entry : ParamEntry F) : ParamEntry F :=
  { entry with param_set := entry.param_set.map (fun _ => false) }

/-- `loc_read_conf_r` from the start of the file. -/
def locReadConfR (ops : DoubleOps F) (conf_fp : List Char) (config_table : List (ParamEntry F)) :
    List (ParamEntry F) :=
  (fillLoop ops (pieces LOC_MAX_PARAM_LINE conf_fp) (UInt32.ofNat config_table.length)
    (config_table.map clearSet)).1

/-- `loc_read_conf`: the table and the parameters of the logger. There is no file if it
cannot be opened. -/
def locReadConf (ops : DoubleOps F) (conf_file : Option (List Char))
    (config_table loc_param_table : List (ParamEntry F)) :
    List (ParamEntry F) × List (ParamEntry F) :=
  match conf_file with
  | none => (config_table, loc_param_table)
  | some file =>
      (if config_table.length = 0 then config_table else locReadConfR ops file config_table,
        locReadConfR ops file loc_param_table)

/-- The lines that are not comments. -/
def configLines (file : List Char) : List (List Char) :=
  (file.splitOn '\n').filter (fun line => line.head? ≠ some '#')

/-- Each entry holds what the last line sets that names it, or what it held before. -/
def ReadTakesEffect (ops : DoubleOps F) (file : List Char)
    (table loc_param_table : List (ParamEntry F)) : Prop :=
  (locReadConf ops (some file) table loc_param_table).1.map ParamEntry.param_ptr =
    table.map (fun entry => ((last (sets ops) (configLines file) entry).getD entry).param_ptr)

/-- The pieces up to the one that sets as many entries as the table has. -/
def piecesRead (ops : DoubleOps F) (file : List Char) (table : List (ParamEntry F)) :
    List (List Char) :=
  upTo (names ops table) table.length (pieces LOC_MAX_PARAM_LINE file)

variable {ops : DoubleOps F} {table table' : List (ParamEntry F)} {file : List Char}
  {entry : ParamEntry F}

theorem shape_clearSet (entry : ParamEntry F) : shape (clearSet entry) = shape entry := by
  simp [shape, clearSet]

theorem map_shape_clearSet (table : List (ParamEntry F)) :
    (table.map clearSet).map shape = table.map shape := by
  rw [List.map_map]
  exact List.map_congr_left (fun entry _ => shape_clearSet entry)

theorem locReadConfR_eq (hsingle : Single (sets ops) table) (hlen : table.length < 2 ^ 32) :
    (locReadConfR ops file table).map ParamEntry.param_ptr =
      table.map (fun entry =>
        ((last (sets ops) (piecesRead ops file table) entry).getD entry).param_ptr) := by
  have hshape := map_shape_clearSet table
  have hloop := fillLoop_eq (single_congr hshape.symm hsingle) hlen
    (pieces LOC_MAX_PARAM_LINE file)
  rw [names_congr hshape] at hloop
  rw [locReadConfR, hloop, List.map_map, List.map_map]
  apply List.map_congr_left
  intro entry _
  simp only [Function.comp_def]
  rw [last_sets_congr (shape_clearSet entry)]
  unfold piecesRead
  cases last (sets ops) (upTo (names ops table) table.length (pieces LOC_MAX_PARAM_LINE file))
    entry <;> rfl

theorem piecesRead_congr (h : table'.map shape = table.map shape) :
    piecesRead ops file table' = piecesRead ops file table := by
  have hlength : table'.length = table.length := by
    simpa using congrArg List.length h
  rw [piecesRead, piecesRead, names_congr h, hlength]

theorem readTakesEffect_iff (hsingle : Single (sets ops) table) (hlen : table.length < 2 ^ 32)
    (loc_param_table : List (ParamEntry F)) :
    ReadTakesEffect ops file table loc_param_table ↔ ∀ entry ∈ table,
      ((last (sets ops) (configLines file) entry).getD entry).param_ptr =
        ((last (sets ops) (piecesRead ops file table) entry).getD entry).param_ptr := by
  cases table with
  | nil => exact iff_of_true rfl (fun entry hentry => by cases hentry)
  | cons first rest =>
      have heq : (locReadConf ops (some file) (first :: rest) loc_param_table).1 =
          locReadConfR ops file (first :: rest) := rfl
      rw [ReadTakesEffect, heq, locReadConfR_eq hsingle hlen, List.map_inj_left]
      constructor
      · exact fun h entry hentry => (h entry hentry).symm
      · exact fun h entry hentry => (h entry hentry).symm

theorem fgets_line {n : Nat} {line : List Char} (hline : '\n' ∉ line) (hn : line.length < n)
    (rest : List Char) : fgets n (line ++ '\n' :: rest) = (line ++ ['\n'], rest) := by
  induction line generalizing n with
  | nil =>
      cases n with
      | zero => omega
      | succ n => rfl
  | cons c line ih =>
      rw [List.mem_cons, not_or] at hline
      cases n with
      | zero => omega
      | succ n =>
          have hrest := ih hline.2 (Nat.lt_of_succ_lt_succ hn)
          rw [List.cons_append, fgets, if_neg (Ne.symm hline.1), hrest]
          rfl

theorem fgets_end {n : Nat} {line : List Char} (hline : '\n' ∉ line) (hn : line.length < n) :
    fgets n line = (line, []) := by
  induction line generalizing n with
  | nil => cases n <;> rfl
  | cons c line ih =>
      rw [List.mem_cons, not_or] at hline
      cases n with
      | zero => omega
      | succ n =>
          have hrest := ih hline.2 (Nat.lt_of_succ_lt_succ hn)
          rw [fgets, if_neg (Ne.symm hline.1), hrest]

/-- The pieces of a file with short lines say what its lines say, if the newline does not
count. -/
theorem filterMap_pieces {β : Type*} {g : List Char → Option β} {size fuel : Nat}
    (hempty : g [] = none) (hfuel : file.length ≤ fuel)
    (hlines : ∀ line ∈ file.splitOn '\n', line.length + 1 < size ∧
      g (line ++ ['\n']) = g line) :
    (piecesLoop size fuel file).filterMap g = (file.splitOn '\n').filterMap g := by
  induction fuel generalizing file with
  | zero =>
      have hfile : file = [] := List.eq_nil_of_length_eq_zero (by omega)
      rw [hfile, List.splitOn_nil]
      simp [piecesLoop, hempty]
  | succ fuel ih =>
      by_cases hmem : '\n' ∈ file
      · obtain ⟨line, rest, rfl, hline⟩ := List.eq_append_cons_of_mem hmem
        rw [List.splitOn_append_cons_self_of_not_mem hline] at hlines ⊢
        obtain ⟨⟨hshort, hsame⟩, hrest⟩ := List.forall_mem_cons.mp hlines
        have hlength : (line ++ '\n' :: rest).length = line.length + rest.length + 1 := by
          simp
          omega
        have hpiece : piecesLoop size (fuel + 1) (line ++ '\n' :: rest) =
            (line ++ ['\n']) :: piecesLoop size fuel rest := by
          rw [piecesLoop, fgets_line hline (by omega)]
          intro h
          simp at h
        rw [hpiece, List.filterMap_cons, List.filterMap_cons, hsame, ih (by omega) hrest]
      · rw [List.splitOn_eq_singleton hmem] at hlines ⊢
        obtain ⟨hshort, -⟩ := hlines file List.mem_cons_self
        cases file with
        | nil => simp [piecesLoop, hempty]
        | cons c file =>
            have hend : piecesLoop size fuel [] = [] := by cases fuel <;> rfl
            have hpiece : piecesLoop size (fuel + 1) (c :: file) = [c :: file] := by
              rw [piecesLoop, fgets_end hmem (by omega)]
              · simp only [hend]
              · intro h
                cases h
            rw [hpiece]

/-- Nothing but spaces after the last `=`. -/
def EndsBlank (line : List Char) : Prop :=
  ∃ name value, line = name ++ '=' :: value ∧ value.all isspace = true

theorem locUtilTrimSpace_newline {s : List Char} (h : s.all isspace = false) :
    locUtilTrimSpace (s ++ ['\n']) = locUtilTrimSpace s := by
  have hdrop : s.dropWhile isspace ≠ [] := by
    intro hnil
    rw [List.dropWhile_eq_nil_iff] at hnil
    rw [List.all_eq_true.mpr hnil] at h
    cases h
  rw [locUtilTrimSpace, locUtilTrimSpace, List.all_append, h, Bool.false_and, if_neg (by simp),
    if_neg (by simp), List.dropWhile_append, if_neg (by simpa using hdrop)]
  exact List.rdropWhile_concat_pos _ _ _ (by decide)

theorem tokens_last {delim : Char} {s t : List Char} (ht : delim ∉ t) (hne : t ≠ []) :
    tokens delim (s ++ delim :: t) = tokens delim s ++ [t] := by
  rw [tokens, List.splitOn_append_cons_self, List.splitOn_eq_singleton ht, List.filter_append,
    List.filter_singleton, tokens]
  simp [hne]

theorem exists_last_of_mem {a : Char} {s : List Char} (h : a ∈ s) :
    ∃ init t, s = init ++ a :: t ∧ a ∉ t := by
  obtain ⟨t, init, hs, ht⟩ := List.eq_append_cons_of_mem (List.mem_reverse.mpr h)
  refine ⟨init.reverse, t.reverse, ?_, by simpa using ht⟩
  rw [← List.reverse_reverse s, hs]
  simp

theorem configValue_none {ops : DoubleOps F} {line : List Char} (h : '=' ∉ line) :
    configValue ops line = none := by
  rw [configValue, tokens, List.splitOn_eq_singleton h]
  cases line <;> rfl

/-- The newline that `fgets` keeps is trimmed with the value. -/
theorem configValue_newline (ops : DoubleOps F) {line : List Char} (h : ¬ EndsBlank line) :
    configValue ops (line ++ ['\n']) = configValue ops line := by
  by_cases hmem : '=' ∈ line
  · obtain ⟨init, t, rfl, ht⟩ := exists_last_of_mem hmem
    have hvalue : t.all isspace = false := by
      rw [← Bool.not_eq_true]
      exact fun hall => h ⟨init, t, rfl, hall⟩
    have hne : t ≠ [] := by
      rintro rfl
      cases hvalue
    have hline : (init ++ '=' :: t) ++ ['\n'] = init ++ '=' :: (t ++ ['\n']) := by simp
    rw [hline, configValue, configValue, tokens_last (by simpa using ht) (by simp),
      tokens_last ht hne]
    match tokens '=' init with
    | [] => rfl
    | [name] => simp only [List.singleton_append, locUtilTrimSpace_newline hvalue]
    | name :: value :: rest => rfl
  · rw [configValue_none hmem, configValue_none (by simpa using hmem)]

theorem head_locUtilTrimSpace (s : List Char) :
    (locUtilTrimSpace ('#' :: s)).head? = some '#' := by
  have hkept : ¬ ('#' :: s).all isspace = true := by
    rw [List.all_cons, show isspace '#' = false by decide, Bool.false_and]
    exact Bool.false_ne_true
  rw [locUtilTrimSpace, if_neg hkept, List.dropWhile_cons_of_neg (by decide)]
  have hne : ('#' :: s).rdropWhile isspace ≠ [] := by
    rw [ne_eq, List.rdropWhile_eq_nil_iff]
    exact fun hall => hkept (List.all_eq_true.mpr hall)
  obtain ⟨c, rest, hcons⟩ := List.exists_cons_of_ne_nil hne
  have hprefix := List.rdropWhile_prefix isspace (l := '#' :: s)
  rw [hcons] at hprefix ⊢
  rw [(List.cons_prefix_cons.mp hprefix).1]
  rfl

theorem tokens_comment (s : List Char) :
    ∃ name rest, tokens '=' ('#' :: s) = ('#' :: name) :: rest := by
  obtain ⟨name, rest, hsplit⟩ := List.exists_cons_of_ne_nil (List.splitOn_ne_nil '=' s)
  refine ⟨name, rest.filter (· ≠ []), ?_⟩
  rw [tokens, List.splitOn_cons_eq_if_modifyHead, if_neg (by decide), hsplit,
    List.modifyHead_cons, List.filter_cons_of_pos (by simp)]

/-- A comment names no entry whose name does not start like one. -/
theorem sets_comment {line : List Char} (hline : line.head? = some '#')
    (hname : entry.param_name.head? ≠ some '#') : sets ops line entry = none := by
  by_contra hset
  obtain ⟨s, rfl⟩ := List.head?_eq_some_iff.mp hline
  obtain ⟨name, rest, htokens⟩ := tokens_comment s
  have hparam := name_of_sets hset
  rw [configValue, htokens] at hparam
  cases rest with
  | nil => cases hparam
  | cons value rest =>
      have heq : locUtilTrimSpace ('#' :: name) = entry.param_name := by
        simp only at hparam
        split at hparam <;> exact Option.some.inj hparam
      rw [← heq, head_locUtilTrimSpace] at hname
      exact hname rfl

/-- A file is read as its lines say if they fit into the buffer, no value is blank and no
more of them name an entry than the table has. -/
theorem last_piecesRead (hnames : ∀ entry ∈ table, entry.param_name.head? ≠ some '#')
    (hshort : ∀ line ∈ file.splitOn '\n', line.length + 1 < LOC_MAX_PARAM_LINE)
    (hblank : ∀ line ∈ file.splitOn '\n', ¬ EndsBlank line)
    (hcount : (file.splitOn '\n').countP (names ops table) ≤ table.length) :
    ∀ entry ∈ table, last (sets ops) (configLines file) entry =
      last (sets ops) (piecesRead ops file table) entry := by
  intro entry hentry
  have hpieces : (pieces LOC_MAX_PARAM_LINE file).filterMap (fun line => sets ops line entry) =
      (file.splitOn '\n').filterMap (fun line => sets ops line entry) := by
    apply filterMap_pieces rfl (Nat.le_refl _)
    intro line hline
    exact ⟨hshort line hline, by rw [sets, configValue_newline ops (hblank line hline), sets]⟩
  have hnamed : (pieces LOC_MAX_PARAM_LINE file).countP (names ops table) ≤ table.length := by
    have hoptions : (pieces LOC_MAX_PARAM_LINE file).filterMap
        (fun line => if names ops table line then some () else none) =
          (file.splitOn '\n').filterMap
            (fun line => if names ops table line then some () else none) := by
      apply filterMap_pieces (by simp [names, sets, configValue, tokens]) (Nat.le_refl _)
      intro line hline
      refine ⟨hshort line hline, ?_⟩
      unfold names sets
      rw [configValue_newline ops (hblank line hline)]
    have hlength := congrArg List.length hoptions
    simp only [List.length_filterMap_eq_countP] at hlength
    have hname (line : List Char) :
        (if names ops table line then some () else none).isSome = names ops table line := by
      cases names ops table line <;> rfl
    simp only [hname] at hlength
    rw [hlength]
    exact hcount
  have hread : last (sets ops) (pieces LOC_MAX_PARAM_LINE file) entry =
      last (sets ops) (file.splitOn '\n') entry := by
    rw [last_eq_getLast, hpieces, ← last_eq_getLast]
  rw [piecesRead, last_upTo hnamed (fun line hline => sets_of_not_names hline hentry), hread,
    configLines]
  apply last_filter
  intro line _ hcomment
  exact sets_comment (by simpa using hcomment) (hnames entry hentry)

/-- Reading a file takes effect whatever the entries held before, exactly if the last piece
that is read and names an entry sets what the last line sets that names it. -/
theorem read_takes_effect [Nontrivial F] (ops : DoubleOps F)
    (hnames : (table.map ParamEntry.param_name).Nodup) (hlen : table.length < 2 ^ 32)
    (file : List Char) (loc_param_table : List (ParamEntry F)) :
    (∀ table', table'.map shape = table.map shape →
      ReadTakesEffect ops file table' loc_param_table) ↔
      ∀ entry ∈ table, last (sets ops) (configLines file) entry =
        last (sets ops) (piecesRead ops file table) entry := by
  have hsingle := sets_single ops hnames
  have heach (table' : List (ParamEntry F)) (h : table'.map shape = table.map shape) :
      ReadTakesEffect ops file table' loc_param_table ↔ ∀ entry ∈ table',
        ((last (sets ops) (configLines file) entry).getD entry).param_ptr =
          ((last (sets ops) (piecesRead ops file table) entry).getD entry).param_ptr := by
    have hlength : table'.length = table.length := by
      simpa using congrArg List.length h
    rw [readTakesEffect_iff (single_congr h.symm hsingle) (by omega), piecesRead_congr h]
  constructor
  · intro hall entry hentry
    apply same_value_iff.mp
    refine forall_table_iff.mp ?_ entry hentry
    intro table' h
    exact (heach table' h).mp (hall table' h)
  · intro hsame table' h
    apply (heach table' h).mpr
    refine forall_table_iff.mpr ?_ table' h
    intro entry hentry
    exact same_value_iff.mpr (hsame entry hentry)

/-- A second line for the only entry of the table is not read, and the end of a long comment
is read like a line. -/
theorem file_misread :
    ¬ ReadTakesEffect wholeOps "A=1\nA=2\n".toList [numberEntry "A" 0] [] ∧
      ¬ ReadTakesEffect wholeOps ('#' :: List.replicate 158 '-' ++ "A=1\n".toList)
        [numberEntry "A" 0] [] := by
  unfold ReadTakesEffect
  decide +kernel

/-- A line for each of two parameters. -/
theorem read_takes_effect_two :
    ReadTakesEffect wholeOps "A=1\nB=2\n".toList [numberEntry "A" 0, numberEntry "B" 0] [] :=
  (read_takes_effect wholeOps (by decide) (by decide) "A=1\nB=2\n".toList []).mpr
    (by decide) _ rfl

end G2Common.Utils
