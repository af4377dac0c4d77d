import G2Common.Utils.LocCfg
import Mathlib.Data.List.Forall2

/-!
Whether a value that is written into a line is the one that `loc_fill_conf_item` stores: hex
numbers, decimal numbers and strings.
-/

namespace G2Common.Utils

open Settings

/-- A way to write the digits of a base, none of which means something else to the code. -/
structure Glyphs (base : Nat) (glyph : Char → Char) : Prop where
  one_lt : 1 < base
  digit_eq : ∀ d < base, digit base (glyph d.digitChar) = some d
  plain : ∀ d < base, isspace (glyph d.digitChar) = false ∧ glyph d.digitChar ≠ '-' ∧
    glyph d.digitChar ≠ '+' ∧ (glyph d.digitChar).toLower ≠ 'x' ∧ glyph d.digitChar ≠ '='

theorem glyphs_decimal : Glyphs 10 id := ⟨by decide, by decide, by decide⟩

theorem glyphs_hex (upper : Bool) : Glyphs 16 (if upper then Char.toUpper else id) := by
  cases upper
  · exact ⟨by decide, by decide, by decide⟩
  · exact ⟨by decide, by decide, by decide⟩

def numeral (base : Nat) (glyph : Char → Char) (n : Nat) : List Char :=
  (Nat.toDigits base n).map glyph

theorem numeral_ne_nil (base : Nat) (glyph : Char → Char) (n : Nat) :
    numeral base glyph n ≠ [] := by
  rw [numeral, ne_eq, List.map_eq_nil_iff]
  exact Nat.toDigits_ne_nil

section Numerals

variable {base : Nat} {glyph : Char → Char} {s t : List Char} {c : Char}

theorem mem_numeral (h : Glyphs base glyph) {n : Nat} (hc : c ∈ numeral base glyph n) :
    ∃ d < base, c = glyph d.digitChar := by
  induction n using Nat.strongRecOn with
  | ind n ih =>
      rw [numeral, Nat.toDigits_eq_if h.one_lt] at hc
      split at hc
      case isTrue hlt => exact ⟨n, hlt, List.mem_singleton.mp hc⟩
      case isFalse hge =>
        rw [List.map_append, List.mem_append] at hc
        rcases hc with hhigh | hlow
        · exact ih (n / base) (Nat.div_lt_self (by have := h.one_lt; omega) h.one_lt) hhigh
        · exact ⟨n % base, Nat.mod_lt n (by have := h.one_lt; omega), List.mem_singleton.mp hlow⟩

theorem digits_append (hs : ∀ c ∈ s, digit base c ≠ none) :
    digits base (s ++ t) = digits base s ++ digits base t := by
  induction s with
  | nil => rfl
  | cons c s ih =>
      obtain ⟨hc, hs⟩ := List.forall_mem_cons.mp hs
      obtain ⟨d, hd⟩ := Option.ne_none_iff_exists'.mp hc
      rw [List.cons_append, digits, digits, hd, ih hs]
      rfl

/-- The digits of a numeral say its number. -/
theorem foldl_digits (h : Glyphs base glyph) (n : Nat) :
    (digits base (numeral base glyph n)).foldl (fun n d => n * base + d) 0 = n := by
  have hone (d : Nat) (hd : d < base) : digits base [glyph d.digitChar] = [d] := by
    rw [digits, h.digit_eq d hd]
    rfl
  induction n using Nat.strongRecOn with
  | ind n ih =>
      have hbase := h.one_lt
      rw [numeral, Nat.toDigits_eq_if hbase]
      split
      case isTrue hlt =>
        rw [List.map_singleton, hone n hlt]
        exact (congrArg (· + n) (Nat.zero_mul base)).trans (Nat.zero_add n)
      case isFalse hge =>
        have hhigh : ∀ c ∈ numeral base glyph (n / base), digit base c ≠ none := by
          intro c hc
          obtain ⟨d, hd, rfl⟩ := mem_numeral h hc
          rw [h.digit_eq d hd]
          exact Option.some_ne_none d
        have hdigits := ih (n / base) (Nat.div_lt_self (by omega) hbase)
        rw [List.map_append, List.map_singleton, ← numeral, digits_append hhigh,
          hone _ (Nat.mod_lt n (by omega)), List.foldl_append, hdigits, List.foldl_cons,
          List.foldl_nil, Nat.div_add_mod']

theorem afterHex_plain (hs : ∀ c ∈ s, c.toLower ≠ 'x') : afterHex base s = s := by
  unfold afterHex
  split
  case h_1 x c s =>
    have hx : x.toLower ≠ 'x' := hs x (by simp)
    rw [if_neg (fun h => hx h.2.1)]
  case h_2 => rfl

theorem sign_plain (hminus : c ≠ '-') (hplus : c ≠ '+') : sign (c :: s) = (1, c :: s) := by
  unfold sign
  split
  case h_1 heq => exact absurd (List.cons.inj heq).1 hminus
  case h_2 heq => exact absurd (List.cons.inj heq).1 hplus
  case h_3 => rfl

/-- `strtol` reads a numeral up to its bounds. -/
theorem strtol_numeral (h : Glyphs base glyph) (n : Nat) :
    strtol (numeral base glyph n) base = max (-2 ^ 31) (min (n : Int) (2 ^ 31 - 1)) ∧
      strtol ('-' :: numeral base glyph n) base = max (-2 ^ 31) (min (-n : Int) (2 ^ 31 - 1)) := by
  have hplain : ∀ c ∈ numeral base glyph n, c.toLower ≠ 'x' := by
    intro c hc
    obtain ⟨d, hd, rfl⟩ := mem_numeral h hc
    exact (h.plain d hd).2.2.2.1
  have hvalue := foldl_digits h n
  constructor
  · have hsign : sign ((numeral base glyph n).dropWhile isspace) = (1, numeral base glyph n) := by
      obtain ⟨c, s, hcons⟩ := List.exists_cons_of_ne_nil (numeral_ne_nil base glyph n)
      obtain ⟨d, hd, rfl⟩ := mem_numeral h (hcons ▸ List.mem_cons_self)
      obtain ⟨hspace, hminus, hplus, -⟩ := h.plain d hd
      rw [hcons, List.dropWhile_cons_of_neg (by rw [hspace]; exact Bool.false_ne_true),
        sign_plain hminus hplus]
    rw [strtol, hsign]
    dsimp only
    rw [afterHex_plain hplain, hvalue, Int.one_mul]
  · have hsign : sign (('-' :: numeral base glyph n).dropWhile isspace) =
        (-1, numeral base glyph n) := rfl
    rw [strtol, hsign]
    dsimp only
    rw [afterHex_plain hplain, hvalue, Int.neg_one_mul]

end Numerals

/-- A line of a configuration file, `"NAME = value"`. -/
def configLine (name text : List Char) : List Char := name ++ " = ".toList ++ text

/-- No space at either end. -/
structure Trimmed (s : List Char) : Prop where
  head : ∀ c ∈ s.head?, isspace c = false
  getLast : ∀ c ∈ s.getLast?, isspace c = false

section Lines

variable {F : Type*} {ops : DoubleOps F} {name text s l r : List Char}

theorem locUtilTrimSpace_padded (hs : Trimmed s) (hne : s ≠ []) (hl : ∀ c ∈ l, isspace c)
    (hr : ∀ c ∈ r, isspace c) : locUtilTrimSpace (l ++ (s ++ r)) = s := by
  obtain ⟨c, cs, rfl⟩ := List.exists_cons_of_ne_nil hne
  have hc : ¬ isspace c = true := by
    rw [hs.head c rfl]
    exact Bool.false_ne_true
  have hall : ¬ (l ++ (c :: cs ++ r)).all isspace = true := by
    rw [List.all_eq_true]
    exact fun h => hc (h c (by simp))
  have hlast : (c :: cs).reverse.dropWhile isspace = (c :: cs).reverse := by
    obtain ⟨d, ds, hds⟩ := List.exists_cons_of_ne_nil (List.reverse_ne_nil_iff.mpr hne)
    have hd : isspace d = false := by
      apply hs.getLast
      rw [List.getLast?_eq_head?_reverse, hds]
      rfl
    rw [hds, List.dropWhile_cons_of_neg (by rw [hd]; exact Bool.false_ne_true)]
  rw [locUtilTrimSpace, if_neg hall, List.dropWhile_append_of_pos hl, List.cons_append,
    List.dropWhile_cons_of_neg hc, ← List.cons_append, List.rdropWhile, List.reverse_append,
    List.dropWhile_append_of_pos (by simpa using hr), hlast, List.reverse_reverse]

theorem locUtilTrimSpace_name (hs : Trimmed s) (hne : s ≠ []) :
    locUtilTrimSpace (s ++ [' ']) = s := by
  have hspace : ∀ c ∈ [' '], isspace c := List.forall_mem_singleton.mpr rfl
  have hpadded := @locUtilTrimSpace_padded s [] [' '] hs hne (by simp) hspace
  rwa [List.nil_append] at hpadded

theorem takeWhile_of_notMem (h : '=' ∉ text) : text.takeWhile (· ≠ '=') = text := by
  rw [List.takeWhile_eq_self_iff]
  intro c hc
  simpa using ne_of_mem_of_not_mem hc h

/-- The value ends at the second `=`. -/
theorem tokens_configLine (hname : '=' ∉ name) (text : List Char) :
    ∃ rest, tokens '=' (configLine name text) =
      (name ++ [' ']) :: (' ' :: text.takeWhile (· ≠ '=')) :: rest := by
  have hline : configLine name text = (name ++ [' ']) ++ '=' :: (' ' :: text) := by
    simp [configLine]
  have hspace : '=' ∉ name ++ [' '] := by simpa using hname
  rw [hline, tokens, List.splitOn_append_cons_self_of_not_mem hspace,
    List.filter_cons_of_pos (by simp)]
  by_cases hmem : '=' ∈ text
  · obtain ⟨a, b, rfl, ha⟩ := List.eq_append_cons_of_mem hmem
    have htake : (a ++ '=' :: b).takeWhile (· ≠ '=') = a := by
      rw [List.takeWhile_append_of_pos (by
        intro c hc
        simpa using ne_of_mem_of_not_mem hc ha)]
      simp
    have ha' : '=' ∉ ' ' :: a := by simpa using ha
    rw [htake, ← List.cons_append, List.splitOn_append_cons_self_of_not_mem ha',
      List.filter_cons_of_pos (by simp)]
    exact ⟨_, rfl⟩
  · have hmem' : '=' ∉ ' ' :: text := by simpa using hmem
    rw [takeWhile_of_notMem hmem, List.splitOn_eq_singleton hmem',
      List.filter_cons_of_pos (by simp)]
    exact ⟨_, rfl⟩

/-- The string that is cut out of a line for its value. -/
def strValue (text : List Char) : List Char :=
  locUtilTrimSpace (' ' :: text.takeWhile (· ≠ '='))

theorem strValue_eq (htext : '=' ∉ text) (htrimmed : Trimmed text) (hne : text ≠ []) :
    strValue text = text := by
  have hspace : ∀ c ∈ [' '], isspace c := List.forall_mem_singleton.mpr rfl
  have hpadded := @locUtilTrimSpace_padded text [' '] [] htrimmed hne hspace (by simp)
  rw [List.append_nil, List.singleton_append] at hpadded
  rw [strValue, takeWhile_of_notMem htext]
  exact hpadded

theorem mem_of_mem_locUtilTrimSpace {c : Char} (h : c ∈ locUtilTrimSpace s) : c ∈ s := by
  rw [locUtilTrimSpace] at h
  split at h
  · exact h
  · exact (List.dropWhile_sublist isspace).subset ((List.rdropWhile_prefix isspace _).subset h)

theorem notMem_strValue (text : List Char) : '=' ∉ strValue text := by
  intro h
  rcases List.mem_cons.mp (mem_of_mem_locUtilTrimSpace h) with hspace | hmem
  · cases hspace
  · simpa using List.mem_takeWhile_imp hmem

/-- The number in a value. -/
def intValue (str : List Char) : Int :=
  if 3 ≤ str.length ∧ str[0]? = some '0' ∧ str[1]?.map Char.toLower = some 'x' then
    strtol (str.drop 2) 16
  else atoi str

theorem configValue_configLine (ops : DoubleOps F) (hname : '=' ∉ name) (text : List Char) :
    ∃ value, configValue ops (configLine name text) = some value ∧
      value.param_name = locUtilTrimSpace (name ++ [' ']) ∧
      value.param_str_value = strValue text ∧
      value.param_int_value = intValue value.param_str_value := by
  obtain ⟨rest, htokens⟩ := tokens_configLine hname text
  rw [configValue, htokens]
  dsimp only
  split
  case isTrue hhex => exact ⟨_, rfl, rfl, rfl, (if_pos hhex).symm⟩
  case isFalse hdec => exact ⟨_, rfl, rfl, rfl, (if_neg hdec).symm⟩

end Lines

/-- A value as it is written. -/
inductive Written where
  | hex (upper : Bool) (v : UInt32)
  | decimal (v : Int32)
  | string (s : List Char)

namespace Written

def text : Written → List Char
  | hex upper v => '0' :: 'x' :: numeral 16 (if upper then Char.toUpper else id) v.toNat
  | decimal v => (if v.toInt < 0 then ['-'] else []) ++ numeral 10 id v.toInt.natAbs
  | string s => s

/-- What an entry is to hold, where the `int` has the bits of a hex number. -/
def param {F : Type*} : Written → Param F
  | hex _ v => .number ((v.toNat : Int).bmod (2 ^ 32))
  | decimal v => .number v.toInt
  | string s => .string s

/-- The strings that a line may have for a value. -/
def Storable : Written → Prop
  | string s => s ≠ [] ∧ s.length ≤ LOC_MAX_PARAM_STRING ∧ Trimmed s ∧ s ≠ "NULL".toList
  | _ => True

/-- What the code stores as it is written: no hex number with the top bit, no string with
another `=`. -/
def Kept : Written → Prop
  | hex _ v => v.toNat < 2 ^ 31
  | decimal _ => True
  | string s => '=' ∉ s

end Written

/-- An entry that a line can fill, with a pointer and one of the three types. -/
def Fillable {F : Type*} (entry : ParamEntry F) : Prop :=
  entry.param_ptr.map Param.type ≠ none ∧ entry.param_ptr.map Param.type ≠ some .other

/-- Whatever the entries held before, the line stores its value in each entry with the name
and of the type, and the entries with the name are counted. -/
def RoundTrips {F : Type*} (ops : DoubleOps F) (table : List (ParamEntry F)) (name : List Char)
    (written : Written) : Prop :=
  ∀ table' : List (ParamEntry F), table'.map shape = table.map shape →
    (locFillConfItem ops (configLine name written.text) table').2 =
        table'.countP (fun entry => entry.param_name = name) ∧
      List.Forall₂ (fun before after => before.param_name = name →
          before.param_ptr.map Param.type = some (written.param : Param F).type →
          after.param_ptr = some written.param)
        table' (locFillConfItem ops (configLine name written.text) table').1

/-- The name and the type of an entry are in its shape. -/
theorem name_type_of_shape {F : Type*} {before entry : ParamEntry F}
    (h : shape before = shape entry) : before.param_name = entry.param_name ∧
      before.param_ptr.map Param.type = entry.param_ptr.map Param.type := by
  rw [shape, shape, Prod.mk.injEq, Prod.mk.injEq] at h
  exact ⟨h.1, h.2.1⟩

section Values

variable {F : Type*} {ops : DoubleOps F} {table : List (ParamEntry F)} {entry : ParamEntry F}
  {name : List Char} {written : Written}

theorem plain_decimal {v : Int32} {c : Char} (hc : c ∈ (Written.decimal v).text) :
    isspace c = false ∧ c.toLower ≠ 'x' ∧ c ≠ '=' := by
  rcases List.mem_append.mp hc with hc | hc
  · split at hc
    · rw [List.mem_singleton.mp hc]
      decide
    · cases hc
  · obtain ⟨d, hd, rfl⟩ := mem_numeral glyphs_decimal hc
    obtain ⟨hspace, -, -, hlower, hequals⟩ := glyphs_decimal.plain d hd
    exact ⟨hspace, hlower, hequals⟩

/-- The characters of a number have no other meaning. -/
theorem plain_text {c : Char} (hc : c ∈ written.text) (h : ∀ s, written ≠ .string s) :
    isspace c = false ∧ c ≠ '=' := by
  cases written with
  | hex upper v =>
      rcases List.mem_cons.mp hc with rfl | hc
      · decide
      · rcases List.mem_cons.mp hc with rfl | hc
        · decide
        · obtain ⟨d, hd, rfl⟩ := mem_numeral (glyphs_hex upper) hc
          obtain ⟨hspace, -, -, -, hequals⟩ := (glyphs_hex upper).plain d hd
          exact ⟨hspace, hequals⟩
  | decimal v =>
      obtain ⟨hspace, -, hequals⟩ := plain_decimal hc
      exact ⟨hspace, hequals⟩
  | string s => exact absurd rfl (h s)

/-- A number arrives as it is written. -/
theorem strValue_number (hne : written.text ≠ []) (h : ∀ s, written ≠ .string s) :
    strValue written.text = written.text := by
  apply strValue_eq _ _ hne
  · intro hmem
    exact (plain_text hmem h).2 rfl
  · constructor
    · exact fun c hc => (plain_text (List.mem_of_mem_head? hc) h).1
    · exact fun c hc => (plain_text (List.mem_of_mem_getLast? hc) h).1

theorem intValue_hex (upper : Bool) (v : UInt32) :
    intValue (strValue (Written.hex upper v).text) = min (v.toNat : Int) (2 ^ 31 - 1) := by
  have hne : (Written.hex upper v).text ≠ [] := List.cons_ne_nil _ _
  have hlength := List.length_pos_iff.mpr
    (numeral_ne_nil 16 (if upper then Char.toUpper else id) v.toNat)
  have hhex : 3 ≤ (Written.hex upper v).text.length ∧
      (Written.hex upper v).text[0]? = some '0' ∧
      (Written.hex upper v).text[1]?.map Char.toLower = some 'x' := by
    refine ⟨?_, rfl, rfl⟩
    rw [Written.text, List.length_cons, List.length_cons]
    omega
  rw [strValue_number hne (by simp), intValue, if_pos hhex]
  apply (strtol_numeral (glyphs_hex upper) v.toNat).1.trans
  omega

theorem intValue_decimal (v : Int32) :
    intValue (strValue (Written.decimal v).text) = v.toInt := by
  have hlow := Int32.le_toInt v
  have hhigh := Int32.toInt_lt v
  have hne : (Written.decimal v).text ≠ [] :=
    List.append_ne_nil_of_right_ne_nil _ (numeral_ne_nil 10 id v.toInt.natAbs)
  have hdec : ¬(3 ≤ (Written.decimal v).text.length ∧ (Written.decimal v).text[0]? = some '0' ∧
      (Written.decimal v).text[1]?.map Char.toLower = some 'x') := by
    rintro ⟨-, -, hx⟩
    obtain ⟨c, hc, hlower⟩ := Option.map_eq_some_iff.mp hx
    exact (plain_decimal (List.mem_of_getElem? hc)).2.1 hlower
  obtain ⟨hpos, hneg⟩ := strtol_numeral glyphs_decimal v.toInt.natAbs
  rw [strValue_number hne (by simp), intValue, if_neg hdec, atoi, Written.text]
  split
  · apply hneg.trans
    omega
  · apply hpos.trans
    omega

theorem Written.exists_differs (written : Written) (F : Type*) :
    ∃ param : Param F, param.type = (written.param : Param F).type ∧ param ≠ written.param := by
  generalize hparam : (written.param : Param F) = param
  cases param with
  | string s => exact ⟨.string ('x' :: s), rfl, by simp⟩
  | number k =>
      refine ⟨.number (k + 1), rfl, ?_⟩
      rw [ne_eq, Param.number.injEq]
      omega
  | float k => cases written <;> cases hparam
  | other => cases written <;> cases hparam

/-- What a line makes of a value of its type. -/
def stored (text : List Char) : Param F → Param F
  | .string _ =>
      .string (if strValue text = "NULL".toList then []
        else (strValue text).take LOC_MAX_PARAM_STRING)
  | .number _ => .number (intValue (strValue text))
  | param => param

theorem stored_string_iff {s : List Char} (hne : s ≠ []) (hlength : s.length ≤ LOC_MAX_PARAM_STRING)
    (htrimmed : Trimmed s) (hnull : s ≠ "NULL".toList) :
    (if strValue s = "NULL".toList then [] else (strValue s).take LOC_MAX_PARAM_STRING) = s ↔
      '=' ∉ s := by
  constructor
  · intro heq hmem
    rw [← heq] at hmem
    split at hmem
    · cases hmem
    · exact notMem_strValue s (List.mem_of_mem_take hmem)
  · intro hequals
    rw [strValue_eq hequals htrimmed hne, if_neg hnull, List.take_of_length_le hlength]

/-- The value is kept, whatever value of its type was there. -/
theorem stored_eq_iff (hstorable : written.Storable) {param : Param F}
    (htype : param.type = (written.param : Param F).type) :
    stored written.text param = written.param ↔ written.Kept := by
  cases written with
  | hex upper v =>
      cases param with
      | number k =>
          have hlt := v.toNat_lt
          change Param.number _ = Param.number _ ↔ v.toNat < 2 ^ 31
          rw [Param.number.injEq, intValue_hex, Int.bmod_def]
          split <;> omega
      | _ => cases htype
  | decimal v =>
      cases param with
      | number k => exact iff_of_true (congrArg Param.number (intValue_decimal v)) trivial
      | _ => cases htype
  | string s =>
      obtain ⟨hne, hlength, htrimmed, hnull⟩ := hstorable
      cases param with
      | string k =>
          simp only [stored, Written.text, Written.param, Written.Kept, Param.string.injEq]
          exact stored_string_iff hne hlength htrimmed hnull
      | _ => cases htype

section Names

variable (hname : '=' ∉ name) (htrimmed : Trimmed name)

include hname htrimmed

/-- A line with a name fills the entries that can be filled and have it. -/
theorem isSome_sets_iff (hne : name ≠ []) {text : List Char} :
    (sets ops (configLine name text) entry).isSome ↔ entry.param_name = name ∧ Fillable entry := by
  obtain ⟨value, hvalue, hparam, -⟩ := configValue_configLine ops hname text
  have hpadded := locUtilTrimSpace_name htrimmed hne
  rw [sets, hvalue, Option.bind_some, locSetConfigEntry, hparam, hpadded, Fillable]
  split
  case isTrue heq =>
    split <;> rename_i hptr <;> simp [heq, hptr, Param.type]
  case isFalse hother => simp [hother]

/-- The value that a line leaves in an entry with the name. -/
theorem param_ptr_put (hne : name ≠ []) (hentry : entry.param_name = name) {param : Param F}
    (hptr : entry.param_ptr = some param) (htype : param.type = (written.param : Param F).type) :
    (put (sets ops) entry (configLine name written.text)).param_ptr =
      some (stored written.text param) := by
  obtain ⟨value, hvalue, hparam, hstr, hint⟩ :=
    configValue_configLine ops hname written.text
  have hpadded := locUtilTrimSpace_name htrimmed hne
  have heq : entry.param_name = value.param_name := by rw [hentry, hparam, hpadded]
  rw [put, sets, hvalue, Option.bind_some, locSetConfigEntry, if_pos heq, hptr]
  cases param with
  | string k => simp [stored, hstr]
  | number k => simp [stored, hint, hstr]
  | float k => cases written <;> cases htype
  | other => cases written <;> cases htype

omit htrimmed in
/-- An entry without a name is not found under it. -/
theorem put_nameless (hnameless : name = []) (hentry : entry.param_name = name)
    (text : List Char) : put (sets ops) entry (configLine name text) = entry := by
  obtain ⟨value, hvalue, hparam, -⟩ := configValue_configLine ops hname text
  have hother : entry.param_name ≠ value.param_name := by
    rw [hentry, hparam, hnameless]
    decide
  rw [put, sets, hvalue, Option.bind_some, locSetConfigEntry, if_neg hother]
  rfl

/-- One entry, whatever it held before. -/
theorem stored_iff (hstorable : written.Storable) (hentry : entry.param_name = name)
    (htype : entry.param_ptr.map Param.type = some (written.param : Param F).type) :
    (∀ before, shape before = shape entry →
      (put (sets ops) before (configLine name written.text)).param_ptr = some written.param) ↔
      name ≠ [] ∧ written.Kept := by
  constructor
  · intro h
    have hnamed : name ≠ [] := by
      intro hnameless
      obtain ⟨param, hsame, hdiffers⟩ := written.exists_differs F
      have hbefore := h { entry with param_ptr := some param } (by simp [shape, htype, hsame])
      rw [put_nameless hname hnameless (by exact hentry)] at hbefore
      exact hdiffers (Option.some.inj hbefore)
    obtain ⟨param, hptr, hparam⟩ := Option.map_eq_some_iff.mp htype
    have hput := h entry rfl
    rw [param_ptr_put hname htrimmed hnamed hentry hptr hparam] at hput
    exact ⟨hnamed, (stored_eq_iff hstorable hparam).mp (Option.some.inj hput)⟩
  · rintro ⟨hnamed, hkept⟩ before hshape
    obtain ⟨hbefore, htypes⟩ := name_type_of_shape hshape
    obtain ⟨param, hptr, hparam⟩ := Option.map_eq_some_iff.mp (htypes.trans htype)
    rw [param_ptr_put hname htrimmed hnamed (hbefore.trans hentry) hptr hparam,
      (stored_eq_iff hstorable hparam).mpr hkept]

theorem filled_iff (hne : name ≠ []) (text : List Char) :
    (locFillConfItem ops (configLine name text) table).2 =
        table.countP (fun entry => entry.param_name = name) ↔
      ∀ entry ∈ table, entry.param_name = name → Fillable entry := by
  have hsub : table.countP (fun entry => (sets ops (configLine name text) entry).isSome) =
      (table.filter (fun entry => entry.param_name = name)).countP
        (fun entry => (sets ops (configLine name text) entry).isSome) := by
    rw [List.countP_filter]
    apply List.countP_congr
    intro entry _
    rw [Bool.and_eq_true, decide_eq_true_eq]
    exact (and_iff_left_of_imp fun h => ((isSome_sets_iff hname htrimmed hne).mp h).1).symm
  rw [locFillConfItem_eq, hsub, List.countP_eq_length_filter (l := table), List.countP_eq_length]
  simp only [List.mem_filter, decide_eq_true_eq, and_imp]
  constructor
  · intro h entry hmem hentry
    exact ((isSome_sets_iff hname htrimmed hne).mp (h entry hmem hentry)).2
  · intro h entry hmem hentry
    exact (isSome_sets_iff hname htrimmed hne).mpr ⟨hentry, h entry hmem hentry⟩

end Names

end Values

/-- A value makes the round trip where it is kept as it is written, under a name that is found,
and all that have the name are counted where they can be filled. -/
theorem round_trips_iff {F : Type*} (ops : DoubleOps F) (table : List (ParamEntry F))
    (name : List Char) (written : Written) (hname : '=' ∉ name) (htrimmed : Trimmed name)
    (hstorable : written.Storable)
    (hentry : ∃ entry ∈ table, entry.param_name = name ∧
      entry.param_ptr.map Param.type = some (written.param : Param F).type) :
    RoundTrips ops table name written ↔
      written.Kept ∧ name ≠ [] ∧
        ∀ entry ∈ table, entry.param_name = name → Fillable entry := by
  obtain ⟨entry, hmem, hentryName, htype⟩ := hentry
  have hall (table' : List (ParamEntry F)) :
      List.Forall₂ (fun before after => before.param_name = name →
          before.param_ptr.map Param.type = some (written.param : Param F).type →
          after.param_ptr = some written.param)
        table' (locFillConfItem ops (configLine name written.text) table').1 ↔
      ∀ entry ∈ table', entry.param_name = name →
        entry.param_ptr.map Param.type = some (written.param : Param F).type →
        (put (sets ops) entry (configLine name written.text)).param_ptr = some written.param := by
    rw [locFillConfItem_eq, List.forall₂_map_right_iff, List.forall₂_same]
  simp only [RoundTrips, hall]
  constructor
  · intro h
    obtain ⟨hnamed, hkept⟩ := (stored_iff hname htrimmed hstorable hentryName htype).mp
      (by
        intro before hshape
        obtain ⟨hbeforeName, hbeforeType⟩ := name_type_of_shape hshape
        exact forall_table_iff.mp (fun table' htable' => (h table' htable').2) entry hmem before
          hshape (hbeforeName.trans hentryName) (hbeforeType.trans htype))
    exact ⟨hkept, hnamed, (filled_iff hname htrimmed hnamed written.text).mp (h table rfl).1⟩
  · rintro ⟨hkept, hnamed, hfillable⟩ table' htable'
    constructor
    · apply (filled_iff hname htrimmed hnamed written.text).mpr
      exact forall_table_iff.mpr (fun entry hmem before hshape hbefore => by
        obtain ⟨hbeforeName, hbeforeType⟩ := name_type_of_shape hshape
        rw [Fillable, hbeforeType]
        exact hfillable entry hmem (hbeforeName.symm.trans hbefore)) table' htable'
    · intro entry hmem hentryName htype
      exact (stored_iff hname htrimmed hstorable hentryName htype).mpr ⟨hnamed, hkept⟩ entry rfl

theorem type_mask (upper : Bool) (v : UInt32) :
    (numberEntry "MASK" 5).param_ptr.map Param.type =
      some ((Written.hex upper v).param : Param Int).type :=
  (rfl : _ = some ParamType.number).trans rfl

/-- A mask and the address of a server. -/
def maskAndServer : List (ParamEntry Int) :=
  [numberEntry "MASK" 5, ⟨"SERVER".toList, some (.string []), none⟩]

theorem round_trips_iff_mask :
    RoundTrips wholeOps maskAndServer "MASK".toList (.hex true 0x7FFFFFFF) := by
  have htrimmed : Trimmed "MASK".toList := by
    constructor <;> rintro c ⟨⟩ <;> rfl
  apply (round_trips_iff wholeOps maskAndServer "MASK".toList (.hex true 0x7FFFFFFF) (by decide)
    htrimmed trivial ⟨numberEntry "MASK" 5, by decide, rfl, type_mask true 0x7FFFFFFF⟩).mpr
  have hkept : (0x7FFFFFFF : UInt32).toNat < 2 ^ 31 := by decide +kernel
  refine ⟨hkept, by decide, ?_⟩
  intro entry hmem _
  rcases List.mem_cons.mp hmem with rfl | hmem
  · constructor <;> decide
  · obtain rfl := List.mem_singleton.mp hmem
    constructor <;> decide

/-- The top bit saturates the mask, and the second `=` cuts the address. -/
theorem values_not_kept :
    ¬ RoundTrips wholeOps maskAndServer "MASK".toList (.hex true 0x80000000) ∧
      ¬ RoundTrips wholeOps maskAndServer "SERVER".toList (.string "host?id=1".toList) := by
  have hmask : (locFillConfItem wholeOps
      (configLine "MASK".toList (Written.hex true 0x80000000).text) maskAndServer).1 =
        [numberEntry "MASK" 0x7FFFFFFF, ⟨"SERVER".toList, some (.string []), none⟩] := by
    decide +kernel
  have hserver : (locFillConfItem wholeOps
      (configLine "SERVER".toList "host?id=1".toList) maskAndServer).1 =
        [numberEntry "MASK" 5, ⟨"SERVER".toList, some (.string "host?id".toList), none⟩] := by
    decide +kernel
  constructor
  · intro h
    have hstored := (h maskAndServer rfl).2
    rw [hmask] at hstored
    cases hstored with
    | cons hfirst _ => exact absurd (hfirst rfl (type_mask true 0x80000000)) (by decide +kernel)
  · intro h
    have hstored := (h maskAndServer rfl).2
    rw [Written.text, hserver] at hstored
    cases hstored with
    | cons _ hrest =>
        cases hrest with
        | cons hsecond _ => exact absurd (hsecond rfl rfl) (by decide)

end G2Common.Utils
