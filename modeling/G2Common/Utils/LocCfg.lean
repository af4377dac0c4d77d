import G2Common.Settings
import Mathlib.Algebra.Group.Int.Defs
import Mathlib.Algebra.Group.Nat.Defs
import Mathlib.Data.Int.Basic
import Mathlib.Data.List.DropRight
import Mathlib.Logic.Nontrivial.Basic

/-!
The configuration items of `loc_cfg.cpp`: how one line sets the entries of a table. A C
string is the list of its characters, without the terminator. An entry stands together
with what its pointers refer to, and no two entries share it.
-/

namespace G2Common.Utils

open Settings

/-- What the code does with a `double`: it is cleared and converted from a string. -/
structure DoubleOps (F : Type*) where
  zero : F
  atof : List Char → F

def isspace (c : Char) : Bool := c = ' ' || ('\t' ≤ c && c ≤ '\r')

/-- `loc_util_trim_space`. A string of spaces stays as it is. -/
def locUtilTrimSpace (s : List Char) : List Char :=
  if s.all isspace then s else (s.dropWhile isspace).rdropWhile isspace

/-- The tokens that `strtok_r` finds one after another. -/
def tokens (delim : Char) (s : List Char) : List (List Char) :=
  (s.splitOn delim).filter (· ≠ [])

/-- The value of a digit, if the base has it. -/
def digit (base : Nat) (c : Char) : Option Nat :=
  let value :=
    if '0' ≤ c ∧ c ≤ '9' then c.toNat - '0'.toNat
    else if 'a' ≤ c.toLower ∧ c.toLower ≤ 'z' then c.toLower.toNat - 'a'.toNat + 10
    else base
  if value < base then some value else none

/-- The digits at the start of a string. -/
def digits (base : Nat) : List Char → List Nat
  | [] => []
  | c :: s =>
      match digit base c with
      | some d => d :: digits base s
      | none => []

/-- The string after an optional `0x`, which a digit has to follow. -/
def afterHex (base : Nat) : List Char → List Char
  | '0' :: x :: c :: s =>
      if base = 16 ∧ x.toLower = 'x' ∧ digit 16 c ≠ none then c :: s else '0' :: x :: c :: s
  | s => s

def sign : List Char → Int × List Char
  | '-' :: s => (-1, s)
  | '+' :: s => (1, s)
  | s => (1, s)

/-- `strtol`, with a `long` of 32 bits. -/
def strtol (s : List Char) (base : Nat) : Int :=
  let (sgn, rest) := sign (s.dropWhile isspace)
  let n := (digits base (afterHex base rest)).foldl (fun n d => n * base + d) 0
  max (-2 ^ 31) (min (sgn * n) (2 ^ 31 - 1))

def atoi (s : List Char) : Int := strtol s 10

/-- What `param_ptr` points to, by `param_type`. -/
inductive Param (F : Type*) where
  | string (value : List Char)
  | number (value : Int)
  | float (value : F)
  | other
  deriving DecidableEq, Repr

/-- `loc_param_s_type`, with `none` for a pointer that is `NULL`. -/
structure ParamEntry (F : Type*) where
  param_name : List Char
  param_ptr : Option (Param F)
  param_set : Option Bool
  deriving DecidableEq, Repr

/-- `loc_param_v_type`. -/
structure ParamValue (F : Type*) where
  param_name : List Char
  param_str_value : List Char
  param_int_value : Int
  param_double_value : F
  deriving DecidableEq, Repr

def LOC_MAX_PARAM_STRING : Nat := 80

variable {F : Type*}

/-- `loc_set_config_entry`, with no result where it returns -1. -/
def locSetConfigEntry (config_entry : ParamEntry F) (config_value : ParamValue F) :
    Option (ParamEntry F) :=
  if config_entry.param_name = config_value.param_name then
    match config_entry.param_ptr with
    | some (.string _) =>
        let value :=
          if config_value.param_str_value = "NULL".toList then []
          else config_value.param_str_value.take LOC_MAX_PARAM_STRING
        some { config_entry with
          param_ptr := some (.string value)
          param_set := config_entry.param_set.map (fun _ => true) }
    | some (.number _) =>
        some { config_entry with
          param_ptr := some (.number config_value.param_int_value)
          param_set := config_entry.param_set.map (fun _ => true) }
    | some (.float _) =>
        some { config_entry with
          param_ptr := some (.float config_value.param_double_value)
          param_set := config_entry.param_set.map (fun _ => true) }
    | some .other | none => none
  else none

/-- What `loc_fill_conf_item` reads from its line. -/
def configValue (ops : DoubleOps F) (input_buf : List Char) : Option (ParamValue F) :=
  match tokens '=' input_buf with
  | name :: value :: _ =>
      let param_name := locUtilTrimSpace name
      let str := locUtilTrimSpace value
      if 3 ≤ str.length ∧ str[0]? = some '0' ∧ str[1]?.map Char.toLower = some 'x' then
        some ⟨param_name, str, strtol (str.drop 2) 16, ops.zero⟩
      else some ⟨param_name, str, atoi str, ops.atof str⟩
  | _ => none

/-- `loc_fill_conf_item`: the table and the number of its entries that were filled. -/
def locFillConfItem (ops : DoubleOps F) (input_buf : List Char)
    (config_table : List (ParamEntry F)) : List (ParamEntry F) × Nat :=
  match configValue ops input_buf with
  | none => (config_table, 0)
  | some config_value =>
      (config_table.map (fun entry => (locSetConfigEntry entry config_value).getD entry),
        config_table.countP (fun entry => (locSetConfigEntry entry config_value).isSome))

/-- The loop of `loc_update_conf` and `loc_read_conf_r` over the pieces of their input: the
table and the number of the pieces that were taken. -/
def fillLoop (ops : DoubleOps F) : List (List Char) → UInt32 → List (ParamEntry F) →
    List (ParamEntry F) × Nat
  | [], _, config_table => (config_table, 0)
  | input_buf :: rest, num_params, config_table =>
      if num_params = 0 then (config_table, 0)
      else
        let (config_table, filled) := locFillConfItem ops input_buf config_table
        let (config_table, taken) :=
          fillLoop ops rest (num_params - UInt32.ofNat filled) config_table
        (config_table, taken + 1)

/-- The entry that the line names, after the line. -/
def sets (ops : DoubleOps F) (line : List Char) (entry : ParamEntry F) : Option (ParamEntry F) :=
  (configValue ops line).bind (locSetConfigEntry entry)

/-- Whether the line names an entry of the table. -/
def names (ops : DoubleOps F) (table : List (ParamEntry F)) (line : List Char) : Bool :=
  table.any (fun entry => (sets ops line entry).isSome)

inductive ParamType where
  | string
  | number
  | float
  | other
  deriving DecidableEq, Repr

def Param.type : Param F → ParamType
  | .string _ => .string
  | .number _ => .number
  | .float _ => .float
  | .other => .other

/-- The entry without the values it points to. -/
def shape (entry : ParamEntry F) : List Char × Option ParamType × Bool :=
  (entry.param_name, entry.param_ptr.map Param.type, entry.param_set.isSome)

variable {ops : DoubleOps F} {table : List (ParamEntry F)} {line : List Char}
  {entry entry' : ParamEntry F}

theorem locFillConfItem_eq (ops : DoubleOps F) (line : List Char) (table : List (ParamEntry F)) :
    locFillConfItem ops line table =
      (table.map (fun entry => put (sets ops) entry line),
        table.countP (fun entry => (sets ops line entry).isSome)) := by
  unfold locFillConfItem put sets
  cases configValue ops line with
  | none => simp
  | some config_value => rfl

theorem shape_locSetConfigEntry {value : ParamValue F}
    (h : locSetConfigEntry entry value = some entry') : shape entry' = shape entry := by
  unfold locSetConfigEntry at h
  split at h
  · split at h
    all_goals
      rename_i hptr
      cases h
      try simp [shape, hptr, Param.type]
  · cases h

/-- Only the shape of an entry decides what a line makes of it. -/
theorem locSetConfigEntry_congr (h : shape entry = shape entry') (value : ParamValue F) :
    locSetConfigEntry entry value = locSetConfigEntry entry' value := by
  obtain ⟨name, ptr, set⟩ := entry
  obtain ⟨name', ptr', set'⟩ := entry'
  simp only [shape, Prod.mk.injEq] at h
  obtain ⟨rfl, hptr, hset⟩ := h
  have hmap : set.map (fun _ => true) = set'.map (fun _ => true) := by
    cases set <;> cases set' <;> simp at hset ⊢
  unfold locSetConfigEntry
  simp only [hmap]
  split
  · match ptr, ptr' with
    | none, none => rfl
    | none, some p => cases p <;> simp at hptr
    | some p, none => cases p <;> simp at hptr
    | some p, some p' => cases p <;> cases p' <;> simp [Param.type] at hptr ⊢
  · rfl

theorem sets_congr (h : shape entry = shape entry') (line : List Char) :
    sets ops line entry = sets ops line entry' := by
  unfold sets
  cases configValue ops line with
  | none => rfl
  | some value => exact locSetConfigEntry_congr h value

theorem sets_eq_some : sets ops line entry = some entry' ↔
    ∃ value, configValue ops line = some value ∧ locSetConfigEntry entry value = some entry' :=
  Option.bind_eq_some_iff

theorem shape_sets (h : sets ops line entry = some entry') : shape entry' = shape entry := by
  obtain ⟨value, -, hentry⟩ := sets_eq_some.mp h
  exact shape_locSetConfigEntry hentry

theorem last_sets_congr (h : shape entry = shape entry') (lines : List (List Char)) :
    last (sets ops) lines entry = last (sets ops) lines entry' := by
  unfold last
  simp only [sets_congr h]

theorem touches_congr (h : shape entry = shape entry') (lines : List (List Char)) :
    touches (sets ops) lines entry = touches (sets ops) lines entry' := by
  unfold touches
  simp only [sets_congr h]

theorem sets_overwrites (ops : DoubleOps F) : Overwrites (sets ops) :=
  fun _ y _ _ h => sets_congr (shape_sets h) y

theorem shape_put (ops : DoubleOps F) (entry : ParamEntry F) (line : List Char) :
    shape (put (sets ops) entry line) = shape entry := by
  unfold put
  cases hset : sets ops line entry with
  | none => rfl
  | some entry' => exact shape_sets hset

theorem param_sets (h : sets ops line entry = some entry') :
    ∃ param, entry'.param_ptr = some param ∧ param ≠ .other := by
  obtain ⟨value, -, hentry⟩ := sets_eq_some.mp h
  rw [locSetConfigEntry] at hentry
  split at hentry
  · split at hentry
    all_goals cases hentry
    all_goals exact ⟨_, rfl, by simp⟩
  · cases hentry

/-- A line changes nothing of an entry but its value and that it is set. -/
theorem sets_eq (h : sets ops line entry = some entry') :
    entry' = { entry with
      param_ptr := entry'.param_ptr
      param_set := entry.param_set.map (fun _ => true) } := by
  obtain ⟨value, -, hentry⟩ := sets_eq_some.mp h
  rw [locSetConfigEntry] at hentry
  split at hentry
  · split at hentry
    all_goals cases hentry
    all_goals rfl
  · cases hentry

theorem Param.exists_differs [Nontrivial F] {param : Param F} (h : param ≠ .other) :
    ∃ param' : Param F, param'.type = param.type ∧ param' ≠ param := by
  cases param with
  | string value => exact ⟨.string ('x' :: value), rfl, by simp⟩
  | number value =>
      refine ⟨.number (value + 1), rfl, ?_⟩
      rw [ne_eq, Param.number.injEq]
      omega
  | float value =>
      obtain ⟨value', hne⟩ := exists_ne value
      exact ⟨.float value', rfl, by simpa using hne⟩
  | other => exact absurd rfl h

/-- What lines set can have been something else before. -/
theorem exists_differs [Nontrivial F] {lines : List (List Char)}
    (h : last (sets ops) lines entry = some entry') :
    ∃ before : ParamEntry F, shape before = shape entry ∧
      before.param_ptr ≠ entry'.param_ptr := by
  obtain ⟨line, _, hset⟩ := List.exists_of_findSome?_eq_some h
  obtain ⟨param, hparam, hne⟩ := param_sets hset
  obtain ⟨param', htype, hdiffers⟩ := Param.exists_differs hne
  refine ⟨{ entry' with param_ptr := some param' }, ?_, ?_⟩
  · rw [← shape_sets hset]
    simp [shape, hparam, htype]
  · rw [hparam]
    simpa using hdiffers

/-- Two lists of lines leave every entry of a shape with the same value, whatever it was
before, exactly if their last lines that name it set the same value. -/
theorem same_value_iff [Nontrivial F] {lines lines' : List (List Char)} :
    (∀ before, shape before = shape entry →
      ((last (sets ops) lines before).getD before).param_ptr =
        ((last (sets ops) lines' before).getD before).param_ptr) ↔
      last (sets ops) lines entry = last (sets ops) lines' entry := by
  constructor
  · intro hall
    cases h : last (sets ops) lines entry with
    | none =>
        cases h' : last (sets ops) lines' entry with
        | none => rfl
        | some entry' =>
            obtain ⟨before, hshape, hdiffers⟩ := exists_differs h'
            have hsame := hall before hshape
            rw [last_sets_congr hshape, last_sets_congr hshape, h, h'] at hsame
            exact absurd hsame hdiffers
    | some entry' =>
        cases h' : last (sets ops) lines' entry with
        | none =>
            obtain ⟨before, hshape, hdiffers⟩ := exists_differs h
            have hsame := hall before hshape
            rw [last_sets_congr hshape, last_sets_congr hshape, h, h'] at hsame
            exact absurd hsame.symm hdiffers
        | some entry'' =>
            have hsame := hall entry rfl
            rw [h, h'] at hsame
            obtain ⟨line, _, hset⟩ := List.exists_of_findSome?_eq_some h
            obtain ⟨line', _, hset'⟩ := List.exists_of_findSome?_eq_some h'
            rw [sets_eq hset, sets_eq hset', show entry'.param_ptr = entry''.param_ptr from hsame]
  · intro hsame before hshape
    rw [last_sets_congr hshape, last_sets_congr hshape, hsame]

/-- A line sets an entry only under its own name. -/
theorem name_of_sets (h : sets ops line entry ≠ none) :
    (configValue ops line).map ParamValue.param_name = some entry.param_name := by
  obtain ⟨entry', hset⟩ := Option.ne_none_iff_exists'.mp h
  obtain ⟨value, hvalue, hentry⟩ := sets_eq_some.mp hset
  rw [locSetConfigEntry] at hentry
  split at hentry
  case isTrue hname => rw [hvalue, Option.map_some, hname]
  case isFalse => cases hentry

/-- In a table with distinct names, a line sets one entry at most. -/
theorem sets_single (ops : DoubleOps F) (h : (table.map ParamEntry.param_name).Nodup) :
    Single (sets ops) table := by
  intro line
  induction table with
  | nil => exact Nat.zero_le 1
  | cons entry rest ih =>
      rw [List.map_cons, List.nodup_cons] at h
      obtain ⟨hnew, hrest⟩ := h
      rw [List.countP_cons]
      split
      · rename_i hset
        have hname := name_of_sets (Option.isSome_iff_ne_none.mp hset)
        have hnone : rest.countP (fun entry => (sets ops line entry).isSome) = 0 := by
          rw [List.countP_eq_zero]
          intro other hother hset'
          have hname' := name_of_sets (Option.isSome_iff_ne_none.mp hset')
          rw [hname, Option.some.injEq] at hname'
          rw [hname'] at hnew
          exact hnew (List.mem_map_of_mem hother)
        omega
      · exact ih hrest

/-- What depends only on the shapes of the entries is the same in a table of the same
shapes. -/
theorem map_congr_shape {β : Type*} {f : ParamEntry F → β} {table' : List (ParamEntry F)}
    (hf : ∀ entry entry', shape entry = shape entry' → f entry = f entry')
    (h : table.map shape = table'.map shape) : table.map f = table'.map f := by
  induction table generalizing table' with
  | nil =>
      cases table' with
      | nil => rfl
      | cons entry' rest' => cases h
  | cons entry rest ih =>
      cases table' with
      | nil => cases h
      | cons entry' rest' =>
          rw [List.map_cons, List.map_cons, List.cons.injEq] at h
          rw [List.map_cons, List.map_cons, hf entry entry' h.1, ih h.2]

/-- What holds of all entries in all tables of the same shapes. -/
theorem forall_table_iff {P : ParamEntry F → Prop} :
    (∀ table' : List (ParamEntry F), table'.map shape = table.map shape →
      ∀ entry ∈ table', P entry) ↔
      ∀ entry ∈ table, ∀ before, shape before = shape entry → P before := by
  constructor
  · intro hall entry hentry before hshape
    obtain ⟨init, rest, rfl⟩ := List.append_of_mem hentry
    apply hall (init ++ before :: rest) _ before
    · exact List.mem_append_right init List.mem_cons_self
    · rw [List.map_append, List.map_append, List.map_cons, List.map_cons, hshape]
  · intro hall table' hshapes entry hentry
    have hshape : shape entry ∈ table.map shape := by
      rw [← hshapes]
      exact List.mem_map_of_mem hentry
    obtain ⟨other, hother, heq⟩ := List.mem_map.mp hshape
    exact hall other hother entry heq.symm

theorem countP_congr_shape {p : ParamEntry F → Bool} {table' : List (ParamEntry F)}
    (hp : ∀ entry entry', shape entry = shape entry' → p entry = p entry')
    (h : table.map shape = table'.map shape) : table.countP p = table'.countP p := by
  have hmap := congrArg (List.countP id) (map_congr_shape hp h)
  simpa [List.countP_map] using hmap

theorem single_congr {table' : List (ParamEntry F)} (h : table.map shape = table'.map shape)
    (hsingle : Single (sets ops) table) : Single (sets ops) table' := by
  intro line
  rw [← countP_congr_shape (fun _ _ heq => by rw [sets_congr heq]) h]
  exact hsingle line

theorem sets_of_not_names (hline : names ops table line = false) (hentry : entry ∈ table) :
    sets ops line entry = none := by
  have hall := List.any_eq_false.mp hline entry hentry
  simpa using hall

theorem names_congr {table' : List (ParamEntry F)} (h : table.map shape = table'.map shape) :
    names ops table = names ops table' := by
  funext line
  have hmap := congrArg (List.any · id)
    (map_congr_shape (f := fun entry => (sets ops line entry).isSome)
      (fun _ _ heq => by rw [sets_congr heq]) h)
  simpa [names, List.any_map] using hmap

theorem map_shape_put (ops : DoubleOps F) (table : List (ParamEntry F)) (line : List Char) :
    (table.map (fun entry => put (sets ops) entry line)).map shape = table.map shape := by
  rw [List.map_map]
  exact List.map_congr_left (fun entry _ => shape_put ops entry line)

/-- A line takes one from the number of parameters if it names one. -/
theorem sub_filled (hsingle : Single (sets ops) table) {n : Nat} (line : List Char) :
    UInt32.ofNat (n + 1) -
        UInt32.ofNat (table.countP (fun entry => (sets ops line entry).isSome)) =
      UInt32.ofNat (if names ops table line then n else n + 1) := by
  have hle := hsingle line
  split
  · rename_i hnames
    have hpos : 0 < table.countP (fun entry => (sets ops line entry).isSome) := by
      rw [List.countP_pos_iff]
      simpa [names] using hnames
    have hone : table.countP (fun entry => (sets ops line entry).isSome) = 1 := by omega
    rw [hone, UInt32.ofNat_add]
    exact UInt32.add_sub_cancel _ _
  · rename_i hnames
    have hzero : table.countP (fun entry => (sets ops line entry).isSome) = 0 := by
      rw [List.countP_eq_zero]
      simpa [names] using hnames
    rw [hzero]
    exact UInt32.sub_zero _

/-- The loop takes its pieces up to the one that uses up the number of parameters. -/
theorem fillLoop_eq (hsingle : Single (sets ops) table) {n : Nat} (hn : n < 2 ^ 32)
    (lines : List (List Char)) :
    fillLoop ops lines (UInt32.ofNat n) table =
      (table.map (fun entry =>
        (last (sets ops) (upTo (names ops table) n lines) entry).getD entry),
        (upTo (names ops table) n lines).length) := by
  simp only [← (sets_overwrites ops).foldl_put]
  induction lines generalizing n table with
  | nil => simp [fillLoop]
  | cons line lines ih =>
      cases n with
      | zero => simp [fillLoop]
      | succ n =>
          have hne : UInt32.ofNat (n + 1) ≠ 0 := by
            intro hzero
            have hnat := congrArg UInt32.toNat hzero
            rw [UInt32.toNat_ofNat_of_lt' hn] at hnat
            exact Nat.succ_ne_zero n hnat
          have hshape := (map_shape_put ops table line).symm
          have hrest := ih (n := if names ops table line then n else n + 1)
            (single_congr hshape hsingle) (by split <;> omega)
          rw [fillLoop, if_neg hne, locFillConfItem_eq]
          simp only [sub_filled hsingle line, hrest, ← names_congr hshape, List.map_map]
          rfl

/-- Whole numbers for `double`. -/
def wholeOps : DoubleOps Int := ⟨0, atoi⟩

def numberEntry (name : String) (value : Int) : ParamEntry Int :=
  ⟨name.toList, some (.number value), none⟩

end G2Common.Utils
