import G2Common.ByteMemory
import G2Common.Utils.LocCfgRead

/-!
The configuration entries of `loc_cfg.cpp` over a memory of bytes. How many bytes a setting
writes is decided by the type of the entry, whatever the size of the object at its pointer.
The two parameters of the logger are objects of one byte that stand side by side.
-/

namespace G2Common.Utils

open ByteMemory

variable {F : Type*}

/-- `loc_param_s_type`, with addresses for its pointers and the size of the object that is
registered. -/
structure MemoryEntry where
  param_name : List Char
  param_ptr : Option Nat
  param_set : Option Nat
  param_type : ParamType
  size : Nat
  deriving DecidableEq, Repr

def charBytes (s : List Char) : List UInt8 := s.map (fun c => UInt8.ofNat c.toNat) ++ [0]

/-- What the `switch` writes at `param_ptr`, with the bytes of a `double`. -/
def bytesWritten (doubleBytes : F → List UInt8) (config_value : ParamValue F) :
    ParamType → Option (List UInt8)
  | .string =>
      if config_value.param_str_value = "NULL".toList then some [0]
      else some (charBytes (config_value.param_str_value.take LOC_MAX_PARAM_STRING))
  | .number => some (intBytes config_value.param_int_value)
  | .float => some (doubleBytes config_value.param_double_value)
  | .other => none

/-- `*(config_entry->param_set) = value`, if there is one. -/
def storeSet (m : Memory) (param_set : Option Nat) (value : UInt8) : Memory :=
  match param_set with
  | none => m
  | some p => store m p [value]

/-- `loc_set_config_entry`, with no result where it returns -1. -/
def setConfigEntryIn (doubleBytes : F → List UInt8) (config_entry : MemoryEntry)
    (config_value : ParamValue F) (m : Memory) : Option Memory :=
  if config_entry.param_name = config_value.param_name then
    match config_entry.param_ptr, bytesWritten doubleBytes config_value config_entry.param_type with
    | some p, some bytes => some (storeSet (store m p bytes) config_entry.param_set 1)
    | _, _ => none
  else none

/-- A call of `loc_set_config_entry`, with the memory before it. -/
structure SetCall (F : Type*) where
  config_entry : MemoryEntry
  config_value : ParamValue F
  before : Memory

/-- The memory, and the calls made so far. -/
structure ConfigRun (F : Type*) where
  memory : Memory
  calls : List (SetCall F)

/-- A call, and how many entries it fills. -/
def ConfigRun.setEntry (doubleBytes : F → List UInt8) (config_value : ParamValue F)
    (s : ConfigRun F) (config_entry : MemoryEntry) : ConfigRun F × Nat :=
  let calls := s.calls ++ [⟨config_entry, config_value, s.memory⟩]
  match setConfigEntryIn doubleBytes config_entry config_value s.memory with
  | none => (⟨s.memory, calls⟩, 0)
  | some memory => (⟨memory, calls⟩, 1)

/-- The loop of `loc_fill_conf_item` over the table. -/
def setEntries (doubleBytes : F → List UInt8) (config_value : ParamValue F) :
    List MemoryEntry → ConfigRun F → ConfigRun F × Nat
  | [], s => (s, 0)
  | config_entry :: rest, s =>
      let (s, filled) := s.setEntry doubleBytes config_value config_entry
      let (s, more) := setEntries doubleBytes config_value rest s
      (s, filled + more)

/-- `loc_fill_conf_item`. -/
def fillConfItemIn (ops : DoubleOps F) (doubleBytes : F → List UInt8) (input_buf : List Char)
    (config_table : List MemoryEntry) (s : ConfigRun F) : ConfigRun F × Nat :=
  match configValue ops input_buf with
  | none => (s, 0)
  | some config_value => setEntries doubleBytes config_value config_table s

/-- The loop of `loc_read_conf_r` over the lines. -/
def readLoop (ops : DoubleOps F) (doubleBytes : F → List UInt8) (config_table : List MemoryEntry) :
    List (List Char) → UInt32 → ConfigRun F → ConfigRun F
  | [], _, s => s
  | input_buf :: rest, num_params, s =>
      if num_params = 0 then s
      else
        let (s, filled) := fillConfItemIn ops doubleBytes input_buf config_table s
        readLoop ops doubleBytes config_table rest (num_params - UInt32.ofNat filled) s

/-- The lines as `fgets` reads them: one that does not fit into the buffer is several. -/
def linesRead (conf_fp : List Char) : List (List Char) := pieces LOC_MAX_PARAM_LINE conf_fp

/-- `loc_read_conf_r` from the start of the file. -/
def readConfIn (ops : DoubleOps F) (doubleBytes : F → List UInt8) (conf_fp : List Char)
    (config_table : List MemoryEntry) (s : ConfigRun F) : ConfigRun F :=
  let memory := config_table.foldl (fun m entry => storeSet m entry.param_set 0) s.memory
  readLoop ops doubleBytes config_table (linesRead conf_fp) (UInt32.ofNat config_table.length)
    ⟨memory, s.calls⟩

/-- The cells of the two parameters. -/
def DEBUG_LEVEL : Nat := 0
def TIMESTAMP : Nat := 1

/-- `loc_param_table`. Both parameters are a `uint8_t`. -/
def locParamTable : List MemoryEntry :=
  [⟨"DEBUG_LEVEL".toList, some DEBUG_LEVEL, none, .number, 1⟩,
    ⟨"TIMESTAMP".toList, some TIMESTAMP, none, .number, 1⟩]

/-- `loc_read_conf`: the calls with the memory after them, of which the cells of the two
parameters are what `loc_logger_init` receives. -/
def readConf (ops : DoubleOps F) (doubleBytes : F → List UInt8) (conf_file : Option (List Char))
    (config_table : List MemoryEntry) (m : Memory) : ConfigRun F :=
  match conf_file with
  | none => ⟨m, []⟩
  | some file =>
      let s : ConfigRun F := ⟨m, []⟩
      let s := if config_table.length = 0 then s else readConfIn ops doubleBytes file config_table s
      readConfIn ops doubleBytes file locParamTable s

def loggerInit (s : ConfigRun F) : UInt8 × UInt8 := (s.memory DEBUG_LEVEL, s.memory TIMESTAMP)

/-- The bytes of the object that is registered. -/
def InObject (config_entry : MemoryEntry) (a : Nat) : Prop :=
  ∃ p, config_entry.param_ptr = some p ∧ p ≤ a ∧ a < p + config_entry.size

namespace SetCall

def after (doubleBytes : F → List UInt8) (call : SetCall F) : Memory :=
  (setConfigEntryIn doubleBytes call.config_entry call.config_value call.before).getD call.before

/-- The call changes nothing but the object of the entry that it matches and its flag. -/
def Framed (doubleBytes : F → List UInt8) (call : SetCall F) : Prop :=
  ∀ a, call.after doubleBytes a ≠ call.before a →
    call.config_entry.param_name = call.config_value.param_name ∧
      (InObject call.config_entry a ∨ call.config_entry.param_set = some a)

/-- What a call for its entry writes behind the object is what stands there already. -/
def Fits (doubleBytes : F → List UInt8) (call : SetCall F) : Prop :=
  call.config_entry.param_name = call.config_value.param_name →
    ∀ p bytes, call.config_entry.param_ptr = some p →
      bytesWritten doubleBytes call.config_value call.config_entry.param_type = some bytes →
      ∀ k b, bytes[k]? = some b → call.config_entry.size ≤ k →
        call.config_entry.param_set ≠ some (p + k) → call.before (p + k) = b

variable {doubleBytes : F → List UInt8} {call : SetCall F}

theorem storeSet_ne {m : Memory} {param_set : Option Nat} {value : UInt8} {a : Nat}
    (h : param_set ≠ some a) : storeSet m param_set value a = m a := by
  cases param_set with
  | none => rfl
  | some p =>
      apply store_outside
      intro hle
      have hne : a - p ≠ 0 := by
        intro hzero
        apply h
        rw [show a = p by omega]
      exact List.getElem?_eq_none (by rw [List.length_singleton]; omega)

/-- The ways in which a call can end. -/
theorem after_cases (doubleBytes : F → List UInt8) (call : SetCall F) :
    (call.after doubleBytes = call.before ∧
        (call.config_entry.param_name = call.config_value.param_name →
          ∀ p bytes, call.config_entry.param_ptr = some p →
            bytesWritten doubleBytes call.config_value call.config_entry.param_type ≠
              some bytes)) ∨
      ∃ p bytes, call.config_entry.param_name = call.config_value.param_name ∧
        call.config_entry.param_ptr = some p ∧
        bytesWritten doubleBytes call.config_value call.config_entry.param_type = some bytes ∧
        call.after doubleBytes =
          storeSet (store call.before p bytes) call.config_entry.param_set 1 := by
  rw [after, setConfigEntryIn]
  split
  case isTrue hname =>
      split
      case h_1 p bytes hptr hbytes => exact Or.inr ⟨p, bytes, hname, hptr, hbytes, rfl⟩
      case h_2 hnot => exact Or.inl ⟨rfl, fun _ p bytes hptr hbytes => hnot p bytes hptr hbytes⟩
  case isFalse hname => exact Or.inl ⟨rfl, fun h => absurd h hname⟩

theorem framed_iff_fits : call.Framed doubleBytes ↔ call.Fits doubleBytes := by
  rcases after_cases doubleBytes call with ⟨hsame, hnone⟩ | ⟨p, bytes, hname, hptr, hbytes, hafter⟩
  · apply iff_of_true
    · intro a hchanged
      rw [hsame] at hchanged
      exact absurd rfl hchanged
    · intro hname p bytes hptr hbytes
      exact absurd hbytes (hnone hname p bytes hptr)
  · constructor
    · intro hframed _ p' bytes' hptr' hbytes' k b hk hsize hset
      obtain rfl : p = p' := Option.some.inj (hptr.symm.trans hptr')
      obtain rfl : bytes = bytes' := Option.some.inj (hbytes.symm.trans hbytes')
      have hstored : call.after doubleBytes (p + k) = b := by
        rw [hafter, storeSet_ne hset, store_at hk]
      rw [← hstored]
      apply Decidable.byContradiction
      intro hchanged
      obtain ⟨-, ⟨q, hq, _, hlt⟩ | hflag⟩ := hframed (p + k) (Ne.symm hchanged)
      · obtain rfl : p = q := Option.some.inj (hptr.symm.trans hq)
        omega
      · exact hset hflag
    · intro hfits a hchanged
      refine ⟨hname, Classical.byContradiction ?_⟩
      intro houtside
      obtain ⟨hout, hset⟩ := not_or.mp houtside
      apply hchanged
      rw [hafter, storeSet_ne hset]
      by_cases hle : p ≤ a
      · cases hbyte : bytes[a - p]? with
        | none => exact store_outside (fun _ => hbyte)
        | some b =>
            have hsize : call.config_entry.size ≤ a - p := by
              apply Nat.le_of_not_lt
              intro hlt
              exact hout ⟨p, hptr, hle, by omega⟩
            have ha : p + (a - p) = a := by omega
            have hbefore := hfits hname p bytes hptr hbytes (a - p) b hbyte hsize
              (by rw [ha]; exact hset)
            have hstored := @store_at call.before p (a - p) bytes b hbyte
            rw [ha] at hbefore hstored
            rw [hstored, hbefore]
      · exact store_outside (fun h => absurd h hle)

end SetCall

inductive LoggerParam where
  | debugLevel | timestamp
  deriving DecidableEq, Repr

def LoggerParam.entry : LoggerParam → MemoryEntry
  | .debugLevel => ⟨"DEBUG_LEVEL".toList, some DEBUG_LEVEL, none, .number, 1⟩
  | .timestamp => ⟨"TIMESTAMP".toList, some TIMESTAMP, none, .number, 1⟩

def LoggerParam.cell : LoggerParam → Nat
  | .debugLevel => DEBUG_LEVEL
  | .timestamp => TIMESTAMP

/-- The parameter that a line sets, and its value. -/
def setting (ops : DoubleOps F) (line : List Char) : Option (LoggerParam × Int) :=
  (configValue ops line).bind fun config_value =>
    if config_value.param_name = "DEBUG_LEVEL".toList then
      some (.debugLevel, config_value.param_int_value)
    else if config_value.param_name = "TIMESTAMP".toList then
      some (.timestamp, config_value.param_int_value)
    else none

/-- An `int` is written into the cell of a parameter. -/
def writeParam (m : Memory) (set : LoggerParam × Int) : Memory :=
  store m set.1.cell (intBytes set.2)

/-- The call that carries out a setting, with the memory before it. -/
structure SetCall.Sets (set : LoggerParam × Int) (before : Memory) (call : SetCall F) : Prop where
  entry_eq : call.config_entry = set.1.entry
  name_eq : call.config_value.param_name = set.1.entry.param_name
  value_eq : call.config_value.param_int_value = set.2
  before_eq : call.before = before

section Logger

variable {ops : DoubleOps F} {doubleBytes : F → List UInt8} {config_value : ParamValue F}
  {line file : List Char} {debug timestamp value : Int} {p : LoggerParam}

theorem setEntry_other {s : ConfigRun F} (h : p.entry.param_name ≠ config_value.param_name) :
    s.setEntry doubleBytes config_value p.entry =
      (⟨s.memory, s.calls ++ [⟨p.entry, config_value, s.memory⟩]⟩, 0) := by
  rw [ConfigRun.setEntry, setConfigEntryIn, if_neg h]

theorem setEntry_param {s : ConfigRun F} (h : p.entry.param_name = config_value.param_name) :
    s.setEntry doubleBytes config_value p.entry =
      (⟨writeParam s.memory (p, config_value.param_int_value),
        s.calls ++ [⟨p.entry, config_value, s.memory⟩]⟩, 1) := by
  rw [ConfigRun.setEntry, setConfigEntryIn, if_pos h]
  cases p <;> rfl

theorem locParamTable_eq :
    locParamTable = [LoggerParam.debugLevel.entry, LoggerParam.timestamp.entry] := rfl

theorem setting_eq (h : configValue ops line = some config_value) :
    setting ops line =
      if config_value.param_name = LoggerParam.debugLevel.entry.param_name then
        some (.debugLevel, config_value.param_int_value)
      else if config_value.param_name = LoggerParam.timestamp.entry.param_name then
        some (.timestamp, config_value.param_int_value)
      else none := by
  rw [setting, h]
  rfl

theorem setEntries_pair (e e' : MemoryEntry) (s : ConfigRun F) :
    setEntries doubleBytes config_value [e, e'] s =
      (((s.setEntry doubleBytes config_value e).1.setEntry doubleBytes config_value e').1,
        (s.setEntry doubleBytes config_value e).2 +
          ((s.setEntry doubleBytes config_value e).1.setEntry doubleBytes config_value e').2) := rfl

/-- What one line does. -/
theorem fillConfItemIn_eq (ops : DoubleOps F) (doubleBytes : F → List UInt8) (line : List Char)
    (s : ConfigRun F) :
    ∃ new, fillConfItemIn ops doubleBytes line locParamTable s =
        (⟨(setting ops line).toList.foldl writeParam s.memory, s.calls ++ new⟩,
          (setting ops line).toList.length) ∧
      ∀ set, setting ops line = some set → ∃ call ∈ new, call.Sets set s.memory := by
  rw [fillConfItemIn]
  cases hvalue : configValue ops line with
  | none =>
      have hset : setting ops line = none := by rw [setting, hvalue, Option.bind_none]
      exact ⟨[], by simp [hset]⟩
  | some config_value =>
      rw [setting_eq hvalue, locParamTable_eq]
      dsimp only
      rw [setEntries_pair]
      split
      case isTrue hname =>
          have hsecond : LoggerParam.timestamp.entry.param_name ≠ config_value.param_name := by
            rw [hname]
            decide
          rw [setEntry_param hname.symm, setEntry_other hsecond, List.append_assoc]
          refine ⟨_, rfl, ?_⟩
          intro set hset
          obtain rfl := Option.some.inj hset
          exact ⟨_, List.mem_append_left _ (List.mem_singleton_self _), rfl, hname, rfl, rfl⟩
      case isFalse hfirst =>
          rw [setEntry_other (Ne.symm hfirst)]
          split
          case isTrue hname =>
              rw [setEntry_param hname.symm, List.append_assoc]
              refine ⟨_, rfl, ?_⟩
              intro set hset
              obtain rfl := Option.some.inj hset
              exact ⟨_, List.mem_append_right _ (List.mem_singleton_self _), rfl, hname, rfl, rfl⟩
          case isFalse hsecond =>
              rw [setEntry_other (Ne.symm hsecond), List.append_assoc]
              refine ⟨_, rfl, ?_⟩
              intro set hset
              cases hset

/-- The settings that are carried out: the first `num_params` of the lines. -/
def settingsTaken (ops : DoubleOps F) (lines : List (List Char)) (num_params : UInt32) :
    List (LoggerParam × Int) :=
  (lines.filterMap (setting ops)).take num_params.toNat

/-- The loop carries out one setting after another, each with a call of its own. -/
theorem readLoop_eq (ops : DoubleOps F) (doubleBytes : F → List UInt8) (lines : List (List Char))
    (num_params : UInt32) (s : ConfigRun F) :
    ∃ new, readLoop ops doubleBytes locParamTable lines num_params s =
        ⟨(settingsTaken ops lines num_params).foldl writeParam s.memory, s.calls ++ new⟩ ∧
      ∀ pre set post, settingsTaken ops lines num_params = pre ++ set :: post →
        ∃ call ∈ new, call.Sets set (pre.foldl writeParam s.memory) := by
  induction lines generalizing num_params s with
  | nil => exact ⟨[], by simp [readLoop, settingsTaken]⟩
  | cons line rest ih =>
      rw [readLoop]
      split
      case isTrue hzero => exact ⟨[], by simp [settingsTaken, hzero]⟩
      case isFalse hzero =>
          have hpos : 0 < num_params.toNat := by
            apply Nat.pos_of_ne_zero
            intro h
            exact hzero (UInt32.toNat_inj.mp h)
          obtain ⟨first, hfill, hcall⟩ := fillConfItemIn_eq ops doubleBytes line s
          rw [hfill]
          cases hset : setting ops line with
          | none =>
              obtain ⟨new, heq, hnew⟩ := ih num_params ⟨s.memory, s.calls ++ first⟩
              have htaken : settingsTaken ops (line :: rest) num_params =
                  settingsTaken ops rest num_params := by
                rw [settingsTaken, List.filterMap_cons_none hset, settingsTaken]
              refine ⟨first ++ new, ?_, ?_⟩
              · simpa [htaken] using heq
              · rw [htaken]
                intro pre set post h
                obtain ⟨call, hmem, hsets⟩ := hnew pre set post h
                exact ⟨call, List.mem_append_right _ hmem, hsets⟩
          | some set =>
              obtain ⟨new, heq, hnew⟩ :=
                ih (num_params - 1) ⟨writeParam s.memory set, s.calls ++ first⟩
              have hsub : (num_params - 1).toNat = num_params.toNat - 1 :=
                UInt32.toNat_sub_of_le _ _ (UInt32.le_iff_toNat_le.mpr hpos)
              have htaken : settingsTaken ops (line :: rest) num_params =
                  set :: settingsTaken ops rest (num_params - 1) := by
                rw [settingsTaken, List.filterMap_cons_some hset, settingsTaken, hsub,
                  List.take_cons hpos]
              refine ⟨first ++ new, ?_, ?_⟩
              · simpa [htaken] using heq
              · rw [htaken]
                intro pre set' post h
                cases pre with
                | nil =>
                    obtain ⟨rfl, -⟩ := List.cons.inj h
                    obtain ⟨call, hmem, hsets⟩ := hcall set hset
                    exact ⟨call, List.mem_append_left _ hmem, hsets⟩
                | cons head pre =>
                    obtain ⟨rfl, hrest⟩ := List.cons.inj h
                    obtain ⟨call, hmem, hsets⟩ := hnew pre set' post hrest
                    exact ⟨call, List.mem_append_right _ hmem, hsets⟩

/-- The file sets each of the parameters on exactly one of its lines. -/
def Once (ops : DoubleOps F) (file : List Char) (debug timestamp : Int) : Prop :=
  (file.splitOn '\n').filterMap (setting ops) =
      [(.debugLevel, debug), (.timestamp, timestamp)] ∨
    (file.splitOn '\n').filterMap (setting ops) = [(.timestamp, timestamp), (.debugLevel, debug)]

/-- What `fgets` reads is the lines of the file. -/
def ReadByLine (file : List Char) : Prop :=
  ∀ line ∈ file.splitOn '\n', line.length + 1 < LOC_MAX_PARAM_LINE ∧ ¬ EndsBlank line

/-- The settings that are carried out for the table of the logger, of the pieces that `fgets`
reads. -/
def loggerSettings (ops : DoubleOps F) (file : List Char) : List (LoggerParam × Int) :=
  settingsTaken ops (linesRead file) 2

/-- The memory when the table of the logger is read. -/
def loggerMemory (ops : DoubleOps F) (doubleBytes : F → List UInt8) (file : List Char)
    (config_table : List MemoryEntry) (m : Memory) : Memory :=
  if config_table.length = 0 then m
  else (readConfIn ops doubleBytes file config_table ⟨m, []⟩).memory

/-- The lowest byte of the last setting of a parameter, or what its cell held before. -/
def byteTaken (p : LoggerParam) (taken : List (LoggerParam × Int)) (before : Memory) : UInt8 :=
  ((taken.filter fun set => set.1 = p).getLast?.map fun set => UInt8.ofInt set.2).getD
    (before p.cell)

/-- What the last setting leaves in the cell of the time stamp, whichever parameter it is for. -/
def timestampLeft (taken : List (LoggerParam × Int)) (before : Memory) : UInt8 :=
  match taken.getLast? with
  | none => before TIMESTAMP
  | some (.debugLevel, value) => byteOf value 1
  | some (.timestamp, value) => UInt8.ofInt value

/-- Short lines are the lines of the file, if the newline is not all there is of a value. -/
theorem filterMap_linesRead (ops : DoubleOps F)
    (hlines : ReadByLine file) :
    (linesRead file).filterMap (setting ops) = (file.splitOn '\n').filterMap (setting ops) := by
  apply filterMap_pieces _ (Nat.le_refl _)
  · intro line hline
    obtain ⟨hlength, hblank⟩ := hlines line hline
    refine ⟨hlength, ?_⟩
    rw [setting, setting, configValue_newline ops hblank]
  · rw [setting, configValue_none (List.not_mem_nil), Option.bind_none]

/-- Setting an entry disturbs no other, and the logger receives what the file says. -/
def Undisturbed (ops : DoubleOps F) (doubleBytes : F → List UInt8) (file : List Char)
    (config_table : List MemoryEntry) (m : Memory) : Prop :=
  let run := readConf ops doubleBytes (some file) config_table m
  (∀ call ∈ run.calls, call.Framed doubleBytes) ∧
    ∀ debug timestamp, Once ops file debug timestamp →
      loggerInit run = (UInt8.ofInt debug, UInt8.ofInt timestamp)

/-- The logger's table is read into whatever the caller's table has left. -/
theorem readConf_eq (ops : DoubleOps F) (doubleBytes : F → List UInt8) (file : List Char)
    (config_table : List MemoryEntry) (m : Memory) :
    ∃ calls new : List (SetCall F),
      readConf ops doubleBytes (some file) config_table m =
        ⟨(loggerSettings ops file).foldl writeParam
          (loggerMemory ops doubleBytes file config_table m), calls ++ new⟩ ∧
      ∀ pre set post, loggerSettings ops file = pre ++ set :: post →
        ∃ call ∈ new, call.Sets set
          (pre.foldl writeParam (loggerMemory ops doubleBytes file config_table m)) := by
  have hparams (s : ConfigRun F) : readConfIn ops doubleBytes file locParamTable s =
      readLoop ops doubleBytes locParamTable (linesRead file) 2 s := rfl
  rw [readConf, hparams, loggerMemory]
  split
  case isTrue => exact ⟨_, readLoop_eq ops doubleBytes (linesRead file) 2 _⟩
  case isFalse => exact ⟨_, readLoop_eq ops doubleBytes (linesRead file) 2 _⟩

theorem settingsTaken_two {first second : LoggerParam × Int}
    (h : (linesRead file).filterMap (setting ops) = [first, second]) :
    settingsTaken ops (linesRead file) 2 = [first, second] := by
  rw [settingsTaken, h]
  rfl

/-- A call for a parameter fits if the three cells behind it hold the rest of its value. -/
theorem fits_iff_bytes {before : Memory} {call : SetCall F} (h : call.Sets (p, value) before) :
    call.Fits doubleBytes ↔ before (p.cell + 1) = byteOf value 1 ∧
      before (p.cell + 2) = byteOf value 2 ∧ before (p.cell + 3) = byteOf value 3 := by
  have hptr : call.config_entry.param_ptr = some p.cell := by
    rw [h.entry_eq]
    cases p <;> rfl
  have hset (a : Nat) : call.config_entry.param_set ≠ some a := by
    rw [h.entry_eq]
    cases p <;> exact nofun
  have hbytes : bytesWritten doubleBytes call.config_value call.config_entry.param_type =
      some (intBytes value) := by
    rw [h.entry_eq, show value = call.config_value.param_int_value from h.value_eq.symm]
    cases p <;> rfl
  have hsize : call.config_entry.size = 1 := by
    rw [h.entry_eq]
    cases p <;> rfl
  have hname : call.config_entry.param_name = call.config_value.param_name := by
    rw [h.name_eq, h.entry_eq]
  constructor
  · intro hfits
    have hcell {k : Nat} {b : UInt8} (hk : (intBytes value)[k]? = some b) (hpos : 1 ≤ k) :
        before (p.cell + k) = b := by
      rw [← h.before_eq]
      exact hfits hname _ _ hptr hbytes k b hk (hsize ▸ hpos) (hset _)
    exact ⟨hcell rfl (by omega), hcell rfl (by omega), hcell rfl (by omega)⟩
  · rintro ⟨h1, h2, h3⟩ - q bytes hq hwritten k b hk hle -
    obtain rfl : p.cell = q := Option.some.inj (hptr.symm.trans hq)
    obtain rfl : intBytes value = bytes := Option.some.inj (hbytes.symm.trans hwritten)
    rw [hsize] at hle
    rw [h.before_eq]
    match k with
    | 0 => omega
    | 1 => exact h1.trans (Option.some.inj hk)
    | 2 => exact h2.trans (Option.some.inj hk)
    | 3 => exact h3.trans (Option.some.inj hk)
    | k + 4 => exact absurd hk (by simp [intBytes])

theorem writeParam_cell (m : Memory) (p : LoggerParam) (value : Int) :
    writeParam m (p, value) p.cell = UInt8.ofInt value := by
  rw [← byteOf_zero]
  exact @store_at m p.cell 0 (intBytes value) _ rfl

theorem writeParam_next (m : Memory) (p : LoggerParam) (value : Int) :
    writeParam m (p, value) (p.cell + 1) = byteOf value 1 :=
  @store_at m p.cell 1 (intBytes value) _ rfl

theorem byteTaken_append (taken : List (LoggerParam × Int)) (set : LoggerParam × Int)
    (before : Memory) :
    byteTaken p (taken ++ [set]) before =
      if set.1 = p then UInt8.ofInt set.2 else byteTaken p taken before := by
  simp only [byteTaken, List.filter_append, List.filter_cons, List.filter_nil, decide_eq_true_eq]
  split
  case isTrue =>
    rw [List.getLast?_append, List.getLast?_singleton, Option.some_or, Option.map_some,
      Option.getD_some]
  case isFalse => rw [List.append_nil]

/-- No write of a time stamp gets at the debug level in front of it. -/
theorem foldl_debugLevel (taken : List (LoggerParam × Int)) (m : Memory) :
    taken.foldl writeParam m DEBUG_LEVEL = byteTaken .debugLevel taken m := by
  induction taken using List.reverseRecOn with
  | nil => rfl
  | append_singleton taken set ih =>
      obtain ⟨p, value⟩ := set
      rw [List.foldl_append, byteTaken_append]
      cases p with
      | debugLevel => exact writeParam_cell (taken.foldl writeParam m) .debugLevel value
      | timestamp =>
          have hkept : writeParam (taken.foldl writeParam m) (.timestamp, value) DEBUG_LEVEL =
              taken.foldl writeParam m DEBUG_LEVEL :=
            store_outside (fun h => absurd h (show ¬ TIMESTAMP ≤ DEBUG_LEVEL by decide))
          rw [if_neg (by simp), ← ih]
          exact hkept

theorem foldl_timestamp (taken : List (LoggerParam × Int)) (m : Memory) :
    taken.foldl writeParam m TIMESTAMP = timestampLeft taken m := by
  rcases List.eq_nil_or_concat' taken with rfl | ⟨before, ⟨p, value⟩, rfl⟩
  · rfl
  · rw [timestampLeft, List.getLast?_append, List.getLast?_singleton, Option.some_or,
      List.foldl_append]
    cases p with
    | debugLevel => exact writeParam_next (before.foldl writeParam m) .debugLevel value
    | timestamp => exact writeParam_cell (before.foldl writeParam m) .timestamp value

/-- Where each write fits, a debug level leaves the time stamp alone. -/
theorem foldl_timestamp_of_fits {taken : List (LoggerParam × Int)} {m : Memory}
    (h : ∀ pre set post, taken = pre ++ set :: post →
      pre.foldl writeParam m (set.1.cell + 1) = byteOf set.2 1) :
    taken.foldl writeParam m TIMESTAMP = byteTaken .timestamp taken m := by
  induction taken using List.reverseRecOn with
  | nil => rfl
  | append_singleton taken set ih =>
      have hbefore := ih fun pre set' post heq => h pre set' (post ++ [set]) (by simp [heq])
      have hset := h taken set [] rfl
      obtain ⟨p, value⟩ := set
      rw [List.foldl_append, byteTaken_append]
      cases p with
      | debugLevel =>
          rw [if_neg (by simp), ← hbefore]
          exact (writeParam_next (taken.foldl writeParam m) .debugLevel value).trans hset.symm
      | timestamp => exact writeParam_cell (taken.foldl writeParam m) .timestamp value

theorem loggerInit_eq (ops : DoubleOps F) (doubleBytes : F → List UInt8) (file : List Char)
    (config_table : List MemoryEntry) (m : Memory) :
    loggerInit (readConf ops doubleBytes (some file) config_table m) =
      (byteTaken .debugLevel (loggerSettings ops file)
          (loggerMemory ops doubleBytes file config_table m),
        timestampLeft (loggerSettings ops file)
          (loggerMemory ops doubleBytes file config_table m)) := by
  obtain ⟨calls, new, hrun, -⟩ := readConf_eq ops doubleBytes file config_table m
  rw [hrun]
  exact Prod.ext (foldl_debugLevel ..) (foldl_timestamp ..)

/-- Where all calls fit, the logger receives what was taken for each parameter. -/
theorem timestampLeft_of_fits {config_table : List MemoryEntry} {m : Memory}
    (hfits : ∀ call ∈ (readConf ops doubleBytes (some file) config_table m).calls,
      call.Fits doubleBytes) :
    timestampLeft (loggerSettings ops file) (loggerMemory ops doubleBytes file config_table m) =
      byteTaken .timestamp (loggerSettings ops file)
        (loggerMemory ops doubleBytes file config_table m) := by
  obtain ⟨calls, new, hrun, hcalls⟩ := readConf_eq ops doubleBytes file config_table m
  rw [hrun] at hfits
  rw [← foldl_timestamp]
  apply foldl_timestamp_of_fits
  intro pre set post hsplit
  obtain ⟨call, hmem, hsets⟩ := hcalls pre set post hsplit
  have hfit := hfits call (List.mem_append_right _ hmem)
  rw [fits_iff_bytes hsets] at hfit
  exact hfit.1

/-- In a file that is read by line, the debug level comes first, or its second byte is the time
stamp. -/
theorem loggerInit_iff_readByLine (doubleBytes : F → List UInt8)
    (config_table : List MemoryEntry) (m : Memory) (hlines : ReadByLine file)
    (h : Once ops file debug timestamp) :
    loggerInit (readConf ops doubleBytes (some file) config_table m) =
        (UInt8.ofInt debug, UInt8.ofInt timestamp) ↔
      (file.splitOn '\n').filterMap (setting ops) =
          [(.debugLevel, debug), (.timestamp, timestamp)] ∨
        byteOf debug 1 = UInt8.ofInt timestamp := by
  have hread := filterMap_linesRead ops hlines
  rw [loggerInit_eq, Prod.mk.injEq, loggerSettings]
  rcases h with horder | horder
  · rw [settingsTaken_two (hread.trans horder)]
    apply iff_of_true
    · exact ⟨rfl, rfl⟩
    · exact Or.inl horder
  · rw [settingsTaken_two (hread.trans horder), horder]
    constructor
    · exact fun hvalues => Or.inr hvalues.2
    · rintro (hfirst | hsame)
      · cases hfirst
      · exact ⟨rfl, hsame⟩

/-- No entry disturbs another and the logger receives what the lines say, if and only if all that
is written behind an object stands there already and the pieces that are taken say what the lines
say. The values alone also depend on what the last piece leaves. -/
theorem undisturbed_iff (ops : DoubleOps F) (doubleBytes : F → List UInt8) (file : List Char)
    (config_table : List MemoryEntry) (m : Memory) :
    let run := readConf ops doubleBytes (some file) config_table m
    let taken := loggerSettings ops file
    let before := loggerMemory ops doubleBytes file config_table m
    (Undisturbed ops doubleBytes file config_table m ↔
        (∀ call ∈ run.calls, call.Fits doubleBytes) ∧
          ∀ debug timestamp, Once ops file debug timestamp →
            byteTaken .debugLevel taken before = UInt8.ofInt debug ∧
              byteTaken .timestamp taken before = UInt8.ofInt timestamp) ∧
      ∀ debug timestamp, Once ops file debug timestamp →
        (loggerInit run = (UInt8.ofInt debug, UInt8.ofInt timestamp) ↔
          byteTaken .debugLevel taken before = UInt8.ofInt debug ∧
            timestampLeft taken before = UInt8.ofInt timestamp) ∧
        (ReadByLine file →
          (loggerInit run = (UInt8.ofInt debug, UInt8.ofInt timestamp) ↔
            (file.splitOn '\n').filterMap (setting ops) =
                [(.debugLevel, debug), (.timestamp, timestamp)] ∨
              byteOf debug 1 = UInt8.ofInt timestamp)) := by
  intro run taken before
  have hinit : loggerInit run =
      (byteTaken .debugLevel taken before, timestampLeft taken before) :=
    loggerInit_eq ops doubleBytes file config_table m
  have hfitted (hfits : ∀ call ∈ run.calls, call.Fits doubleBytes) :
      timestampLeft taken before = byteTaken .timestamp taken before :=
    timestampLeft_of_fits hfits
  refine ⟨⟨?_, ?_⟩, fun debug timestamp honce => ⟨?_, fun hlines => ?_⟩⟩
  · rintro ⟨hframed, hvalues⟩
    have hfits : ∀ call ∈ run.calls, call.Fits doubleBytes := fun call hmem =>
      SetCall.framed_iff_fits.mp (hframed call hmem)
    refine ⟨hfits, fun debug timestamp honce => ?_⟩
    have hreceived : loggerInit run = _ := hvalues debug timestamp honce
    rw [hinit, hfitted hfits] at hreceived
    exact Prod.mk.inj hreceived
  · rintro ⟨hfits, htaken⟩
    refine ⟨fun call hmem => SetCall.framed_iff_fits.mpr (hfits call hmem), ?_⟩
    intro debug timestamp honce
    obtain ⟨hdebug, htimestamp⟩ := htaken debug timestamp honce
    change loggerInit run = _
    rw [hinit, hfitted hfits, hdebug, htimestamp]
  · rw [hinit, Prod.mk.injEq]
  · exact loggerInit_iff_readByLine doubleBytes config_table m hlines honce

/-- The cells when the program starts. -/
def initialMemory : Memory := fun a => if a = DEBUG_LEVEL then 0xff else 0

/-- A debug level wipes out the time stamp of the line before. -/
theorem not_undisturbed_small :
    loggerInit (readConf wholeOps (fun _ => []) (some "TIMESTAMP=1\nDEBUG_LEVEL=5\n".toList) []
        initialMemory) = (5, 0) ∧
      ¬ Undisturbed wholeOps (fun _ => []) "TIMESTAMP=1\nDEBUG_LEVEL=5\n".toList []
        initialMemory := by
  have hinit : loggerInit (readConf wholeOps (fun _ => [])
      (some "TIMESTAMP=1\nDEBUG_LEVEL=5\n".toList) [] initialMemory) = (5, 0) := by
    decide +kernel
  refine ⟨hinit, ?_⟩
  rintro ⟨-, hvalues⟩
  have honce : Once wholeOps "TIMESTAMP=1\nDEBUG_LEVEL=5\n".toList 5 1 := by
    unfold Once
    decide +kernel
  have hexpected := hvalues 5 1 honce
  rw [hinit] at hexpected
  exact absurd hexpected (by decide)

/-- The other order of the two lines. -/
theorem undisturbed_iff_two :
    loggerInit (readConf wholeOps (fun _ => []) (some "DEBUG_LEVEL=5\nTIMESTAMP=1\n".toList) []
      initialMemory) = (5, 1) :=
  ((undisturbed_iff wholeOps (fun _ => []) "DEBUG_LEVEL=5\nTIMESTAMP=1\n".toList []
    initialMemory).2 5 1 (Or.inl (by decide +kernel))).1.mpr (by decide +kernel)

end Logger

end G2Common.Utils
