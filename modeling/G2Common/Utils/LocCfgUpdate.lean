import G2Common.Utils.LocCfg

/-!
An update of a configuration table from a text. The loop starts with one parameter less
than the table has, so it can stop before the last lines, and it returns how many lines
it has taken.
-/

namespace G2Common.Utils

open Settings

variable {F : Type*}

/-- `loc_update_conf`, with the length of the text. -/
def locUpdateConf (ops : DoubleOps F) (conf_data : List Char)
    (config_table : List (ParamEntry F)) : List (ParamEntry F) × Int :=
  if conf_data.length = 0 ∨ config_table.length = 0 then (config_table, -1)
  else
    let num_params := UInt32.ofNat config_table.length - 1
    let (config_table, ret) := fillLoop ops (tokens '\n' conf_data) num_params config_table
    (config_table, ret)

/-- Each entry holds what the last line made of it that names it, and the result is the
number of entries that a line names. -/
def UpdateTakesEffect (ops : DoubleOps F) (text : List Char) (table : List (ParamEntry F)) :
    Prop :=
  locUpdateConf ops text table =
    (table.map (fun entry => (last (sets ops) (text.splitOn '\n') entry).getD entry),
      (table.countP (touches (sets ops) (text.splitOn '\n')) : Int))

/-- The lines up to the one that leaves a single parameter of the table. -/
def linesTaken (ops : DoubleOps F) (text : List Char) (table : List (ParamEntry F)) :
    List (List Char) :=
  upTo (names ops table) (table.length - 1) (tokens '\n' text)

/-- Each line that is taken names an entry of its own, and the lines that are not taken set
nothing to another value. -/
structure WithinTable (ops : DoubleOps F) (text : List Char) (table : List (ParamEntry F)) :
    Prop where
  nonempty : text ≠ []
  distinct : Distinct (sets ops) table (linesTaken ops text table)
  rest : ∀ entry ∈ table, last (sets ops) (text.splitOn '\n') entry =
    last (sets ops) (linesTaken ops text table) entry

variable {ops : DoubleOps F} {table table' : List (ParamEntry F)} {text : List Char}
  {entry entry' : ParamEntry F}

/-- Empty lines are no tokens, but they name nothing. -/
theorem last_tokens (ops : DoubleOps F) (text : List Char) (entry : ParamEntry F) :
    last (sets ops) (tokens '\n' text) entry = last (sets ops) (text.splitOn '\n') entry := by
  apply last_filter
  intro line _ hempty
  have hline : line = [] := by simpa using hempty
  rw [hline]
  rfl

/-- No line is missed if fewer lines name an entry than the table has entries. -/
theorem last_linesTaken
    (hcount : (tokens '\n' text).countP (names ops table) ≤ table.length - 1) :
    ∀ entry ∈ table, last (sets ops) (text.splitOn '\n') entry =
      last (sets ops) (linesTaken ops text table) entry := by
  intro entry hentry
  rw [← last_tokens, linesTaken,
    last_upTo hcount (fun line hline => sets_of_not_names hline hentry)]

theorem locUpdateConf_eq (hsingle : Single (sets ops) table) (htable : table ≠ [])
    (hlen : table.length < 2 ^ 32) (htext : text ≠ []) :
    locUpdateConf ops text table =
      (table.map (fun entry => (last (sets ops) (linesTaken ops text table) entry).getD entry),
        ((linesTaken ops text table).length : Int)) := by
  have hpos := List.length_pos_of_ne_nil htable
  have hnum : UInt32.ofNat table.length - 1 = UInt32.ofNat (table.length - 1) := by
    rw [show table.length = table.length - 1 + 1 by omega, UInt32.ofNat_add, Nat.add_sub_cancel]
    exact UInt32.add_sub_cancel _ _
  have hloop := fillLoop_eq hsingle (show table.length - 1 < 2 ^ 32 by omega) (tokens '\n' text)
  rw [locUpdateConf, if_neg (by simp [htext, htable]), hnum]
  simp only [hloop]
  rfl

theorem linesTaken_congr (h : table'.map shape = table.map shape) :
    linesTaken ops text table' = linesTaken ops text table := by
  have hlength : table'.length = table.length := by
    simpa using congrArg List.length h
  rw [linesTaken, linesTaken, names_congr h, hlength]

theorem updateTakesEffect_iff (hsingle : Single (sets ops) table) (htable : table ≠ [])
    (hlen : table.length < 2 ^ 32) :
    UpdateTakesEffect ops text table ↔ text ≠ [] ∧
      (linesTaken ops text table).length =
        table.countP (touches (sets ops) (text.splitOn '\n')) ∧
      ∀ entry ∈ table, (last (sets ops) (text.splitOn '\n') entry).getD entry =
        (last (sets ops) (linesTaken ops text table) entry).getD entry := by
  by_cases htext : text = []
  · apply iff_of_false
    · intro h
      rw [UpdateTakesEffect, locUpdateConf, if_pos (Or.inl (by rw [htext]; rfl)),
        Prod.mk.injEq] at h
      omega
    · exact fun h => h.1 htext
  · rw [UpdateTakesEffect, locUpdateConf_eq hsingle htable hlen htext, Prod.mk.injEq,
      List.map_inj_left, Int.natCast_inj]
    constructor
    · rintro ⟨hsame, hret⟩
      exact ⟨htext, hret, fun entry hentry => (hsame entry hentry).symm⟩
    · rintro ⟨-, hret, hsame⟩
      exact ⟨fun entry hentry => (hsame entry hentry).symm, hret⟩

/-- An update takes effect whatever the entries held before, exactly if the lines that are
taken name each an entry of its own and the others would set nothing to another value. -/
theorem update_takes_effect [Nontrivial F] (ops : DoubleOps F)
    (hnames : (table.map ParamEntry.param_name).Nodup) (htable : table ≠ [])
    (hlen : table.length < 2 ^ 32) (text : List Char) :
    (∀ table', table'.map shape = table.map shape → UpdateTakesEffect ops text table') ↔
      WithinTable ops text table := by
  have hsingle := sets_single ops hnames
  have hpos := List.length_pos_of_ne_nil htable
  have heach (table' : List (ParamEntry F)) (h : table'.map shape = table.map shape) :
      UpdateTakesEffect ops text table' ↔ text ≠ [] ∧
        (linesTaken ops text table).length =
          table.countP (touches (sets ops) (text.splitOn '\n')) ∧
        ∀ entry ∈ table', (last (sets ops) (text.splitOn '\n') entry).getD entry =
          (last (sets ops) (linesTaken ops text table) entry).getD entry := by
    have hlength : table'.length = table.length := by
      simpa using congrArg List.length h
    have htable' : table' ≠ [] := List.ne_nil_of_length_pos (by omega)
    rw [updateTakesEffect_iff (single_congr h.symm hsingle) htable' (by omega),
      linesTaken_congr h, countP_congr_shape (fun _ _ heq => touches_congr heq _) h]
  obtain ⟨-, hdistinct⟩ := countP_touches hsingle (linesTaken ops text table)
  constructor
  · intro hall
    obtain ⟨htext, hret, -⟩ := (heach table rfl).mp (hall table rfl)
    have hrest : ∀ entry ∈ table, last (sets ops) (text.splitOn '\n') entry =
        last (sets ops) (linesTaken ops text table) entry := by
      intro entry hentry
      apply same_value_iff.mp
      refine forall_table_iff.mp ?_ entry hentry
      intro table' h entry' hentry'
      rw [((heach table' h).mp (hall table' h)).2.2 entry' hentry']
    refine ⟨htext, hdistinct.mp ?_, hrest⟩
    rw [hret]
    apply List.countP_congr
    intro entry hentry
    rw [touches_iff, touches_iff, hrest entry hentry]
  · rintro ⟨htext, htaken, hrest⟩ table' h
    refine (heach table' h).mpr ⟨htext, ?_, ?_⟩
    · rw [← hdistinct.mpr htaken]
      apply List.countP_congr
      intro entry hentry
      rw [touches_iff, touches_iff, hrest entry hentry]
    · refine forall_table_iff.mpr ?_ table' h
      intro entry hentry before hshape
      rw [last_sets_congr hshape, last_sets_congr hshape, hrest entry hentry]

/-- The only parameter of the table is not updated. -/
theorem single_entry_not_updated :
    ¬ UpdateTakesEffect wholeOps "A=1".toList [numberEntry "A" 0] := by
  unfold UpdateTakesEffect
  decide

/-- One line for a table with two parameters. -/
theorem update_takes_effect_two :
    UpdateTakesEffect wholeOps "A=1".toList [numberEntry "A" 0, numberEntry "B" 0] := by
  have hwithin :
      WithinTable wholeOps "A=1".toList [numberEntry "A" 0, numberEntry "B" 0] := by
    refine ⟨by decide, ?_, by decide⟩
    unfold Distinct
    decide
  exact (update_takes_effect wholeOps (by decide) (by decide) (by decide) "A=1".toList).mpr
    hwithin _ rfl

end G2Common.Utils
