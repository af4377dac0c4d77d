import G2Common.Transition
import Mathlib.Data.List.Basic
import Mathlib.Data.Nat.Bitwise

/-!
The `$GPGSA` sentences of `loc_eng_nmea.cpp`, and the satellites and the dilution of
precision that a report of satellites leaves for the report of a position. Time and
buffer sizes are left out, as are the sentences that do not list satellites; a
sentence stands without its checksum.
-/

namespace G2Common.Nmea

open Transition

/-- What the code does with a `float`: it is set to 0, compared with 0 and printed. -/
structure FloatOps (F : Type*) where
  zero : F
  positive : F → Bool
  print : F → List Char
  positive_zero : positive zero = false

/-- The fields of `GpsLocationExtended` that are used. -/
structure LocationExtended (F : Type*) where
  hasDop : Bool
  pdop : F
  hdop : F
  vdop : F
  deriving DecidableEq, Repr

/-- The caches in `loc_eng_data_s_type`. -/
structure Caches (F : Type*) where
  sv_used_mask : UInt32
  pdop : F
  hdop : F
  vdop : F
  deriving DecidableEq, Repr

inductive Input (F : Type*) where
  | generateSv (used_in_fix_mask : UInt32) (locationExtended : LocationExtended F)
  | generatePos (locationExtended : LocationExtended F) (generate_nmea : Bool)
  deriving DecidableEq, Repr

/-- The loop that fills `svUsedList`. The mask has 32 bits, so it is 0 after 32
turns. -/
def svUsedLoop : Nat → UInt32 → Nat → List Nat
  | 0, _, _ => []
  | turns + 1, mask, i =>
      if mask = 0 then []
      else (if mask &&& 1 = 1 then [i] else []) ++ svUsedLoop turns (mask >>> 1) (i + 1)

def svUsedList (mask : UInt32) : List Nat := svUsedLoop 32 mask 1

/-- `"%02d"`. -/
def print02d (n : Nat) : List Char :=
  List.replicate (2 - (Nat.toDigits 10 n).length) '0' ++ Nat.toDigits 10 n

def fixType (svUsedCount : Nat) : Char :=
  if svUsedCount = 0 then '1' else if svUsedCount ≤ 3 then '2' else '3'

/-- One turn of the loop over the first 12 satellites. -/
def svField (svUsedList : List Nat) (i : Nat) : List Char :=
  match svUsedList[i]? with
  | some sv => print02d sv ++ [',']
  | none => [',']

def header (fixType : Char) : List Char := "$GPGSA,A,".toList ++ [fixType, ',']

def blank : List Char := "$GPGSA,A,1,,,,,,,,,,,,,,,".toList

section Sentences

variable {F : Type*} (ops : FloatOps F)

/-- `"%.1f,%.1f,%.1f"`. -/
def printDop (pdop hdop vdop : F) : List Char :=
  ops.print pdop ++ [','] ++ ops.print hdop ++ [','] ++ ops.print vdop

/-- The fields of a dilution of precision that was cached. -/
def cachedDop (pdop hdop vdop : F) : List Char :=
  if ops.positive pdop && ops.positive hdop && ops.positive vdop then printDop ops pdop hdop vdop
  else ",,".toList

/-- The fields of the dilution of precision in a sentence. -/
def dopFields (s : Caches F) (locationExtended : LocationExtended F) : List Char :=
  if locationExtended.hasDop then
    printDop ops locationExtended.pdop locationExtended.hdop locationExtended.vdop
  else cachedDop ops s.pdop s.hdop s.vdop

/-- The sentence of `loc_eng_nmea_generate_pos` for a final fix. -/
def gpgsa (s : Caches F) (locationExtended : LocationExtended F) : List Char :=
  header (fixType (svUsedList s.sv_used_mask).length) ++
    (List.range 12).flatMap (svField (svUsedList s.sv_used_mask)) ++
    dopFields ops s locationExtended

/-- `loc_eng_nmea_generate_pos`. -/
def generatePos (s : Caches F) (locationExtended : LocationExtended F) (generate_nmea : Bool) :
    Caches F × List (List Char) :=
  if generate_nmea then
    (⟨0, ops.zero, ops.zero, ops.zero⟩, [gpgsa ops s locationExtended])
  else ({ s with pdop := ops.zero, hdop := ops.zero, vdop := ops.zero }, [blank])

/-- `loc_eng_nmea_generate_sv`. -/
def generateSv (s : Caches F) (used_in_fix_mask : UInt32) (locationExtended : LocationExtended F) :
    Caches F × List (List Char) :=
  if used_in_fix_mask = 0 then (s, [blank])
  else if locationExtended.hasDop then
    (⟨used_in_fix_mask, locationExtended.pdop, locationExtended.hdop, locationExtended.vdop⟩, [])
  else (⟨used_in_fix_mask, ops.zero, ops.zero, ops.zero⟩, [])

def machine (s : Caches F) : Input F → Caches F × List (List Char)
  | .generateSv used_in_fix_mask locationExtended =>
      generateSv ops s used_in_fix_mask locationExtended
  | .generatePos locationExtended generate_nmea =>
      generatePos ops s locationExtended generate_nmea

def init : Caches F := ⟨0, ops.zero, ops.zero, ops.zero⟩

/-- The last report, if it is one of satellites. -/
def latest : Option (UInt32 × LocationExtended F) → Input F →
    Option (UInt32 × LocationExtended F)
  | _, .generateSv used_in_fix_mask locationExtended => some (used_in_fix_mask, locationExtended)
  | _, .generatePos _ _ => none

/-- The caches together with the report that the next sentence has to list. -/
def step (s : Caches F × Option (UInt32 × LocationExtended F)) (input : Input F) :
    Caches F × Option (UInt32 × LocationExtended F) :=
  ((machine ops s.1 input).1, latest s.2 input)

def start : Caches F × Option (UInt32 × LocationExtended F) := (init ops, none)

/-- The positions of the bits of a mask, counted from 1. -/
def bitPositions (mask : UInt32) : List Nat :=
  ((List.range 32).filter mask.toNat.testBit).map (· + 1)

/-- Satellites in their twelve fields. -/
def listing (svs : List Nat) : List Char :=
  svs.flatMap (fun sv => print02d sv ++ [',']) ++ List.replicate (12 - svs.length) ','

/-- The mask of the latest report. -/
def latestMask (report : Option (UInt32 × LocationExtended F)) : UInt32 :=
  (report.map Prod.fst).getD 0

/-- The dilution of precision of the latest report. -/
def latestDop (report : Option (UInt32 × LocationExtended F)) : List Char :=
  match report with
  | some (_, ext) => if ext.hasDop then cachedDop ops ext.pdop ext.hdop ext.vdop else ",,".toList
  | none => ",,".toList

/-- A sentence that is not blank lists the satellites of the latest report and has its
dilution of precision, unless the position has one. -/
def Lists (s : Caches F × Option (UInt32 × LocationExtended F)) (input : Input F) : Prop :=
  ∀ sentence ∈ (machine ops s.1 input).2, sentence ≠ blank →
    ∃ fixType, sentence = header fixType ++ listing ((bitPositions (latestMask s.2)).take 12) ++
      match input with
      | .generateSv _ _ => latestDop ops s.2
      | .generatePos ext _ =>
          if ext.hasDop then printDop ops ext.pdop ext.hdop ext.vdop else latestDop ops s.2

/-- A final fix comes right after a report with satellites, or no older report has left
its satellites in the cache. -/
def Fresh (s : Caches F × Option (UInt32 × LocationExtended F)) (input : Input F) : Prop :=
  match input with
  | .generatePos _ true => latestMask s.2 = 0 → s.1.sv_used_mask = 0
  | _ => True

end Sentences

theorem svUsedLoop_eq {turns : Nat} {mask : UInt32} (h : mask.toNat < 2 ^ turns) (i : Nat) :
    svUsedLoop turns mask i = ((List.range turns).filter mask.toNat.testBit).map (· + i) := by
  induction turns generalizing mask i with
  | zero => rfl
  | succ turns ih =>
      have hshift : (mask >>> 1).toNat = mask.toNat / 2 := by
        rw [UInt32.toNat_shiftRight]
        exact Nat.shiftRight_one _
      have hbit : mask &&& 1 = 1 ↔ mask.toNat.testBit 0 = true := by
        rw [← UInt32.toNat_inj, UInt32.toNat_and]
        simp [Nat.testBit_zero, Nat.and_one_is_mod]
      have hhalf : (mask >>> 1).toNat < 2 ^ turns := by
        rw [hshift]
        omega
      have htail : mask.toNat.testBit ∘ Nat.succ = (mask.toNat / 2).testBit := by
        funext b
        exact Nat.testBit_succ mask.toNat b
      have hshifted (bits : List Nat) :
          bits.map (· + (i + 1)) = (bits.map Nat.succ).map (· + i) := by
        rw [List.map_map]
        apply List.map_congr_left
        intro b _
        simp only [Function.comp_def]
        omega
      rw [svUsedLoop, ih hhalf, hshift, List.range_succ_eq_map, List.filter_cons, List.filter_map,
        htail, hshifted]
      split
      · rename_i hzero
        simp [hzero]
      · by_cases hlow : mask &&& 1 = 1
        · rw [if_pos hlow, if_pos (hbit.mp hlow)]
          simp
        · rw [if_neg hlow, if_neg (mt hbit.mpr hlow)]
          simp

theorem svUsedList_eq (mask : UInt32) : svUsedList mask = bitPositions mask :=
  svUsedLoop_eq mask.toNat_lt 1

/-- The loop over the first `n` satellites. -/
theorem flatMap_svField (svs : List Nat) (n : Nat) :
    (List.range n).flatMap (svField svs) =
      (svs.take n).flatMap (fun sv => print02d sv ++ [',']) ++
        List.replicate (n - (svs.take n).length) ',' := by
  induction n generalizing svs with
  | zero => rfl
  | succ n ih =>
      rw [List.range_succ_eq_map, List.flatMap_cons, List.flatMap_map]
      have hfield : (fun i => svField svs i.succ) = svField svs.tail := by
        funext i
        cases svs <;> simp [svField]
      rw [hfield, ih svs.tail]
      cases svs with
      | nil => simp [svField, List.replicate_succ]
      | cons sv svs => simp [svField]

theorem gpgsa_eq {F : Type*} (ops : FloatOps F) (s : Caches F) (ext : LocationExtended F) :
    gpgsa ops s ext = header (fixType (svUsedList s.sv_used_mask).length) ++
      listing ((bitPositions s.sv_used_mask).take 12) ++ dopFields ops s ext := by
  rw [gpgsa, flatMap_svField, svUsedList_eq]
  rfl

theorem bitPositions_ne_nil {mask : UInt32} (h : mask ≠ 0) : bitPositions mask ≠ [] := by
  intro hnil
  apply h
  apply UInt32.toNat_inj.mp
  apply Nat.eq_of_testBit_eq
  intro b
  rcases Nat.lt_or_ge b 32 with hlt | hge
  · have hbits : (List.range 32).filter mask.toNat.testBit = [] := by
      simpa [bitPositions] using hnil
    simpa using List.filter_eq_nil_iff.mp hbits b (List.mem_range.mpr hlt)
  · have hbig : mask.toNat < 2 ^ b :=
      Nat.lt_of_lt_of_le mask.toNat_lt (Nat.pow_le_pow_right (by omega) hge)
    simp [Nat.testBit_lt_two_pow hbig]

theorem bitPositions_zero : bitPositions 0 = [] := by decide

theorem bitPositions_le {mask : UInt32} {sv : Nat} (h : sv ∈ bitPositions mask) : sv ≤ 32 := by
  simp [bitPositions] at h
  omega

/-- No satellite is printed as an empty field. -/
theorem print02d_head {sv : Nat} (h : sv ≤ 32) : (print02d sv).head? ≠ some ',' := by
  have hall : ∀ sv : Fin 33, (print02d sv).head? ≠ some ',' := by decide
  exact hall ⟨sv, by omega⟩

theorem print02d_ne_nil (sv : Nat) : print02d sv ≠ [] := by
  simp [print02d, Nat.toDigits_ne_nil]

/-- Only no satellites leave all fields empty. -/
theorem listing_injective {mask : UInt32} {fields fields' : List Char}
    (h : listing ((bitPositions mask).take 12) ++ fields = listing [] ++ fields') : mask = 0 := by
  by_contra hmask
  cases hsvs : bitPositions mask with
  | nil => exact bitPositions_ne_nil hmask hsvs
  | cons sv svs =>
      have hhead := print02d_head (bitPositions_le (by rw [hsvs]; exact List.mem_cons_self))
      rw [hsvs, List.take_succ_cons] at h
      have hcomma := congrArg List.head? h
      obtain ⟨c, cs, hprint⟩ := List.exists_cons_of_ne_nil (print02d_ne_nil sv)
      simp [listing, hprint, List.replicate_succ] at hcomma hhead
      exact hhead hcomma

theorem sentence_injective {mask : UInt32} {c c' : Char} {fields fields' : List Char}
    (h : header c ++ listing ((bitPositions mask).take 12) ++ fields =
      header c' ++ listing [] ++ fields') : mask = 0 := by
  rw [List.append_assoc, List.append_assoc] at h
  exact listing_injective (List.append_inj_right h rfl)

section Runs

variable {F : Type*} (ops : FloatOps F)

/-- What the caches hold of the latest report. -/
structure Cached (s : Caches F × Option (UInt32 × LocationExtended F)) : Prop where
  unused : s.1.sv_used_mask = 0 → cachedDop ops s.1.pdop s.1.hdop s.1.vdop = ",,".toList
  mask : latestMask s.2 ≠ 0 → s.1.sv_used_mask = latestMask s.2
  dop : latestMask s.2 ≠ 0 → cachedDop ops s.1.pdop s.1.hdop s.1.vdop = latestDop ops s.2

theorem cachedDop_zero : cachedDop ops ops.zero ops.zero ops.zero = ",,".toList := by
  simp [cachedDop, ops.positive_zero]

theorem cached_start : Cached ops (start ops) where
  unused _ := cachedDop_zero ops
  mask h := absurd rfl h
  dop h := absurd rfl h

theorem cached_step {s : Caches F × Option (UInt32 × LocationExtended F)} (h : Cached ops s)
    (input : Input F) : Cached ops (step ops s input) := by
  cases input with
  | generateSv used_in_fix_mask ext =>
      by_cases hmask : used_in_fix_mask = 0
      · constructor
        · simpa [step, machine, generateSv, hmask] using h.unused
        · simp [step, latest, latestMask, hmask]
        · simp [step, latest, latestMask, hmask]
      · constructor
        · intro hused
          simp [step, machine, generateSv, hmask] at hused
          split at hused <;> exact absurd hused hmask
        · intro _
          simp [step, machine, generateSv, latest, latestMask, hmask]
          split <;> rfl
        · intro _
          simp [step, machine, generateSv, latest, latestDop, hmask]
          split
          · rfl
          · exact cachedDop_zero ops
  | generatePos ext generate_nmea =>
      constructor
      · intro _
        cases generate_nmea <;> exact cachedDop_zero ops
      · simp [step, latest, latestMask]
      · simp [step, latest, latestMask]

theorem blank_eq : blank = header '1' ++ listing [] ++ ",,".toList := by decide

/-- A final fix without satellites and dilution of precision. -/
theorem gpgsa_blank {s : Caches F} {ext : LocationExtended F} (hmask : s.sv_used_mask = 0)
    (hext : ext.hasDop = false) (hdop : cachedDop ops s.pdop s.hdop s.vdop = ",,".toList) :
    gpgsa ops s ext = blank := by
  have hfields : dopFields ops s ext = ",,".toList := by
    rw [dopFields, hext, hdop]
    rfl
  rw [gpgsa, hfields, hmask]
  decide

theorem lists_iff_fresh {s : Caches F × Option (UInt32 × LocationExtended F)}
    (h : Cached ops s) (input : Input F) : Lists ops s input ↔ Fresh s input := by
  cases input with
  | generateSv used_in_fix_mask ext =>
      apply iff_of_true _ trivial
      intro sentence hsentence hblank
      simp only [machine, generateSv] at hsentence
      split at hsentence
      · exact absurd (List.mem_singleton.mp hsentence) hblank
      · split at hsentence <;> cases hsentence
  | generatePos ext generate_nmea =>
      cases generate_nmea with
      | false =>
          apply iff_of_true _ trivial
          intro sentence hsentence hblank
          exact absurd (List.mem_singleton.mp hsentence) hblank
      | true =>
          constructor
          · intro hlists hmask
            by_contra hstale
            have hblank : gpgsa ops s.1 ext ≠ blank := by
              intro heq
              rw [gpgsa_eq, blank_eq] at heq
              exact hstale (sentence_injective heq)
            obtain ⟨fixType, hsentence⟩ :=
              hlists (gpgsa ops s.1 ext) (List.mem_singleton_self _) hblank
            rw [gpgsa_eq, hmask, bitPositions_zero, List.take_nil] at hsentence
            exact hstale (sentence_injective hsentence)
          · intro hfresh sentence hsentence hblank
            rw [List.mem_singleton.mp hsentence] at hblank ⊢
            refine ⟨fixType (svUsedList s.1.sv_used_mask).length, ?_⟩
            rw [gpgsa_eq]
            by_cases hmask : latestMask s.2 = 0
            · have hused := hfresh hmask
              cases hext : ext.hasDop with
              | false => exact absurd (gpgsa_blank ops hused hext (h.unused hused)) hblank
              | true => simp only [hused, hmask, dopFields, hext, if_true]
            · simp only [h.mask hmask, h.dop hmask, dopFields]

/-- The sentences of a run list the satellites and the dilution of precision of the
latest report exactly if each final fix finds no satellites of an older one. -/
theorem sentences_list_latest (inputs : List (Input F)) :
    Meets (step ops) (Lists ops) (start ops) inputs ↔
      Meets (step ops) Fresh (start ops) inputs := by
  have hinv (s : Caches F × Option (UInt32 × LocationExtended F)) (input : Input F)
      (h : Cached ops s) := cached_step ops h input
  exact meets_congr hinv (fun _ input h => lists_iff_fresh ops h input) (cached_start ops) inputs

end Runs

/-- Numbers that are printed without their tenths. -/
def tenths : FloatOps Nat where
  zero := 0
  positive n := 0 < n
  print n := Nat.toDigits 10 n
  positive_zero := rfl

def withoutDop : LocationExtended Nat := ⟨false, 0, 0, 0⟩

/-- The satellites of a report, then a fix that is not final and one that is. -/
def staleRun : List (Input Nat) :=
  [.generateSv 5 withoutDop, .generatePos withoutDop false, .generatePos withoutDop true]

/-- The fix that is not final clears the dilution of precision, but leaves the
satellites for the next one. -/
theorem satellites_left : ¬ Meets (step tenths) (Lists tenths) (start tenths) staleRun := by
  intro h
  have hcached := cached_step tenths
    (cached_step tenths (cached_start tenths) (.generateSv 5 withoutDop))
    (.generatePos withoutDop false)
  have hfresh := (lists_iff_fresh tenths hcached (.generatePos withoutDop true)).mp h.2.2.1
  exact absurd (hfresh rfl) (by decide)

end G2Common.Nmea
