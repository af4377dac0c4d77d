import G2Common.Nmea.Gsa
import G2Common.Nmea.Sentence

/-!
The `$GPGSV` and `$GLGSV` sentences of `loc_eng_nmea_generate_sv`. The satellites of both
constellations and others stand in one list, and each constellation is read off it by a cursor
that goes on from sentence to sentence. The cursor is modelled by the satellites that are left.
-/

namespace G2Common.Nmea.Gsv

open Decimal

def GPS_PRN_START : Int := 1

def GPS_PRN_END : Int := 32

def GLONASS_PRN_START : Int := 65

def GLONASS_PRN_END : Int := 96

def GPS_MAX_SVS : Nat := 32

structure GpsSvInfo (F : Type) where
  prn : Int
  snr : F
  elevation : F
  azimuth : F
  deriving DecidableEq, Repr

structure GpsSvStatus (F : Type) where
  num_svs : Nat
  sv_list : Vector (GpsSvInfo F) GPS_MAX_SVS
  used_in_fix_mask : UInt32
  num_svs_le : num_svs ≤ GPS_MAX_SVS

/-- The satellites in view. -/
def GpsSvStatus.svs {F : Type} (svStatus : GpsSvStatus F) : List (GpsSvInfo F) :=
  svStatus.sv_list.toList.take svStatus.num_svs

/-- What is done with the numbers of a satellite; `rounded` is `(int)(0.5 + x)`. -/
structure SvFloatOps (F : Type) extends FloatOps F where
  rounded : F → Int

section Code

variable {F : Type} (ops : SvFloatOps F)

def isGps (sv : GpsSvInfo F) : Bool := GPS_PRN_START ≤ sv.prn && sv.prn ≤ GPS_PRN_END

def isGlonass (sv : GpsSvInfo F) : Bool :=
  GLONASS_PRN_START ≤ sv.prn && sv.prn ≤ GLONASS_PRN_END

/-- The first loop: `gpsCount` and `glnCount`. -/
def counts (svs : List (GpsSvInfo F)) : Nat × Nat :=
  svs.foldl (fun (gpsCount, glnCount) sv =>
    if isGps sv then (gpsCount + 1, glnCount)
    else if isGlonass sv then (gpsCount, glnCount + 1)
    else (gpsCount, glnCount)) (0, 0)

/-- `"$..GSV,%d,%d,%02d"` -/
def gsvHeader (talker : List Char) (sentenceCount sentenceNumber count : Nat) : List Char :=
  talker ++ [','] ++ printInt 0 sentenceCount ++ [','] ++ printInt 0 sentenceNumber ++ [','] ++
    printInt 2 count

/-- `",%02d,%02d,%03d,"` -/
def svPosition (sv : GpsSvInfo F) : List Char :=
  [','] ++ printInt 2 sv.prn ++ [','] ++ printInt 2 (ops.rounded sv.elevation) ++ [','] ++
    printInt 3 (ops.rounded sv.azimuth) ++ [',']

/-- `"%02d"` -/
def svSnr (sv : GpsSvInfo F) : List Char := printInt 2 (ops.rounded sv.snr)

/-- A satellite behind the text, the last field only where it has a signal. -/
def appendSv (text : List Char) (sv : GpsSvInfo F) : Option (List Char) := do
  let text ← append text (svPosition ops sv)
  if ops.positive sv.snr then append text (svSnr ops sv) else some text

/-- The loop over the satellites of one sentence, with the number of places that are left. -/
def svLoop (isIn : GpsSvInfo F → Bool) :
    Nat → List (GpsSvInfo F) → List Char → Option (List Char × List (GpsSvInfo F))
  | 0, svs, text => some (text, svs)
  | _ + 1, [], text => some (text, [])
  | places + 1, sv :: svs, text =>
      if isIn sv then do
        let text ← appendSv ops text sv
        svLoop isIn places svs text
      else svLoop isIn (places + 1) svs text

/-- The loop over the sentences of a constellation, with the number of turns that are left:
the sentences that were sent, and whether the function goes on. -/
def gsvLoop (talker : List Char) (isIn : GpsSvInfo F → Bool) (sentenceCount count : Nat) :
    Nat → Nat → List (GpsSvInfo F) → List (List Char) × Bool
  | 0, _, _ => ([], true)
  | turns + 1, sentenceNumber, svs =>
      match append [] (gsvHeader talker sentenceCount sentenceNumber count) >>=
          svLoop ops isIn 4 svs with
      | none => ([], false)
      | some (text, svs) =>
          let (more, goesOn) := gsvLoop talker isIn sentenceCount count turns
            (sentenceNumber + 1) svs
          (text :: more, goesOn)

/-- The sentences of a constellation. -/
def gsv (talker : List Char) (isIn : GpsSvInfo F → Bool) (count : Nat)
    (svs : List (GpsSvInfo F)) : List (List Char) × Bool :=
  if count = 0 then ([talker ++ ",1,1,0,".toList], true)
  else
    let sentenceCount := count / 4 + (if count % 4 ≠ 0 then 1 else 0)
    gsvLoop ops talker isIn sentenceCount count sentenceCount 1 svs

def gpgsv : List Char := "$GPGSV".toList

def glgsv : List Char := "$GLGSV".toList

/-- What is sent where there will be no position report. -/
def blanks : List (List Char) :=
  [blank, "$GPVTG,,T,,M,,N,,K,N".toList, "$GPRMC,,V,,,,,,,,,,N".toList,
    "$GPGGA,,,,,,0,,,,,,,,".toList]

/-- `loc_eng_nmea_generate_sv`: the caches, the sentences, and whether the function comes to
its end. -/
def generateSv (s : Caches F) (svStatus : GpsSvStatus F)
    (locationExtended : LocationExtended F) : Caches F × List (List Char) × Bool :=
  let (gpsCount, glnCount) := counts svStatus.svs
  match gsv ops gpgsv isGps gpsCount svStatus.svs with
  | (gps, false) => (s, gps, false)
  | (gps, true) =>
      match gsv ops glgsv isGlonass glnCount svStatus.svs with
      | (gln, false) => (s, gps ++ gln, false)
      | (gln, true) =>
          ((Nmea.generateSv ops.toFloatOps s svStatus.used_in_fix_mask locationExtended).1,
            gps ++ gln ++ (if svStatus.used_in_fix_mask = 0 then blanks else []), true)

/-- The satellites of the sentence `k`, counted from 0. -/
def chunk {α : Type*} (l : List α) (k : Nat) : List α := (l.drop (4 * k)).take 4

def svText (sv : GpsSvInfo F) : List Char :=
  svPosition ops sv ++ if ops.positive sv.snr then svSnr ops sv else []

/-- The texts for the satellites of a constellation: one without satellites, or four
satellites in each but the last. -/
def sentencesFor (talker : List Char) (svs : List (GpsSvInfo F)) : List (List Char) :=
  if svs = [] then [talker ++ ",1,1,0,".toList]
  else
    (List.range ((svs.length + 3) / 4)).map fun k =>
      gsvHeader talker ((svs.length + 3) / 4) (k + 1) svs.length ++
        (chunk svs k).flatMap (svText ops)

/-- What a sentence says of a satellite, with the signal where it is given. -/
structure SvRead where
  prn : Int
  elevation : Int
  azimuth : Int
  snr : Option Int
  deriving DecidableEq, Repr

/-- A sentence about satellites in view, as it is read: how many sentences there are, which of
them it is, how many satellites are in view, and those that it lists. -/
structure GsvRead where
  talker : List Char
  total : Int
  number : Int
  inView : Int
  svs : List SvRead
  deriving DecidableEq, Repr

def readSnr (field : List Char) : Option (Option Int) :=
  if field = [] then some none else (readInt field).map some

/-- Four fields for each satellite. -/
def readSvs : List (List Char) → Option (List SvRead)
  | [] => some []
  | prn :: elevation :: azimuth :: snr :: rest => do
      let sv : SvRead :=
        ⟨← readInt prn, ← readInt elevation, ← readInt azimuth, ← readSnr snr⟩
      let svs ← readSvs rest
      return sv :: svs
  | _ => none

/-- The fields behind the number of satellites; an empty one is that of no satellite. -/
def readGsv (text : List Char) : Option GsvRead :=
  match fields text with
  | talker :: total :: number :: inView :: rest => do
      let svs ← if rest = [[]] then some [] else readSvs rest
      return ⟨talker, ← readInt total, ← readInt number, ← readInt inView, svs⟩
  | _ => none

/-- A satellite whose PRN is in a range. -/
def prnIn (low high : Int) (sv : GpsSvInfo F) : Bool := low ≤ sv.prn ∧ sv.prn ≤ high

/-- What is to be read of a satellite. -/
def svValues (sv : GpsSvInfo F) : SvRead where
  prn := sv.prn
  elevation := ops.rounded sv.elevation
  azimuth := ops.rounded sv.azimuth
  snr := if ops.positive sv.snr then some (ops.rounded sv.snr) else none

/-- What is read of the sentences is the satellites, four in each sentence but the last. -/
structure Partition (talker : List Char) (svs : List (GpsSvInfo F))
    (sentences : List (List Char)) : Prop where
  empty : svs = [] → sentences = [talker ++ ",1,1,0,".toList]
  length : svs ≠ [] → sentences.length = (svs.length + 3) / 4
  each : svs ≠ [] → ∀ (k : Nat) (text : List Char), sentences[k]? = some text →
    readGsv text = some ⟨talker, sentences.length, k + 1, svs.length,
      ((svs.drop (4 * k)).take 4).map (svValues ops)⟩
  all : (sentences.filterMap readGsv).flatMap (·.svs) = svs.map (svValues ops)

end Code

section Chunks

variable {α : Type*} (l : List α)

theorem flatMap_chunk_take (k : Nat) : (List.range k).flatMap (chunk l) = l.take (4 * k) := by
  induction k with
  | zero => rfl
  | succ k ih =>
      rw [List.range_succ, List.flatMap_append, ih, List.flatMap_singleton, chunk,
        Nat.mul_succ, List.take_add]

/-- The chunks are the list, in order and nothing twice. -/
theorem flatMap_chunk : (List.range ((l.length + 3) / 4)).flatMap (chunk l) = l := by
  rw [flatMap_chunk_take, List.take_of_length_le (by omega)]

theorem chunk_drop (k : Nat) : chunk (l.drop 4) k = chunk l (k + 1) := by
  rw [chunk, List.drop_drop, chunk, Nat.mul_succ, Nat.add_comm 4]

end Chunks

section Loops

variable {F : Type} (ops : SvFloatOps F) {isIn : GpsSvInfo F → Bool}

theorem isGlonass_of_isGps {sv : GpsSvInfo F} (h : isGps sv = true) : isGlonass sv = false := by
  have hgps : GPS_PRN_START ≤ sv.prn ∧ sv.prn ≤ GPS_PRN_END := by simpa [isGps] using h
  rw [← Bool.not_eq_true]
  intro hglonass
  have hin : GLONASS_PRN_START ≤ sv.prn ∧ sv.prn ≤ GLONASS_PRN_END := by
    simpa [isGlonass] using hglonass
  have hapart : GPS_PRN_END < GLONASS_PRN_START := by decide
  omega

theorem counts_eq (svs : List (GpsSvInfo F)) :
    counts svs = ((svs.filter isGps).length, (svs.filter isGlonass).length) := by
  have hloop (gpsCount glnCount : Nat) :
      svs.foldl (fun (gpsCount, glnCount) sv =>
        if isGps sv then (gpsCount + 1, glnCount)
        else if isGlonass sv then (gpsCount, glnCount + 1)
        else (gpsCount, glnCount)) (gpsCount, glnCount) =
      (gpsCount + (svs.filter isGps).length, glnCount + (svs.filter isGlonass).length) := by
    induction svs generalizing gpsCount glnCount with
    | nil => rfl
    | cons sv svs ih =>
        rw [List.foldl_cons]
        cases hgps : isGps sv with
        | true =>
            simp only [hgps, if_true, ih, List.filter_cons_of_pos, List.length_cons,
              List.filter_cons, isGlonass_of_isGps hgps, Bool.false_eq_true, if_false,
              Nat.add_assoc, Nat.add_comm 1]
        | false =>
            cases hglonass : isGlonass sv with
            | true =>
                simp only [hgps, hglonass, Bool.false_eq_true, if_false, if_true, ih,
                  List.filter_cons, List.length_cons, Nat.add_assoc, Nat.add_comm 1]
            | false =>
                simp only [hgps, hglonass, Bool.false_eq_true, if_false, ih, List.filter_cons]
  have hall := hloop 0 0
  rwa [Nat.zero_add, Nat.zero_add] at hall

theorem appendSv_eq {text t : List Char} {sv : GpsSvInfo F}
    (h : appendSv ops text sv = some t) : t = text ++ svText ops sv := by
  obtain ⟨withPosition, hposition, h⟩ := Option.bind_eq_some_iff.mp h
  obtain ⟨rfl, -⟩ := append_eq_some.mp hposition
  rw [svText]
  split at h
  case isTrue hsnr => rw [if_pos hsnr, (append_eq_some.mp h).1, List.append_assoc]
  case isFalse hsnr =>
    cases h
    rw [if_neg hsnr, List.append_nil]

/-- The cursor goes over the satellites of a sentence and those between them. -/
theorem svLoop_eq {places : Nat} {svs rest : List (GpsSvInfo F)} {text t : List Char}
    (h : svLoop ops isIn places svs text = some (t, rest)) :
    t = text ++ ((svs.filter isIn).take places).flatMap (svText ops) ∧
      rest.filter isIn = (svs.filter isIn).drop places := by
  induction svs generalizing places text with
  | nil =>
      cases places <;> cases h <;> simp
  | cons sv svs ih =>
      cases places with
      | zero =>
          cases h
          simp
      | succ places =>
          rw [svLoop] at h
          split at h
          case isTrue hin =>
            obtain ⟨next, hnext, h⟩ := Option.bind_eq_some_iff.mp h
            obtain ⟨ht, hrest⟩ := ih h
            rw [List.filter_cons_of_pos hin, List.take_succ_cons, List.flatMap_cons,
              List.drop_succ_cons, ht, appendSv_eq ops hnext, List.append_assoc]
            exact ⟨rfl, hrest⟩
          case isFalse hout =>
            rw [List.filter_cons_of_neg hout]
            exact ih h

theorem gsvLoop_eq {talker : List Char} {sentenceCount count turns sentenceNumber : Nat}
    {svs : List (GpsSvInfo F)}
    (h : (gsvLoop ops talker isIn sentenceCount count turns sentenceNumber svs).2 = true) :
    (gsvLoop ops talker isIn sentenceCount count turns sentenceNumber svs).1 =
      (List.range turns).map fun k =>
        gsvHeader talker sentenceCount (sentenceNumber + k) count ++
          (chunk (svs.filter isIn) k).flatMap (svText ops) := by
  induction turns generalizing sentenceNumber svs with
  | zero => rfl
  | succ turns ih =>
      rw [gsvLoop] at h ⊢
      split at h
      case h_1 => cases h
      case h_2 text rest hsentence =>
        obtain ⟨header, hheader, hsatellites⟩ := Option.bind_eq_some_iff.mp hsentence
        obtain ⟨hempty, -⟩ := append_eq_some.mp hheader
        obtain ⟨htext, hrest⟩ := svLoop_eq ops hsatellites
        have hmore := ih h
        have hnext (k : Nat) : sentenceNumber + 1 + k = sentenceNumber + (k + 1) := by omega
        rw [List.range_succ_eq_map, List.map_cons, List.map_map, htext, hempty]
        simp only [hmore, hrest, chunk_drop, hnext]
        rfl

/-- A constellation gets its sentences, unless one of them does not fit. -/
theorem gsv_eq {talker : List Char} {svs : List (GpsSvInfo F)}
    (h : (gsv ops talker isIn (svs.filter isIn).length svs).2 = true) :
    (gsv ops talker isIn (svs.filter isIn).length svs).1 =
      sentencesFor ops talker (svs.filter isIn) := by
  generalize hcount : (svs.filter isIn).length = count at h ⊢
  have hempty : svs.filter isIn = [] ↔ count = 0 := by
    rw [← hcount, List.length_eq_zero_iff]
  rw [gsv] at h ⊢
  rw [sentencesFor, hcount]
  split
  case isTrue hzero => rw [if_pos (hempty.mpr hzero)]
  case isFalse hpos =>
    rw [if_neg (mt hempty.mp hpos)]
    have hceil : count / 4 + (if count % 4 ≠ 0 then 1 else 0) = (count + 3) / 4 := by
      split <;> omega
    rw [if_neg hpos] at h
    rw [hceil] at h ⊢
    rw [gsvLoop_eq ops h]
    apply List.map_congr_left
    intro k _
    rw [Nat.add_comm 1 k]

theorem isGps_eq : (isGps : GpsSvInfo F → Bool) = prnIn 1 32 := by
  funext sv
  rw [prnIn, Bool.decide_and]
  rfl

theorem isGlonass_eq : (isGlonass : GpsSvInfo F → Bool) = prnIn 65 96 := by
  funext sv
  rw [prnIn, Bool.decide_and]
  rfl

/-- The sentences of both constellations, where all of them fit. -/
theorem generateSv_eq {s : Caches F} {svStatus : GpsSvStatus F}
    {locationExtended : LocationExtended F}
    (h : (generateSv ops s svStatus locationExtended).2.2 = true) :
    (generateSv ops s svStatus locationExtended).2.1 =
      sentencesFor ops "$GPGSV".toList (svStatus.svs.filter (prnIn 1 32)) ++
        sentencesFor ops "$GLGSV".toList (svStatus.svs.filter (prnIn 65 96)) ++
        (if svStatus.used_in_fix_mask = 0 then blanks else []) := by
  rw [← isGps_eq, ← isGlonass_eq]
  change _ = sentencesFor ops gpgsv _ ++ sentencesFor ops glgsv _ ++ _
  rw [generateSv, counts_eq] at h ⊢
  dsimp only at h ⊢
  cases hgps : gsv ops gpgsv isGps (svStatus.svs.filter isGps).length svStatus.svs with
  | mk gps goesOn =>
      cases goesOn with
      | false => simp only [hgps, Bool.false_eq_true] at h
      | true =>
          cases hgln : gsv ops glgsv isGlonass (svStatus.svs.filter isGlonass).length
              svStatus.svs with
          | mk gln goesOn =>
              cases goesOn with
              | false => simp only [hgps, hgln, Bool.false_eq_true] at h
              | true =>
                  rw [← gsv_eq ops (congrArg Prod.snd hgps), ← gsv_eq ops (congrArg Prod.snd hgln),
                    hgps, hgln]

end Loops

section Read

variable {F : Type} (ops : SvFloatOps F) {talker : List Char} {svs : List (GpsSvInfo F)}

/-- The fields of a satellite, behind the comma in front of them. -/
def svFields (sv : GpsSvInfo F) : List (List Char) :=
  [printInt 2 sv.prn, printInt 2 (ops.rounded sv.elevation), printInt 3 (ops.rounded sv.azimuth),
    if ops.positive sv.snr then svSnr ops sv else []]

theorem svText_eq (sv : GpsSvInfo F) :
    svText ops sv = ',' :: (printInt 2 sv.prn ++ ',' :: (printInt 2 (ops.rounded sv.elevation) ++
      ',' :: (printInt 3 (ops.rounded sv.azimuth) ++
        ',' :: if ops.positive sv.snr then svSnr ops sv else []))) := by
  simp [svText, svPosition]

/-- Each satellite begins with a comma, which ends the field before it. -/
theorem fields_svs {field : List Char} (h : ',' ∉ field) :
    fields (field ++ svs.flatMap (svText ops)) = field :: svs.flatMap (svFields ops) := by
  induction svs generalizing field with
  | nil =>
      rw [List.flatMap_nil, List.append_nil]
      exact fields_of_notMem h
  | cons sv svs ih =>
      have hsnr : ',' ∉ if ops.positive sv.snr then svSnr ops sv else [] := by
        split
        · exact comma_notMem_printInt 2 _
        · exact List.not_mem_nil
      rw [List.flatMap_cons, svText_eq, List.flatMap_cons]
      simp only [List.cons_append, List.append_assoc]
      rw [fields_comma h, fields_comma (comma_notMem_printInt 2 _),
        fields_comma (comma_notMem_printInt 2 _), fields_comma (comma_notMem_printInt 3 _),
        ih hsnr]
      rfl

theorem readSvs_svFields (svs : List (GpsSvInfo F)) :
    readSvs (svs.flatMap (svFields ops)) = some (svs.map (svValues ops)) := by
  induction svs with
  | nil => rfl
  | cons sv svs ih =>
      have hsnr : readSnr (if ops.positive sv.snr then svSnr ops sv else []) =
          some (if ops.positive sv.snr then some (ops.rounded sv.snr) else none) := by
        split
        · rw [readSnr, svSnr, if_neg (printInt_ne_nil 2 _), readInt_printInt]
          rfl
        · rfl
      rw [List.flatMap_cons, svFields, List.cons_append, List.cons_append, List.cons_append,
        List.cons_append, List.nil_append, readSvs, readInt_printInt, readInt_printInt,
        readInt_printInt, hsnr, ih]
      rfl

theorem flatMap_svFields_ne (svs : List (GpsSvInfo F)) : svs.flatMap (svFields ops) ≠ [[]] := by
  cases svs with
  | nil => simp
  | cons sv svs => simp [svFields]

theorem readGsv_sentence (htalker : ',' ∉ talker) (total number inView : Nat)
    (svs : List (GpsSvInfo F)) :
    readGsv (gsvHeader talker total number inView ++ svs.flatMap (svText ops)) =
      some ⟨talker, total, number, inView, svs.map (svValues ops)⟩ := by
  have hfields : fields (gsvHeader talker total number inView ++ svs.flatMap (svText ops)) =
      talker :: printInt 0 total :: printInt 0 number :: printInt 2 inView ::
        svs.flatMap (svFields ops) := by
    simp only [gsvHeader, List.append_assoc, List.cons_append, List.nil_append]
    rw [fields_comma htalker, fields_comma (comma_notMem_printInt 0 _),
      fields_comma (comma_notMem_printInt 0 _), fields_svs ops (comma_notMem_printInt 2 _)]
  rw [readGsv, hfields]
  dsimp only
  rw [if_neg (flatMap_svFields_ne ops svs), readSvs_svFields, readInt_printInt, readInt_printInt,
    readInt_printInt]
  rfl

theorem readGsv_empty (htalker : ',' ∉ talker) :
    readGsv (talker ++ ",1,1,0,".toList) = some ⟨talker, 1, 1, 0, []⟩ := by
  have hfields : fields (talker ++ ",1,1,0,".toList) = [talker, ['1'], ['1'], ['0'], []] :=
    fields_comma htalker _
  rw [readGsv, hfields]
  rfl

theorem partition_sentencesFor (htalker : ',' ∉ talker) (svs : List (GpsSvInfo F)) :
    Partition ops talker svs (sentencesFor ops talker svs) := by
  by_cases hsvs : svs = []
  · have hsentences : sentencesFor ops talker svs = [talker ++ ",1,1,0,".toList] := if_pos hsvs
    rw [hsentences]
    refine ⟨fun _ => rfl, fun h => absurd hsvs h, fun h => absurd hsvs h, ?_⟩
    rw [List.filterMap_cons_some (readGsv_empty htalker), hsvs]
    rfl
  · have hsentences : sentencesFor ops talker svs =
        (List.range ((svs.length + 3) / 4)).map fun k =>
          gsvHeader talker ((svs.length + 3) / 4) (k + 1) svs.length ++
            (chunk svs k).flatMap (svText ops) := if_neg hsvs
    have hlength : (sentencesFor ops talker svs).length = (svs.length + 3) / 4 := by
      rw [hsentences, List.length_map, List.length_range]
    refine ⟨fun h => absurd h hsvs, fun _ => hlength, fun _ k text htext => ?_, ?_⟩
    · rw [hsentences, List.getElem?_map, Option.map_eq_some_iff] at htext
      obtain ⟨k', hk, rfl⟩ := htext
      obtain ⟨_, rfl⟩ := List.getElem?_eq_some_iff.mp hk
      rw [List.getElem_range, readGsv_sentence ops htalker, hlength]
      rfl
    · have hread (k : Nat) : readGsv (gsvHeader talker ((svs.length + 3) / 4) (k + 1) svs.length ++
          (chunk svs k).flatMap (svText ops)) = some _ :=
        readGsv_sentence ops htalker _ _ _ _
      rw [hsentences, List.filterMap_map]
      simp only [Function.comp_def, hread]
      rw [List.filterMap_eq_map', List.flatMap_map]
      simp only [← List.map_flatMap]
      rw [flatMap_chunk]

end Read

/-- Where no segment overflows, what is read of the sentences of each constellation is its
satellites in sentences of four, numbered and counted, each satellite once with its own values
and in the order of the report, and nothing else. -/
theorem gsv_partitions_satellites {F : Type} (ops : SvFloatOps F) (s : Caches F)
    (svStatus : GpsSvStatus F) (locationExtended : LocationExtended F)
    (h : (generateSv ops s svStatus locationExtended).2.2 = true) :
    ∃ gps gln, (generateSv ops s svStatus locationExtended).2.1 =
        gps ++ gln ++ (if svStatus.used_in_fix_mask = 0 then blanks else []) ∧
      Partition ops "$GPGSV".toList (svStatus.svs.filter (prnIn 1 32)) gps ∧
      Partition ops "$GLGSV".toList (svStatus.svs.filter (prnIn 65 96)) gln := by
  refine ⟨_, _, generateSv_eq ops h, ?_, ?_⟩
  · exact partition_sentencesFor ops (by decide) _
  · exact partition_sentencesFor ops (by decide) _

def wholeNumbers : SvFloatOps Nat := { tenths with rounded := fun n => n }

/-- Five satellites of one constellation and two of the other. -/
def sevenInView : GpsSvStatus Nat where
  num_svs := 7
  sv_list := Vector.ofFn fun i => ⟨if i.val < 5 then i.val + 1 else i.val + 60, 30, 45, 180⟩
  used_in_fix_mask := 0
  num_svs_le := by decide

theorem gsv_partitions_satellites_seven :
    ∃ gps gln, (generateSv wholeNumbers ⟨0, 0, 0, 0⟩ sevenInView withoutDop).2.1 =
        gps ++ gln ++ (if sevenInView.used_in_fix_mask = 0 then blanks else []) ∧
      Partition wholeNumbers "$GPGSV".toList (sevenInView.svs.filter (prnIn 1 32)) gps ∧
      Partition wholeNumbers "$GLGSV".toList (sevenInView.svs.filter (prnIn 65 96)) gln :=
  gsv_partitions_satellites wholeNumbers ⟨0, 0, 0, 0⟩ sevenInView withoutDop (by decide +kernel)

end G2Common.Nmea.Gsv
