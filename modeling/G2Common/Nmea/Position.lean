import G2Common.Decimal
import G2Common.Nmea.Gsv
import Mathlib.Algebra.Order.BigOperators.Group.List

/-!
`loc_eng_nmea_generate_pos`: the four sentences about a position. What is done with a `float`
and with a `double` is a parameter, so that the results hold of the machine's numbers as of
exact ones. `gmtime` is one too.
-/

namespace G2Common.Nmea.Position

open Decimal Gsv

def GPS_LOCATION_HAS_LAT_LONG : UInt16 := 0x1

def GPS_LOCATION_HAS_ALTITUDE : UInt16 := 0x2

def GPS_LOCATION_HAS_SPEED : UInt16 := 0x4

def GPS_LOCATION_HAS_BEARING : UInt16 := 0x8

def LOC_POSITION_MODE_STANDALONE : Int := 0

/-- What is done with a `float` that is printed: its sign, the two units of the speed, and
`"%.1lf"` as `print`. -/
structure Floats (F : Type) extends FloatOps F where
  negative : F → Bool
  neg : F → F
  knots : F → F
  kmPerHour : F → F

/-- What is done with a `double`: `degrees` is `(uint8_t)floor(x)`, `minutes` is
`fmod(x * 60.0, 60.0)`, which is printed with `"%09.6lf"`; a height is printed less one that is
a `float`. -/
structure Doubles (F D : Type) where
  positive : D → Bool
  negative : D → Bool
  neg : D → D
  degrees : D → UInt8
  minutes : D → D
  printMinutes : D → List Char
  printHeight : D → F → List Char

/-- The fields of `GpsLocation` that are used. -/
structure GpsLocation (F D : Type) where
  flags : UInt16
  latitude : D
  longitude : D
  altitude : D
  speed : F
  bearing : F
  timestamp : Int

/-- `GpsLocationExtended` with the fields that only a position uses. -/
structure PositionExtended (F : Type) extends LocationExtended F where
  hasMagDev : Bool
  magneticDeviation : F
  hasAltitudeMeanSeaLevel : Bool
  altitudeMeanSeaLevel : F

/-- What `gmtime` returns. -/
structure Tm where
  tm_year : Int
  tm_mon : Fin 12
  tm_mday : Fin 32
  tm_hour : Fin 24
  tm_min : Fin 60
  tm_sec : Fin 61

def GpsLocation.has {F D : Type} (location : GpsLocation F D) (flag : UInt16) : Bool :=
  location.flags &&& flag ≠ 0

section Code

variable {F D : Type} (fl : Floats F) (db : Doubles F D) (tm : Tm) (mode : Int)
  (s : Caches F) (location : GpsLocation F D) (ext : PositionExtended F)

/-- The fields of the bearing in `$GPVTG`. -/
def trackFields : List (List Char) :=
  if location.has GPS_LOCATION_HAS_BEARING then
    -- The block for a magnetic deviation declares another `magTrack`, which ends with it.
    let magTrack := location.bearing
    [fl.print location.bearing, ['T'], fl.print magTrack, ['M']]
  else [[], ['T'], [], ['M']]

def vtgSpeedFields : List (List Char) :=
  if location.has GPS_LOCATION_HAS_SPEED then
    [fl.print (fl.knots location.speed), ['N'], fl.print (fl.kmPerHour location.speed), ['K']]
  else [[], ['N'], [], ['K']]

/-- The mode of `$GPVTG` and `$GPRMC`, where `mode` is that of the adapter. -/
def modeIndicator : Char :=
  if !location.has GPS_LOCATION_HAS_LAT_LONG then 'N'
  else if mode = LOC_POSITION_MODE_STANDALONE then 'A'
  else 'D'

/-- The time of day, with `"%02d%02d%02d"`. -/
def timeField : List Char :=
  print02d tm.tm_hour.val ++ print02d tm.tm_min.val ++ print02d tm.tm_sec.val

/-- The position, in `$GPRMC` and `$GPGGA` alike. -/
def positionFields : List (List Char) :=
  if location.has GPS_LOCATION_HAS_LAT_LONG then
    let (latitude, latHemisphere) :=
      if db.positive location.latitude then (location.latitude, 'N')
      else (db.neg location.latitude, 'S')
    let (longitude, lonHemisphere) :=
      if db.negative location.longitude then (db.neg location.longitude, 'W')
      else (location.longitude, 'E')
    [print02d (db.degrees latitude).toNat ++ db.printMinutes (db.minutes latitude),
      [latHemisphere],
      printInt 3 (db.degrees longitude).toNat ++ db.printMinutes (db.minutes longitude),
      [lonHemisphere]]
  else [[], [], [], []]

def rmcSpeedFields : List (List Char) :=
  if location.has GPS_LOCATION_HAS_SPEED then [fl.print (fl.knots location.speed)] else [[]]

def bearingFields : List (List Char) :=
  if location.has GPS_LOCATION_HAS_BEARING then [fl.print location.bearing] else [[]]

/-- The date, with `"%2.2d%2.2d%2.2d"`. -/
def dateField : List Char :=
  let utcYear := tm.tm_year.tmod 100
  print02d tm.tm_mday.val ++ print02d (tm.tm_mon.val + 1) ++
    ((if utcYear < 0 then ['-'] else []) ++ print02d utcYear.natAbs)

/-- The magnetic variation and its direction. -/
def variationFields : List (List Char) :=
  if ext.hasMagDev then
    let (magneticVariation, direction) :=
      if fl.negative ext.magneticDeviation then (fl.neg ext.magneticDeviation, 'W')
      else (ext.magneticDeviation, 'E')
    [fl.print magneticVariation, [direction]]
  else [[], []]

def gpsQuality : Char :=
  if !location.has GPS_LOCATION_HAS_LAT_LONG then '0'
  else if mode = LOC_POSITION_MODE_STANDALONE then '1'
  else '2'

/-- The quality, the satellites that were used and the horizontal dilution of precision. -/
def qualityFields : List (List Char) :=
  let svUsedCount := (svUsedList s.sv_used_mask).length
  [[gpsQuality mode location], print02d svUsedCount,
    if ext.hasDop then fl.print ext.hdop
    else if fl.positive s.pdop && fl.positive s.hdop && fl.positive s.vdop then fl.print s.hdop
    else []]

def seaLevelFields : List (List Char) :=
  if ext.hasAltitudeMeanSeaLevel then [fl.print ext.altitudeMeanSeaLevel, ['M']] else [[], []]

/-- The last segment of `$GPGGA`, which is not checked. -/
def heightFields : List (List Char) :=
  if location.has GPS_LOCATION_HAS_ALTITUDE && ext.hasAltitudeMeanSeaLevel then
    [db.printHeight location.altitude ext.altitudeMeanSeaLevel, ['M'], []]
  else [[], [], []]

def gpgsa : Option (List Char) :=
  let svUsedList := svUsedList s.sv_used_mask
  sentence (header (fixType svUsedList.length) :: (List.range 12).map (svField svUsedList))
    (dopFields fl.toFloatOps s ext.toLocationExtended)

/-- The segments of `$GPVTG` that are checked. -/
def vtgSegments : List (List (List Char)) :=
  ["$GPVTG".toList :: trackFields fl location, vtgSpeedFields fl location]

def gpvtg : Option (List Char) :=
  sentence ((vtgSegments fl location).map commas) [modeIndicator mode location]

def rmcSegments : List (List (List Char)) :=
  [["$GPRMC".toList, timeField tm, ['A']], positionFields db location,
    rmcSpeedFields fl location, bearingFields fl location, [dateField tm],
    variationFields fl ext]

def gprmc : Option (List Char) :=
  sentence ((rmcSegments fl db tm location ext).map commas) [modeIndicator mode location]

def ggaSegments : List (List (List Char)) :=
  [["$GPGGA".toList, timeField tm], positionFields db location,
    qualityFields fl mode s location ext, seaLevelFields fl ext]

def gpgga : Option (List Char) :=
  sentence ((ggaSegments fl db tm mode s location ext).map commas)
    (commas (heightFields db location ext))

/-- The dilution of precision cannot be used again. -/
def clearDop : Caches F := { s with pdop := fl.zero, hdop := fl.zero, vdop := fl.zero }

/-- `loc_eng_nmea_generate_pos`, where `mode` is what the adapter says. The satellites are
forgotten before the first sentence, the dilution of precision only at the end. -/
def generatePos (gmtime : Int → Option Tm) (generate_nmea : Bool) :
    Caches F × List (List Char) :=
  match gmtime (location.timestamp.tdiv 1000) with
  | none => (s, [])
  | some tm =>
      if generate_nmea then
        let (sent, goesOn) := sendAll [gpgsa fl s ext, gpvtg fl mode location,
          gprmc fl db tm mode location ext, gpgga fl db tm mode s location ext]
        let s := { s with sv_used_mask := 0 }
        (if goesOn then clearDop fl s else s, sent)
      else (clearDop fl s, blanks)

/-- The field `j` of the sentence `i`. -/
def sentField (sent : List (List Char)) (i j : Nat) : Option (List Char) := do
  (fields (← sent[i]?))[j]?

end Code

section Lengths

variable {F D : Type} (fl : Floats F) (db : Doubles F D) (location : GpsLocation F D)
  (ext : PositionExtended F)

@[simp]
theorem length_trackFields : (trackFields fl location).length = 4 := by
  rw [trackFields]
  split <;> rfl

@[simp]
theorem length_vtgSpeedFields : (vtgSpeedFields fl location).length = 4 := by
  rw [vtgSpeedFields]
  split <;> rfl

@[simp]
theorem length_positionFields : (positionFields db location).length = 4 := by
  rw [positionFields]
  split <;> rfl

@[simp]
theorem length_rmcSpeedFields : (rmcSpeedFields fl location).length = 1 := by
  rw [rmcSpeedFields]
  split <;> rfl

@[simp]
theorem length_bearingFields : (bearingFields fl location).length = 1 := by
  rw [bearingFields]
  split <;> rfl

@[simp]
theorem length_variationFields : (variationFields fl ext).length = 2 := by
  rw [variationFields]
  split <;> rfl

end Lengths

/-- A text of at most so many characters without a comma. -/
structure Short (most : Nat) (text : List Char) : Prop where
  length_le : text.length ≤ most
  noComma : ',' ∉ text

/-- Fields of which the text has at most so many characters. -/
structure ShortFields (most : Nat) (fs : List (List Char)) : Prop where
  length_le : (commas fs).length ≤ most
  noComma : ∀ field ∈ fs, ',' ∉ field

/-- The numbers of a report are printed as short as those of a machine: in front of the point,
a `float` has at most 39 digits, and minutes are at most 60. -/
structure Fits {F D : Type} (fl : Floats F) (db : Doubles F D) (s : Caches F)
    (location : GpsLocation F D) (ext : PositionExtended F) : Prop where
  numbers : ∀ x ∈ [location.bearing, fl.knots location.speed, fl.kmPerHour location.speed,
    ext.magneticDeviation, fl.neg ext.magneticDeviation, ext.altitudeMeanSeaLevel,
    ext.pdop, ext.hdop, ext.vdop, s.pdop, s.hdop, s.vdop], Short 43 (fl.print x)
  minutes : ∀ x, Short 10 (db.printMinutes (db.minutes x))

section Short

variable {m n : Nat} {a b field : List Char} {fs fs' : List (List Char)}

theorem Short.append (ha : Short m a) (hb : Short n b) : Short (m + n) (a ++ b) where
  length_le := by
    rw [List.length_append]
    exact Nat.add_le_add ha.length_le hb.length_le
  noComma := by
    rw [List.mem_append]
    exact not_or.mpr ⟨ha.noComma, hb.noComma⟩

theorem Short.nil : Short 0 [] := ⟨Nat.le_refl 0, by simp⟩

theorem short_singleton {c : Char} (h : ',' ≠ c) : Short 1 [c] :=
  ⟨Nat.le_refl 1, by simpa using h⟩

theorem ShortFields.nil : ShortFields 0 [] := ⟨Nat.le_refl 0, by simp⟩

theorem ShortFields.cons (hfield : Short m field) (hfs : ShortFields n fs) :
    ShortFields (m + 1 + n) (field :: fs) where
  length_le := by
    have hlength : (commas (field :: fs)).length = field.length + 1 + (commas fs).length :=
      List.length_append.trans (by rw [List.length_append]; rfl)
    have hle := hfield.length_le
    have hle' := hfs.length_le
    omega
  noComma := by
    intro f hf
    rcases List.mem_cons.mp hf with rfl | hf
    · exact hfield.noComma
    · exact hfs.noComma f hf

theorem ShortFields.append (hfs : ShortFields m fs) (hfs' : ShortFields n fs') :
    ShortFields (m + n) (fs ++ fs') where
  length_le := by
    rw [commas, List.flatMap_append, List.length_append]
    exact Nat.add_le_add hfs.length_le hfs'.length_le
  noComma := by
    intro f hf
    rcases List.mem_append.mp hf with hf | hf
    · exact hfs.noComma f hf
    · exact hfs'.noComma f hf

theorem ShortFields.mono (hfs : ShortFields m fs) (h : m ≤ n) : ShortFields n fs :=
  ⟨Nat.le_trans hfs.length_le h, hfs.noComma⟩

theorem short_padded {width : Nat} (hwidth : 0 < width) (h : n < 10 ^ width) :
    Short width (padded width n) :=
  ⟨Nat.le_of_eq (length_padded hwidth h), notMem_padded rfl width n⟩

end Short

section Spec

variable {F D : Type} {fl : Floats F} {db : Doubles F D} {tm : Tm} {mode : Int}
  {s : Caches F} {location : GpsLocation F D} {ext : PositionExtended F}

theorem short_print02d {n : Nat} (h : n < 100) : Short 2 (print02d n) :=
  short_padded (by decide) h

/-- The degrees, with the width 2 or 3. -/
theorem short_degrees {width : Nat} (hwidth : width ≤ 3) (b : UInt8) :
    Short 3 (padded width b.toNat) := by
  have hlength := (Nat.length_toDigits_le_iff (by decide : 1 < 10) (by decide : 0 < 3)).mpr
    (Nat.lt_trans b.toNat_lt (by decide : 2 ^ 8 < 10 ^ 3))
  refine ⟨?_, notMem_padded rfl width _⟩
  rw [padded, List.length_append, List.length_replicate]
  omega

theorem short_timeField (tm : Tm) : Short 6 (timeField tm) := by
  have hhour := short_print02d (Nat.lt_trans tm.tm_hour.isLt (by decide))
  have hmin := short_print02d (Nat.lt_trans tm.tm_min.isLt (by decide))
  have hsec := short_print02d (Nat.lt_trans tm.tm_sec.isLt (by decide))
  exact (hhour.append hmin).append hsec

theorem short_dateField (tm : Tm) : Short 7 (dateField tm) := by
  have hmon := tm.tm_mon.isLt
  have hmday := short_print02d (Nat.lt_trans tm.tm_mday.isLt (by decide))
  have hmonth := short_print02d (show tm.tm_mon.val + 1 < 100 by omega)
  have hyear : Short 2 (print02d (tm.tm_year.tmod 100).natAbs) := by
    apply short_print02d
    rw [Int.natAbs_tmod]
    exact Nat.mod_lt _ (by decide)
  have hsign : Short 1 (if tm.tm_year.tmod 100 < 0 then ['-'] else []) := by
    split
    · exact short_singleton (by decide)
    · exact ⟨by decide, by simp⟩
  exact (hmday.append hmonth).append (hsign.append hyear)

section Segments

variable (h : Fits fl db s location ext)

include h

theorem shortFields_track : ShortFields 92 (trackFields fl location) := by
  have hbearing := h.numbers location.bearing (by simp)
  have ht : Short 1 ['T'] := short_singleton (by decide)
  have hm : Short 1 ['M'] := short_singleton (by decide)
  rw [trackFields]
  split
  · exact (ShortFields.cons hbearing (.cons ht (.cons hbearing (.cons hm .nil)))).mono
      (by decide)
  · exact (ShortFields.cons .nil (.cons ht (.cons .nil (.cons hm .nil)))).mono (by decide)

theorem shortFields_vtgSpeed : ShortFields 92 (vtgSpeedFields fl location) := by
  have hknots := h.numbers (fl.knots location.speed) (by simp)
  have hkmPerHour := h.numbers (fl.kmPerHour location.speed) (by simp)
  have hn : Short 1 ['N'] := short_singleton (by decide)
  have hk : Short 1 ['K'] := short_singleton (by decide)
  rw [vtgSpeedFields]
  split
  · exact (ShortFields.cons hknots (.cons hn (.cons hkmPerHour (.cons hk .nil)))).mono
      (by decide)
  · exact (ShortFields.cons .nil (.cons hn (.cons .nil (.cons hk .nil)))).mono (by decide)

omit h in
theorem shortFields_position (hminutes : ∀ x, Short 10 (db.printMinutes (db.minutes x))) :
    ShortFields 32 (positionFields db location) := by
  have hfields (latitude longitude : D) {c d : Char} (hc : ',' ≠ c) (hd : ',' ≠ d) :
      ShortFields 32 [print02d (db.degrees latitude).toNat ++
          db.printMinutes (db.minutes latitude), [c],
        printInt 3 (db.degrees longitude).toNat ++ db.printMinutes (db.minutes longitude),
        [d]] := by
    have hlatitude := (short_degrees (by decide : 2 ≤ 3) (db.degrees latitude)).append
      (hminutes latitude)
    have hlongitude := (short_degrees (by decide : 3 ≤ 3) (db.degrees longitude)).append
      (hminutes longitude)
    rw [printInt_natCast]
    exact .cons hlatitude (.cons (short_singleton hc)
      (.cons hlongitude (.cons (short_singleton hd) .nil)))
  rw [positionFields]
  split
  · cases db.positive location.latitude <;> cases db.negative location.longitude
    all_goals exact hfields _ _ (by decide) (by decide)
  · exact (ShortFields.cons .nil (.cons .nil (.cons .nil (.cons .nil .nil)))).mono (by decide)

theorem shortFields_rmcSpeed : ShortFields 44 (rmcSpeedFields fl location) := by
  have hknots := h.numbers (fl.knots location.speed) (by simp)
  rw [rmcSpeedFields]
  split
  · exact .cons hknots .nil
  · exact (ShortFields.cons .nil .nil).mono (by decide)

theorem shortFields_bearing : ShortFields 44 (bearingFields fl location) := by
  have hbearing := h.numbers location.bearing (by simp)
  rw [bearingFields]
  split
  · exact .cons hbearing .nil
  · exact (ShortFields.cons .nil .nil).mono (by decide)

theorem shortFields_variation : ShortFields 46 (variationFields fl ext) := by
  have hdeviation := h.numbers ext.magneticDeviation (by simp)
  have hneg := h.numbers (fl.neg ext.magneticDeviation) (by simp)
  have hw : Short 1 ['W'] := short_singleton (by decide)
  have he : Short 1 ['E'] := short_singleton (by decide)
  rw [variationFields]
  split
  · cases fl.negative ext.magneticDeviation
    · exact .cons hdeviation (.cons he .nil)
    · exact .cons hneg (.cons hw .nil)
  · exact (ShortFields.cons .nil (.cons .nil .nil)).mono (by decide)

theorem shortFields_seaLevel : ShortFields 46 (seaLevelFields fl ext) := by
  have hlevel := h.numbers ext.altitudeMeanSeaLevel (by simp)
  have hm : Short 1 ['M'] := short_singleton (by decide)
  rw [seaLevelFields]
  split
  · exact .cons hlevel (.cons hm .nil)
  · exact (ShortFields.cons .nil (.cons .nil .nil)).mono (by decide)

theorem shortFields_quality : ShortFields 49 (qualityFields fl mode s location ext) := by
  have hquality : Short 1 [gpsQuality mode location] := by
    rw [gpsQuality]
    split
    · exact short_singleton (by decide)
    · split <;> exact short_singleton (by decide)
  have hcount : Short 2 (print02d (svUsedList s.sv_used_mask).length) := by
    apply short_print02d
    rw [svUsedList_eq, bitPositions, List.length_map]
    exact Nat.lt_of_le_of_lt (List.length_filter_le _ _) (by decide)
  have hdop : Short 43 (if ext.hasDop then fl.print ext.hdop
      else if fl.positive s.pdop && fl.positive s.hdop && fl.positive s.vdop then fl.print s.hdop
      else []) := by
    split
    · exact h.numbers ext.hdop (by simp)
    · split
      · exact h.numbers s.hdop (by simp)
      · exact ⟨by decide, by simp⟩
  exact .cons hquality (.cons hcount (.cons hdop .nil))

end Segments

theorem getElem?_segment {α : Type*} (before : List (List α)) {segment : List α}
    {after : List (List α)} {n k : Nat} (hn : before.flatten.length = n)
    (hk : k < segment.length) :
    (before ++ segment :: after).flatten[n + k]? = segment[k]? := by
  rw [List.flatten_append, List.getElem?_append_right (by omega), hn, Nat.add_sub_cancel_left,
    List.flatten_cons, List.getElem?_append_left hk]

theorem lt_of_mem_svUsedList {mask : UInt32} {sv : Nat} (h : sv ∈ svUsedList mask) : sv < 100 := by
  rw [svUsedList_eq, bitPositions, List.mem_map] at h
  obtain ⟨b, hb, rfl⟩ := h
  have hrange := List.mem_range.mp (List.mem_filter.mp hb).1
  omega

theorem length_svField (mask : UInt32) (i : Nat) : (svField (svUsedList mask) i).length ≤ 3 := by
  rw [svField]
  split
  case h_1 sv hsv =>
    have hshort := short_print02d (lt_of_mem_svUsedList (List.mem_of_getElem? hsv))
    rw [List.length_append, List.length_singleton]
    exact Nat.add_le_add_right hshort.length_le 1
  case h_2 => decide

theorem length_svFields (mask : UInt32) :
    ((List.range 12).flatMap (svField (svUsedList mask))).length ≤ 36 := by
  have hsum := List.sum_le_card_nsmul
    ((List.range 12).map fun i => (svField (svUsedList mask) i).length) 3
    (by
      intro n hn
      obtain ⟨i, -, rfl⟩ := List.mem_map.mp hn
      exact length_svField mask i)
  rw [List.length_flatMap]
  rw [List.length_map, List.length_range] at hsum
  exact hsum

section Sent

variable (h : Fits fl db s location ext)

include h

theorem length_dopFields : (dopFields fl.toFloatOps s ext.toLocationExtended).length ≤ 131 := by
  have hdop {pdop hdop vdop : F} (hp : Short 43 (fl.print pdop)) (hh : Short 43 (fl.print hdop))
      (hv : Short 43 (fl.print vdop)) :
      (printDop fl.toFloatOps pdop hdop vdop).length ≤ 131 := by
    have hp := hp.length_le
    have hh := hh.length_le
    have hv := hv.length_le
    simp only [printDop, List.length_append, List.length_singleton]
    omega
  rw [dopFields, cachedDop]
  split
  · exact hdop (h.numbers _ (by simp)) (h.numbers _ (by simp)) (h.numbers _ (by simp))
  · split
    · exact hdop (h.numbers _ (by simp)) (h.numbers _ (by simp)) (h.numbers _ (by simp))
    · exact (by decide : (2 : Nat) ≤ 131)

/-- The sentence of the satellites is the one that is modelled without its buffer. -/
theorem gpgsa_eq : gpgsa fl s ext = some (Nmea.gpgsa fl.toFloatOps s ext.toLocationExtended) := by
  have hsvs := length_svFields s.sv_used_mask
  have hdop := length_dopFields h
  have hheader : (header (fixType (svUsedList s.sv_used_mask).length)).length = 11 := rfl
  have hflatten : (header (fixType (svUsedList s.sv_used_mask).length) ::
      (List.range 12).map (svField (svUsedList s.sv_used_mask))).flatten =
      header (fixType (svUsedList s.sv_used_mask).length) ++
        (List.range 12).flatMap (svField (svUsedList s.sv_used_mask)) := by
    rw [List.flatten_cons, List.flatMap_def]
  rw [gpgsa, sentence_eq, hflatten, appendLast_eq]
  · rfl
  · rw [List.length_append, NMEA_SENTENCE_MAX_LENGTH]
    omega
  · rw [hflatten, List.length_append, NMEA_SENTENCE_MAX_LENGTH]
    omega

theorem shortFields_vtg : ShortFields 191 (vtgSegments fl location).flatten := by
  have hhead : Short 6 "$GPVTG".toList := ⟨by decide, by decide⟩
  exact (ShortFields.cons hhead (shortFields_track h)).append
    ((shortFields_vtgSpeed h).append .nil)

theorem shortFields_rmc : ShortFields 190 (rmcSegments fl db tm location ext).flatten := by
  have hhead : Short 6 "$GPRMC".toList := ⟨by decide, by decide⟩
  have hvalid : Short 1 ['A'] := short_singleton (by decide)
  have htime : ShortFields 16 ["$GPRMC".toList, timeField tm, ['A']] :=
    .cons hhead (.cons (short_timeField tm) (.cons hvalid .nil))
  have hdate : ShortFields 8 [dateField tm] := .cons (short_dateField tm) .nil
  exact htime.append ((shortFields_position h.minutes).append ((shortFields_rmcSpeed h).append
    ((shortFields_bearing h).append (hdate.append ((shortFields_variation h).append .nil)))))

theorem shortFields_gga : ShortFields 141 (ggaSegments fl db tm mode s location ext).flatten := by
  have hhead : Short 6 "$GPGGA".toList := ⟨by decide, by decide⟩
  have htime : ShortFields 14 ["$GPGGA".toList, timeField tm] :=
    .cons hhead (.cons (short_timeField tm) .nil)
  exact htime.append ((shortFields_position h.minutes).append ((shortFields_quality h).append
    ((shortFields_seaLevel h).append .nil)))

omit h in
theorem sentence_commas {n : Nat} {fss : List (List (List Char))}
    (hshort : ShortFields n fss.flatten) (hn : n < NMEA_SENTENCE_MAX_LENGTH) (last : List Char) :
    sentence (fss.map commas) last = some (appendLast (commas fss.flatten) last) := by
  have hfits := Nat.lt_of_le_of_lt hshort.length_le hn
  rw [← flatten_commas] at hfits
  rw [sentence_eq hfits, flatten_commas]

/-- The caches are those of the model of the satellites alone, and its sentence is the first
of four. -/
theorem generatePos_eq {gmtime : Int → Option Tm}
    (htm : gmtime (location.timestamp.tdiv 1000) = some tm) :
    let caches := Nmea.generatePos fl.toFloatOps s ext.toLocationExtended true
    generatePos fl db mode s location ext gmtime true =
      (caches.1, caches.2 ++
        [appendLast (commas (vtgSegments fl location).flatten) [modeIndicator mode location],
          appendLast (commas (rmcSegments fl db tm location ext).flatten)
            [modeIndicator mode location],
          appendLast (commas (ggaSegments fl db tm mode s location ext).flatten)
            (commas (heightFields db location ext))]) := by
  intro caches
  rw [generatePos, htm]
  dsimp only
  rw [if_pos rfl, gpgsa_eq h, gpvtg, gprmc, gpgga,
    sentence_commas (shortFields_vtg h) (by decide),
    sentence_commas (shortFields_rmc h) (by decide),
    sentence_commas (shortFields_gga h) (by decide)]
  rfl

omit h in
theorem fields_mode (mode : Int) (location : GpsLocation F D) {n : Nat}
    {fss : List (List (List Char))} (hshort : ShortFields n fss.flatten)
    (hn : n + 1 < NMEA_SENTENCE_MAX_LENGTH) :
    fields (appendLast (commas fss.flatten) [modeIndicator mode location]) =
      (fss ++ [[[modeIndicator mode location]]]).flatten := by
  have hmode : ',' ∉ [modeIndicator mode location] := by
    rw [modeIndicator]
    split
    · decide
    · split <;> decide
  have hle := hshort.length_le
  rw [appendLast_eq, fields_commas hshort.noComma, fields_of_notMem hmode, List.flatten_append,
    List.flatten_singleton]
  rw [List.length_singleton]
  omega

/-- The sentences, read field by field. -/
theorem generatePos_fields {gmtime : Int → Option Tm}
    (htm : gmtime (location.timestamp.tdiv 1000) = some tm) (i : Nat) :
    let sent := (generatePos fl db mode s location ext gmtime true).2
    sentField sent 1 i =
        (vtgSegments fl location ++ [[[modeIndicator mode location]]]).flatten[i]? ∧
      sentField sent 2 i = (rmcSegments fl db tm location ext ++
        [[[modeIndicator mode location]]]).flatten[i]? ∧
      ∃ rest, sentField sent 3 i =
        (ggaSegments fl db tm mode s location ext ++ [rest]).flatten[i]? := by
  intro sent
  have hsent : sent = _ := congrArg Prod.snd (generatePos_eq h htm)
  have hrmc : ShortFields 190 (rmcSegments fl db tm location ext).flatten := shortFields_rmc h
  have hgga : ShortFields 141 (ggaSegments fl db tm mode s location ext).flatten :=
    shortFields_gga h
  obtain ⟨rest, hrest⟩ : ∃ rest, fields (appendLast
      (commas (ggaSegments fl db tm mode s location ext).flatten)
      (commas (heightFields db location ext))) =
        (ggaSegments fl db tm mode s location ext ++ [rest]).flatten := by
    rw [appendLast, fields_commas hgga.noComma]
    exact ⟨_, by rw [List.flatten_append, List.flatten_singleton]⟩
  rw [hsent, ← fields_mode mode location (shortFields_vtg h) (by decide),
    ← fields_mode mode location hrmc (by decide)]
  exact ⟨rfl, rfl, rest, congrArg (·[i]?) hrest⟩

section Fields

variable {gmtime : Int → Option Tm} (htm : gmtime (location.timestamp.tdiv 1000) = some tm)

include htm

theorem field_vtgTrack {k : Nat} (hk : k < 4) :
    sentField (generatePos fl db mode s location ext gmtime true).2 1 (1 + k) =
      (trackFields fl location)[k]? := by
  have hsegment : (vtgSegments fl location ++ [[[modeIndicator mode location]]]).flatten[
      0 + (1 + k)]? = ("$GPVTG".toList :: trackFields fl location)[1 + k]? := by
    apply getElem?_segment [] rfl
    rw [List.length_cons, length_trackFields]
    omega
  rw [Nat.zero_add, Nat.add_comm 1 k, List.getElem?_cons_succ] at hsegment
  rw [(generatePos_fields h htm _).1, Nat.add_comm 1 k, hsegment]

theorem field_vtgMode :
    sentField (generatePos fl db mode s location ext gmtime true).2 1 9 =
      some [modeIndicator mode location] := by
  rw [(generatePos_fields h htm _).1]
  apply getElem?_segment (vtgSegments fl location) (n := 9) (k := 0)
  · simp [vtgSegments]
  · exact Nat.zero_lt_one

theorem field_rmcPosition {k : Nat} (hk : k < 4) :
    sentField (generatePos fl db mode s location ext gmtime true).2 2 (3 + k) =
      (positionFields db location)[k]? := by
  rw [(generatePos_fields h htm _).2.1]
  apply getElem?_segment [["$GPRMC".toList, timeField tm, ['A']]] rfl
  rwa [length_positionFields]

theorem field_rmcVariation {k : Nat} (hk : k < 2) :
    sentField (generatePos fl db mode s location ext gmtime true).2 2 (10 + k) =
      (variationFields fl ext)[k]? := by
  rw [(generatePos_fields h htm _).2.1]
  apply getElem?_segment [["$GPRMC".toList, timeField tm, ['A']], positionFields db location,
    rmcSpeedFields fl location, bearingFields fl location, [dateField tm]]
  · simp
  · rwa [length_variationFields]

theorem field_rmcMode :
    sentField (generatePos fl db mode s location ext gmtime true).2 2 12 =
      some [modeIndicator mode location] := by
  rw [(generatePos_fields h htm _).2.1]
  apply getElem?_segment (rmcSegments fl db tm location ext) (n := 12) (k := 0)
  · simp [rmcSegments]
  · exact Nat.zero_lt_one

theorem field_ggaPosition {k : Nat} (hk : k < 4) :
    sentField (generatePos fl db mode s location ext gmtime true).2 3 (2 + k) =
      (positionFields db location)[k]? := by
  obtain ⟨rest, hrest⟩ := (generatePos_fields h htm (2 + k)).2.2
  rw [hrest]
  apply getElem?_segment [["$GPGGA".toList, timeField tm]] rfl
  rwa [length_positionFields]

theorem field_ggaQuality :
    sentField (generatePos fl db mode s location ext gmtime true).2 3 6 =
      some [gpsQuality mode location] := by
  obtain ⟨rest, hrest⟩ := (generatePos_fields h htm 6).2.2
  rw [hrest]
  apply getElem?_segment [["$GPGGA".toList, timeField tm], positionFields db location] (k := 0)
  · simp
  · exact Nat.zero_lt_succ 2

end Fields

end Sent

end Spec

end G2Common.Nmea.Position
