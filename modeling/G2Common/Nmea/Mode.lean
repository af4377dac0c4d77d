import G2Common.Eng.Session
import G2Common.Nmea.Exact

/-!
The mode that the sentences name, and the mode of the session in which the position was
reported. The sentences are made at the end of `LocEngReportPosition::proc`, with what the
adapter says by then.
-/

namespace G2Common.Nmea.Position

open Eng Gsv

structure LocEngReportPosition (F D : Type) where
  gpsLocation : GpsLocation F D
  inaccurate : Bool
  positionSource : UInt16
  rawData : Option Nat
  mLocationExtended : PositionExtended F
  mStatus : LocSessStatus
  mTechMask : UInt32

section Code

variable {F D : Type} (fl : Floats F) (db : Doubles F D) (gmtime : Int → Option Tm)

/-- The location as the session sees it. -/
def LocEngReportPosition.mLocation (msg : LocEngReportPosition F D) : UlpLocation :=
  ⟨msg.gpsLocation.flags, msg.inaccurate, msg.positionSource, msg.rawData⟩

/-- The sentences that a call makes, if it does: those of the position or the blank ones. -/
def generates : Call → Option Bool
  | .nmeaGeneratePos generate_nmea => some generate_nmea
  | _ => none

/-- `LocEngReportPosition::proc` together with its sentences. -/
def reportPosition (engine : LocEngData) (s : Caches F) (msg : LocEngReportPosition F D) :
    LocEngData × Caches F × List (List Char) :=
  let (engine, calls) := engine.reportPosition msg.mLocation msg.mStatus msg.mTechMask
  match calls.findSome? generates with
  | some generate_nmea =>
      -- After the session flag has been turned off, nothing sets the mode again.
      (engine, generatePos fl db engine.adapter.mFixCriteria.mode s msg.gpsLocation
        msg.mLocationExtended gmtime generate_nmea)
  | none => (engine, s, [])

end Code

/-- The mode in `$GPVTG` and `$GPRMC` and the quality in `$GPGGA` are those of `mode`. -/
def NamesMode (mode : Int) (sent : List (List Char)) : Prop :=
  sentField sent 1 9 = some [if mode = LOC_POSITION_MODE_STANDALONE then 'A' else 'D'] ∧
    sentField sent 2 12 = some [if mode = LOC_POSITION_MODE_STANDALONE then 'A' else 'D'] ∧
    sentField sent 3 6 = some [if mode = LOC_POSITION_MODE_STANDALONE then '1' else '2']

instance (mode : Int) (sent : List (List Char)) : Decidable (NamesMode mode sent) :=
  inferInstanceAs (Decidable (_ ∧ _ ∧ _))

section Modes

variable {F D : Type} {fl : Floats F} {db : Doubles F D} {gmtime : Int → Option Tm}
  {engine : LocEngData} {s : Caches F} {msg : LocEngReportPosition F D}

/-- The mode that is left when the sentences are made. -/
theorem mode_reportPosition (hmuted : engine.muteSessionState ≠ .inSession)
    (hreported : (engine.reportsFix msg.mLocation msg.mStatus msg.mTechMask).isSome) :
    (engine.reportPosition msg.mLocation msg.mStatus msg.mTechMask).1.adapter.mFixCriteria.mode =
      if engine.adapter.mFixCriteria.recurrence = GPS_POSITION_RECURRENCE_SINGLE then
        LOC_POSITION_MODE_INVALID
      else engine.adapter.mFixCriteria.mode := by
  rw [LocEngData.reportPosition, if_pos hmuted]
  simp only [hreported, Bool.true_and, decide_eq_true_eq]
  split <;> rfl

theorem generates_reportPosition (hmuted : engine.muteSessionState ≠ .inSession)
    (hreported : (engine.reportsFix msg.mLocation msg.mStatus msg.mTechMask).isSome)
    (hnmea : engine.generateNmea = true)
    (hsource : msg.positionSource = ULP_LOCATION_IS_FROM_GNSS)
    (htech : (LOC_POS_TECH_MASK_SATELLITE ||| LOC_POS_TECH_MASK_SENSORS |||
      LOC_POS_TECH_MASK_HYBRID) &&& msg.mTechMask ≠ 0) :
    (engine.reportPosition msg.mLocation msg.mStatus msg.mTechMask).2.findSome? generates =
      some (decide (msg.mStatus ≠ .failure)) := by
  have hlocation : msg.mLocation.positionSource = ULP_LOCATION_IS_FROM_GNSS := hsource
  have hcallback (fix : Option Bool) :
      (fix.toList.map Call.locationCb).findSome? generates = none := by
    cases fix <;> rfl
  have hstop (p : Bool) : (if p then [Call.stopFix] else []).findSome? generates = none := by
    cases p <;> rfl
  rw [LocEngData.reportPosition, if_pos hmuted]
  simp only [hreported, hnmea, hlocation, htech, List.findSome?_append, hcallback, hstop,
    Bool.true_and, decide_true, ne_eq, not_false_eq_true, if_true, Option.none_or]
  rfl

theorem namesMode_iff {tm : Tm} {mode m : Int}
    (hfits : Fits fl db s msg.gpsLocation msg.mLocationExtended)
    (htm : gmtime (msg.gpsLocation.timestamp.tdiv 1000) = some tm)
    (hlatLong : msg.gpsLocation.has GPS_LOCATION_HAS_LAT_LONG = true) :
    NamesMode m (generatePos fl db mode s msg.gpsLocation msg.mLocationExtended gmtime true).2 ↔
      (mode = LOC_POSITION_MODE_STANDALONE ↔ m = LOC_POSITION_MODE_STANDALONE) := by
  rw [NamesMode, field_vtgMode hfits htm, field_rmcMode hfits htm, field_ggaQuality hfits htm,
    modeIndicator, gpsQuality, hlatLong]
  by_cases hmode : mode = LOC_POSITION_MODE_STANDALONE <;>
    by_cases hm : m = LOC_POSITION_MODE_STANDALONE <;> simp [hmode, hm]

/-- A failure has the sentences of no fix. -/
theorem not_namesMode_blanks (m : Int) : ¬ NamesMode m blanks := by
  have hvtg : sentField blanks 1 9 = some ['N'] := by decide
  rintro ⟨hmode, -⟩
  rw [hvtg] at hmode
  split at hmode <;> cases hmode

end Modes

/-- The sentences of a report name the mode that was in force, unless a standalone session ends
with it, or the report is a failure, which has no position. -/
theorem mode_indicator_iff {F D : Type} (fl : Floats F) (db : Doubles F D)
    (gmtime : Int → Option Tm) (engine : LocEngData) (s : Caches F)
    (msg : LocEngReportPosition F D) (tm : Tm)
    (hfits : Fits fl db s msg.gpsLocation msg.mLocationExtended)
    (htm : gmtime (msg.gpsLocation.timestamp.tdiv 1000) = some tm)
    (hmuted : engine.muteSessionState ≠ .inSession)
    (hreported : (engine.reportsFix msg.mLocation msg.mStatus msg.mTechMask).isSome)
    (hnmea : engine.generateNmea = true)
    (hsource : msg.positionSource = ULP_LOCATION_IS_FROM_GNSS)
    (htech : (LOC_POS_TECH_MASK_SATELLITE ||| LOC_POS_TECH_MASK_SENSORS |||
      LOC_POS_TECH_MASK_HYBRID) &&& msg.mTechMask ≠ 0)
    (hlatLong : msg.gpsLocation.has GPS_LOCATION_HAS_LAT_LONG = true) :
    NamesMode engine.adapter.mFixCriteria.mode
        (reportPosition fl db gmtime engine s msg).2.2 ↔
      msg.mStatus ≠ .failure ∧
        ¬(engine.adapter.mFixCriteria.recurrence = GPS_POSITION_RECURRENCE_SINGLE ∧
          engine.adapter.mFixCriteria.mode = LOC_POSITION_MODE_STANDALONE) := by
  rw [reportPosition]
  dsimp only
  rw [generates_reportPosition hmuted hreported hnmea hsource htech,
    mode_reportPosition hmuted hreported]
  dsimp only
  by_cases hfailure : msg.mStatus = .failure
  · apply iff_of_false _ (fun h => h.1 hfailure)
    have hblanks (mode : Int) : (generatePos fl db mode s msg.gpsLocation msg.mLocationExtended
        gmtime (decide (msg.mStatus ≠ .failure))).2 = blanks := by
      rw [generatePos, htm, hfailure]
      rfl
    rw [hblanks]
    exact not_namesMode_blanks _
  · rw [decide_eq_true hfailure, namesMode_iff hfits htm hlatLong, and_iff_right hfailure]
    split
    case isTrue hsingle =>
      have hinvalid : LOC_POSITION_MODE_INVALID ≠ LOC_POSITION_MODE_STANDALONE := by decide
      simp [hinvalid, hsingle]
    case isFalse hperiodic => simp [hperiodic]

/-- A standalone session, where a report with a position is accepted. -/
def standaloneEngine (recurrence : UInt32) : LocEngData where
  adapter := ⟨⟨0, recurrence, 1000, 50, 0, Vector.replicate 14 0, Vector.replicate 8 0⟩, true⟩
  locationCb := true
  statusCb := true
  intermediateFix := 0
  generateNmea := true
  accuracyThres := 0
  engineStatus := GPS_STATUS_ENGINE_ON
  fixSessionStatus := GPS_STATUS_SESSION_BEGIN
  aidingDataForDeletion := 0
  muteSessionState := .none

/-- A final fix of the satellites. -/
def finalFix : LocEngReportPosition ℚ ℚ where
  gpsLocation := reportAt 1 (21 / 2) (-81 / 4) 0
  inaccurate := false
  positionSource := ULP_LOCATION_IS_FROM_GNSS
  rawData := none
  mLocationExtended := deviating none
  mStatus := .success
  mTechMask := LOC_POS_TECH_MASK_SATELLITE

theorem mode_indicator_iff_periodic :
    NamesMode 0 (reportPosition exactFloats (exactDoubles exactHeight) gmtimeEpoch
      (standaloneEngine 0) nothingCached finalFix).2.2 := by
  have hfits : Fits exactFloats (exactDoubles exactHeight) nothingCached finalFix.gpsLocation
      finalFix.mLocationExtended := fits_plain (by simp) (by simp)
  apply (mode_indicator_iff exactFloats (exactDoubles exactHeight) gmtimeEpoch
    (standaloneEngine 0) nothingCached finalFix ⟨70, 0, 1, 0, 0, 0⟩ hfits rfl (by decide) rfl rfl
    rfl (by decide) (by decide)).mpr
  decide

/-- The fix is handed out, and its sentences name a differential one. -/
theorem single_shot_named_differential :
    (standaloneEngine GPS_POSITION_RECURRENCE_SINGLE).reportsFix finalFix.mLocation
        finalFix.mStatus finalFix.mTechMask = some true ∧
      ¬ NamesMode 0 (reportPosition exactFloats (exactDoubles exactHeight) gmtimeEpoch
        (standaloneEngine GPS_POSITION_RECURRENCE_SINGLE) nothingCached finalFix).2.2 := by
  decide +kernel

end G2Common.Nmea.Position
