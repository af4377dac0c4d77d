import G2Common.Nmea.Exact

/-!
The magnetic track in `$GPVTG`, in exact arithmetic, and the magnetic variation that `$GPRMC`
has of the same report.
-/

namespace G2Common.Nmea.Position

open Decimal

/-- The magnetic deviation of a report. -/
def PositionExtended.deviation {F : Type} (ext : PositionExtended F) : Option F :=
  if ext.hasMagDev then some ext.magneticDeviation else none

/-- The bearing less the deviation, brought into the circle. -/
def magneticTrack (bearing : ℚ) : Option ℚ → ℚ
  | none => bearing
  | some d =>
      if bearing - d < 0 then bearing - d + 360
      else if 360 < bearing - d then bearing - d - 360
      else bearing - d

/-- The variation in `$GPRMC`, with the hemisphere for its sign. -/
def variation : Option ℚ → List (List Char)
  | none => [[], []]
  | some d => [fixed 0 1 |d|, [if d < 0 then 'W' else 'E']]

/-- `$GPVTG` has the magnetic track, and `$GPRMC` the variation by which it differs. -/
def TrackSent (bearing : ℚ) (deviation : Option ℚ) (sent : List (List Char)) : Prop :=
  sentField sent 1 3 = some (fixed 0 1 (magneticTrack bearing deviation)) ∧
    ∀ k < 2, sentField sent 2 (10 + k) = (variation deviation)[k]?

/-- The deviation does not change the tenths of the bearing. -/
def Unnoticed (bearing : ℚ) : Option ℚ → Prop
  | none => True
  | some d => 0 ≤ bearing - d ∧ bearing - d ≤ 360 ∧
      roundHalfEven (bearing * 10) = roundHalfEven ((bearing - d) * 10)

section Track

variable {D : Type} {location : GpsLocation ℚ D} {ext : PositionExtended ℚ} {b d : ℚ}

theorem variationFields_exact : variationFields exactFloats ext = variation ext.deviation := by
  rw [variationFields, PositionExtended.deviation]
  split
  · by_cases hnegative : ext.magneticDeviation < 0
    · simp [variation, exactFloats, hnegative, abs_of_neg hnegative]
    · simp [variation, exactFloats, hnegative, abs_of_nonneg (not_lt.mp hnegative)]
  · rfl

/-- Numbers that are printed alike are no further apart than a place. -/
theorem near_of_fixed {t : ℚ} (h : fixed 0 1 b = fixed 0 1 t) (hb : 0 ≤ b) (ht : 0 ≤ t) :
    |b - t| ≤ 1 / 10 := by
  have hround := abs_sub_le_of_roundHalfEven ((fixed_eq_iff hb ht).mp h)
  have hscale : b * 10 ^ 1 - t * 10 ^ 1 = (b - t) * 10 := by ring
  rw [hscale, abs_mul, abs_of_pos (by norm_num : (0 : ℚ) < 10)] at hround
  linarith

theorem fixed_track_iff (hb : 0 ≤ b) (hd : |d| ≤ 180) :
    fixed 0 1 b = fixed 0 1 (magneticTrack b (some d)) ↔ Unnoticed b (some d) := by
  have hd := abs_le.mp hd
  rw [magneticTrack, Unnoticed]
  split
  case isTrue hbelow =>
    apply iff_of_false
    · intro h
      have hnear := abs_le.mp (near_of_fixed h hb (by linarith))
      linarith
    · rintro ⟨hnonneg, -⟩
      linarith
  case isFalse hnonneg =>
    split
    case isTrue habove =>
      apply iff_of_false
      · intro h
        have hnear := abs_le.mp (near_of_fixed h hb (by linarith))
        linarith
      · rintro ⟨-, hle, -⟩
        linarith
    case isFalse hle =>
      have hiff := @fixed_eq_iff 1 b (b - d) hb (not_lt.mp hnonneg)
      rw [pow_one] at hiff
      rw [hiff, and_iff_right (not_lt.mp hnonneg), and_iff_right (not_lt.mp hle)]

end Track

/-- The magnetic track is sent where the deviation does not show in it, and only there. -/
theorem magnetic_track_iff {D : Type} (db : Doubles ℚ D) (gmtime : Int → Option Tm) (mode : Int)
    (s : Caches ℚ) (location : GpsLocation ℚ D) (ext : PositionExtended ℚ) (tm : Tm)
    (hfits : Fits exactFloats db s location ext)
    (htm : gmtime (location.timestamp.tdiv 1000) = some tm)
    (hbearing : location.has GPS_LOCATION_HAS_BEARING = true)
    (hnonneg : 0 ≤ location.bearing) (hdeviation : ∀ d ∈ ext.deviation, |d| ≤ 180) :
    TrackSent location.bearing ext.deviation
        (generatePos exactFloats db mode s location ext gmtime true).2 ↔
      Unnoticed location.bearing ext.deviation := by
  have hvariation : ∀ k < 2, sentField (generatePos exactFloats db mode s location ext gmtime
      true).2 2 (10 + k) = (variation ext.deviation)[k]? := by
    intro k hk
    rw [field_rmcVariation hfits htm hk, variationFields_exact]
  have htrack : sentField (generatePos exactFloats db mode s location ext gmtime true).2 1 3 =
      some (fixed 0 1 location.bearing) := by
    apply (field_vtgTrack hfits htm (by decide : 2 < 4)).trans
    rw [trackFields, if_pos hbearing]
    rfl
  rw [TrackSent, and_iff_left hvariation, htrack, Option.some.injEq]
  cases hext : ext.deviation with
  | none => exact iff_of_true rfl trivial
  | some d => exact fixed_track_iff hnonneg (hdeviation d hext)

/-- A hundredth of a degree does not show. -/
theorem magnetic_track_iff_hundredth :
    TrackSent 90 (some (1 / 100)) (generatePos exactFloats (exactDoubles exactHeight) 0
      nothingCached (reportAt 9 (21 / 2) (-81 / 4) 90) (deviating (some (1 / 100))) gmtimeEpoch
      true).2 := by
  have hfits : Fits exactFloats (exactDoubles exactHeight) nothingCached
      (reportAt 9 (21 / 2) (-81 / 4) 90) (deviating (some (1 / 100))) :=
    fits_plain (by norm_num) (by norm_num [abs_of_pos])
  apply (magnetic_track_iff (exactDoubles exactHeight) gmtimeEpoch 0 nothingCached
    (reportAt 9 (21 / 2) (-81 / 4) 90) (deviating (some (1 / 100))) ⟨70, 0, 1, 0, 0, 0⟩ hfits rfl
    (by decide) (by decide +kernel) (by decide +kernel)).mpr
  change 0 ≤ (90 : ℚ) - 1 / 100 ∧ (90 : ℚ) - 1 / 100 ≤ 360 ∧
    roundHalfEven (90 * 10) = roundHalfEven ((90 - 1 / 100) * 10)
  decide +kernel

/-- Ten degrees do, in `$GPRMC` only. -/
theorem magnetic_track_not_sent :
    ¬ TrackSent 90 (some 10) (generatePos exactFloats (exactDoubles exactHeight) 0 nothingCached
      (reportAt 9 (21 / 2) (-81 / 4) 90) (deviating (some 10)) gmtimeEpoch true).2 := by
  rintro ⟨htrack, -⟩
  exact absurd htrack (by decide +kernel)

end G2Common.Nmea.Position
