import G2Common.Nmea.Position

/-!
Exact arithmetic for the sentences about a position: the numbers are rationals, and what is
printed is the nearest multiple of the last place.
-/

namespace G2Common.Nmea.Position

open Decimal

/-- `fmod`, the quotient of which is truncated. -/
def fmod (x y : ℚ) : ℚ := x - y * (if x / y < 0 then ⌈x / y⌉ else ⌊x / y⌋)

def exactFloats : Floats ℚ where
  zero := 0
  positive x := 0 < x
  print := fixed 0 1
  positive_zero := rfl
  negative x := x < 0
  neg x := x * (-1)
  knots x := x * (3600 / 1852)
  kmPerHour x := x * (36 / 10)

/-- A height is printed as the results need not know. -/
def exactDoubles {F : Type} (printHeight : ℚ → F → List Char) : Doubles F ℚ where
  positive x := 0 < x
  negative x := x < 0
  neg x := x * (-1)
  degrees x := UInt8.ofNat ⌊x⌋.toNat
  minutes x := fmod (x * 60) 60
  printMinutes := fixed 9 6
  printHeight := printHeight

section Exact

variable {x y : ℚ}

theorem abs_fmod_lt (hy : 0 < y) : |fmod x y| < y := by
  have hquotient : y * (x / y) = x := mul_div_cancel₀ x hy.ne'
  rw [fmod, abs_lt]
  split
  case isTrue =>
    have hle := mul_le_mul_of_nonneg_left (Int.le_ceil (x / y)) hy.le
    have hlt := mul_lt_mul_of_pos_left (Int.ceil_lt_add_one (x / y)) hy
    constructor <;> linarith
  case isFalse =>
    have hle := mul_le_mul_of_nonneg_left (Int.floor_le (x / y)) hy.le
    have hlt := mul_lt_mul_of_pos_left (Int.lt_floor_add_one (x / y)) hy
    constructor <;> linarith

theorem minutes_of_nonneg {F : Type} (printHeight : ℚ → F → List Char) (hx : 0 ≤ x) :
    (exactDoubles printHeight).minutes x = 60 * Int.fract x := by
  have hquotient : x * 60 / 60 = x := mul_div_cancel_right₀ x (by norm_num)
  change fmod (x * 60) 60 = _
  rw [fmod, hquotient, if_neg hx.not_gt, Int.fract]
  ring

theorem short_minutes {F : Type} (printHeight : ℚ → F → List Char) (x : ℚ) :
    Short 10 ((exactDoubles printHeight).printMinutes ((exactDoubles printHeight).minutes x)) where
  length_le := by
    have hlt : |fmod (x * 60) 60| < 60 := abs_fmod_lt (by norm_num)
    have hbound : |fmod (x * 60) 60| + 1 ≤ 10 ^ 2 := by linarith
    exact length_fixed (by decide) (by decide) (scaled_div_lt (by decide) hbound)
  noComma := comma_notMem_fixed 9 6 _

theorem short_print (hx : |x| + 1 ≤ 10 ^ 40) : Short 43 (exactFloats.print x) where
  length_le := length_fixed (by decide) (by decide) (scaled_div_lt (by decide) hx)
  noComma := comma_notMem_fixed 0 1 x

/-- Numbers in the range of a `float` fit, the speed also in its units. -/
theorem fits_exact {D : Type} {db : Doubles ℚ D} {s : Caches ℚ} {location : GpsLocation ℚ D}
    {ext : PositionExtended ℚ} (hminutes : ∀ x, Short 10 (db.printMinutes (db.minutes x)))
    (h : ∀ x ∈ [location.bearing, location.speed, ext.magneticDeviation,
      ext.altitudeMeanSeaLevel, ext.pdop, ext.hdop, ext.vdop, s.pdop, s.hdop, s.vdop],
      |x| < 2 ^ 128) : Fits exactFloats db s location ext where
  minutes := hminutes
  numbers := by
    have hshort {x factor : ℚ} (hfactor : |factor| ≤ 4) (hx : |x| < 2 ^ 128) :
        Short 43 (exactFloats.print (x * factor)) := by
      apply short_print
      rw [abs_mul]
      have hle := mul_le_mul hx.le hfactor (abs_nonneg factor) (by positivity)
      linarith
    have hsame {x : ℚ} (hx : |x| < 2 ^ 128) : Short 43 (exactFloats.print x) := by
      apply short_print
      linarith
    simp only [List.forall_mem_cons] at h ⊢
    obtain ⟨hbearing, hspeed, hdeviation, hlevel, hep, heh, hev, hp, hh, hv, -⟩ := h
    have hneg : |(-1 : ℚ)| ≤ 4 := by norm_num
    have hknots : |(3600 / 1852 : ℚ)| ≤ 4 := by norm_num
    have hkmPerHour : |(36 / 10 : ℚ)| ≤ 4 := by norm_num
    exact ⟨hsame hbearing, hshort hknots hspeed, hshort hkmPerHour hspeed, hsame hdeviation,
      hshort hneg hdeviation, hsame hlevel, hsame hep, hsame heh, hsame hev, hsame hp, hsame hh,
      hsame hv, by simp⟩

end Exact

/-- The height above the sea level, as it is printed of exact numbers. -/
def exactHeight (altitude level : ℚ) : List Char := fixed 0 1 (altitude - level)

/-- The report has the position and perhaps the bearing, and the time 0. -/
def reportAt (flags : UInt16) (latitude longitude bearing : ℚ) : GpsLocation ℚ ℚ :=
  ⟨flags, latitude, longitude, 0, 0, bearing, 0⟩

def nothingCached : Caches ℚ := ⟨0, 0, 0, 0⟩

/-- What is known about the magnetic deviation, and nothing else. -/
def deviating (magneticDeviation : Option ℚ) : PositionExtended ℚ where
  hasDop := false
  pdop := 0
  hdop := 0
  vdop := 0
  hasMagDev := magneticDeviation.isSome
  magneticDeviation := magneticDeviation.getD 0
  hasAltitudeMeanSeaLevel := false
  altitudeMeanSeaLevel := 0

theorem fits_plain {flags : UInt16} {latitude longitude bearing : ℚ} {deviation : Option ℚ}
    (hbearing : |bearing| < 2 ^ 128) (hdeviation : |deviation.getD 0| < 2 ^ 128) :
    Fits exactFloats (exactDoubles exactHeight) nothingCached
      (reportAt flags latitude longitude bearing) (deviating deviation) := by
  apply fits_exact (short_minutes exactHeight)
  simp [reportAt, deviating, nothingCached, hbearing, hdeviation]

def gmtimeEpoch : Int → Option Tm
  | 0 => some ⟨70, 0, 1, 0, 0, 0⟩
  | _ => none

end G2Common.Nmea.Position
