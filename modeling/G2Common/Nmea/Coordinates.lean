import G2Common.Nmea.Exact
import Mathlib.Tactic.LinearCombination

/-!
The latitude and the longitude in `$GPRMC` and `$GPGGA`, in exact arithmetic. The degrees are
cut and the minutes rounded, each for itself.
-/

namespace G2Common.Nmea.Position

open Decimal

/-- What a text of digits says. -/
def value (digits : List Char) : Nat := Nat.ofDigitChars 10 digits 0

/-- The two fields of a coordinate: degrees with so many digits, minutes below 60 with six
places, and the hemisphere. Read again, they differ from `x` by at most a half of the last
place. -/
def Encodes (width : Nat) (positive negative : Char) (x : ℚ) (field hemisphere : List Char) :
    Prop :=
  ∃ degrees minutes fraction : List Char, ∃ sign : ℚ,
    field = degrees ++ (minutes ++ '.' :: fraction) ∧
    (degrees.length = width ∧ minutes.length = 2 ∧ fraction.length = 6) ∧
    (∀ c ∈ degrees ++ (minutes ++ fraction), c.isDigit) ∧
    value minutes < 60 ∧
    (sign = 1 ∧ hemisphere = [positive] ∨ sign = -1 ∧ hemisphere = [negative]) ∧
    |60 * (sign * (value degrees + (value minutes + value fraction / 10 ^ 6) / 60) - x)| ≤
      1 / 2 * (1 / 10 ^ 6)

/-- Both sentences have the same fields, and these encode the position. -/
def PositionEncoded (latitude longitude : ℚ) (sent : List (List Char)) : Prop :=
  ∃ lat latHemisphere lon lonHemisphere : List Char,
    (∀ k < 4, sentField sent 2 (3 + k) = [lat, latHemisphere, lon, lonHemisphere][k]? ∧
      sentField sent 3 (2 + k) = [lat, latHemisphere, lon, lonHemisphere][k]?) ∧
    Encodes 2 'N' 'S' latitude lat latHemisphere ∧ Encodes 3 'E' 'W' longitude lon lonHemisphere

/-- The minutes behind the whole degrees. -/
def minutesOf (x : ℚ) : ℚ := 60 * Int.fract |x|

/-- The minutes are not rounded up to 60. -/
def RoundsBelow (x : ℚ) : Prop := minutesOf x < 60 - 1 / 2 * (1 / 10 ^ 6)

/-- The field of a coordinate as it is printed. -/
def coordinate (width : Nat) (x : ℚ) : List Char :=
  padded width (UInt8.ofNat ⌊|x|⌋.toNat).toNat ++ fixed 9 6 (minutesOf x)

section Coordinates

variable {width : Nat} {positive negative : Char} {x : ℚ} {hemisphere : List Char}

theorem minutesOf_nonneg (x : ℚ) : 0 ≤ minutesOf x :=
  mul_nonneg (by norm_num) (Int.fract_nonneg _)

theorem minutesOf_lt (x : ℚ) : minutesOf x < 60 := by
  have hlt := Int.fract_lt_one |x|
  rw [minutesOf]
  linarith

theorem scaled_minutesOf_lt_iff : scaled 6 (minutesOf x) < 60 * 10 ^ 6 ↔ RoundsBelow x := by
  have hround : 0 ≤ roundHalfEven (minutesOf x * 10 ^ 6) :=
    roundHalfEven_nonneg (mul_nonneg (minutesOf_nonneg x) (by norm_num))
  have hiff := roundHalfEven_lt_iff (q := minutesOf x * 10 ^ 6) (n := 60 * 10 ^ 6) rfl
  rw [scaled, abs_of_nonneg (minutesOf_nonneg x), RoundsBelow]
  push_cast at hiff
  constructor
  · intro hlt
    have hbelow := hiff.mp (by omega)
    linarith
  · intro hlt
    have hbelow := hiff.mpr (by linarith)
    omega

/-- The minutes stand in front of the point with two digits. -/
theorem coordinate_eq (h : ⌊|x|⌋.toNat < 256) :
    coordinate width x = padded width ⌊|x|⌋.toNat ++
      (padded 2 (scaled 6 (minutesOf x) / 10 ^ 6) ++
        '.' :: padded 6 (scaled 6 (minutesOf x) % 10 ^ 6)) := by
  have hlt := minutesOf_lt x
  have hbound : |minutesOf x| + 1 ≤ 10 ^ 2 := by
    rw [abs_of_nonneg (minutesOf_nonneg x)]
    linarith
  rw [coordinate, UInt8.toNat_ofNat_of_lt' h,
    ← fixed_padded (by decide) (by decide) (minutesOf_nonneg x)
      (scaled_div_lt (by decide) hbound)]

/-- What is read again is off by the rounding of the minutes only. -/
theorem abs_decoded_sub_le {sign : ℚ} (hsign : sign * |x| = x) (hone : |sign| = 1) :
    |60 * (sign * ((⌊|x|⌋.toNat : ℚ) + (((scaled 6 (minutesOf x) / 10 ^ 6 : ℕ) : ℚ) +
      ((scaled 6 (minutesOf x) % 10 ^ 6 : ℕ) : ℚ) / 10 ^ 6) / 60) - x)| ≤
        1 / 2 * (1 / 10 ^ 6) := by
  have hfloor : ((⌊|x|⌋.toNat : ℤ) : ℚ) = ⌊|x|⌋ := by
    rw [Int.toNat_of_nonneg (Int.floor_nonneg.mpr (abs_nonneg x))]
  have hfract := Int.floor_add_fract |x|
  have hdigits : ((10 ^ 6 * (scaled 6 (minutesOf x) / 10 ^ 6) + scaled 6 (minutesOf x) % 10 ^ 6 :
      ℕ) : ℚ) = (scaled 6 (minutesOf x) : ℕ) := by
    rw [Nat.div_add_mod]
  have hround := @abs_scaled_sub_le 6 (minutesOf x) (minutesOf_nonneg x)
  push_cast at hfloor hdigits
  have hoff : 60 * (sign * ((⌊|x|⌋.toNat : ℚ) + (((scaled 6 (minutesOf x) / 10 ^ 6 : ℕ) : ℚ) +
      ((scaled 6 (minutesOf x) % 10 ^ 6 : ℕ) : ℚ) / 10 ^ 6) / 60) - x) =
        sign * ((scaled 6 (minutesOf x) : ℚ) / 10 ^ 6 - minutesOf x) := by
    have hminutes : minutesOf x = 60 * Int.fract |x| := rfl
    linear_combination (60 * sign) * hfloor + (sign / 10 ^ 6) * hdigits + (60 * sign) * hfract +
      60 * hsign + sign * hminutes
  rwa [hoff, abs_mul, hone, one_mul]

theorem encodes_of_roundsBelow (hwidth : 0 < width) (hdegrees : ⌊|x|⌋.toNat < 10 ^ width)
    (hbyte : ⌊|x|⌋.toNat < 256) {sign : ℚ} (hsign : sign * |x| = x)
    (hhemisphere : sign = 1 ∧ hemisphere = [positive] ∨ sign = -1 ∧ hemisphere = [negative])
    (h : RoundsBelow x) : Encodes width positive negative x (coordinate width x) hemisphere := by
  have hminutes := scaled_minutesOf_lt_iff.mpr h
  have hone : |sign| = 1 := by
    rcases hhemisphere with ⟨rfl, -⟩ | ⟨rfl, -⟩ <;> norm_num
  refine ⟨_, _, _, sign, coordinate_eq hbyte, ⟨length_padded hwidth hdegrees,
    length_padded (by decide) (by omega), length_padded (by decide) (by omega)⟩, ?_, ?_,
    hhemisphere, ?_⟩
  · intro c hc
    rcases List.mem_append.mp hc with hc | hc
    · exact isDigit_of_mem_padded hc
    · rcases List.mem_append.mp hc with hc | hc <;> exact isDigit_of_mem_padded hc
  · rw [value, value_padded]
    omega
  · simp only [value, value_padded]
    exact abs_decoded_sub_le hsign hone

theorem encodes_iff (hwidth : 0 < width) (hdegrees : ⌊|x|⌋.toNat < 10 ^ width)
    (hbyte : ⌊|x|⌋.toNat < 256) {sign : ℚ} (hsign : sign * |x| = x)
    (hhemisphere : sign = 1 ∧ hemisphere = [positive] ∨ sign = -1 ∧ hemisphere = [negative]) :
    Encodes width positive negative x (coordinate width x) hemisphere ↔ RoundsBelow x := by
  refine ⟨?_, encodes_of_roundsBelow hwidth hdegrees hbyte hsign hhemisphere⟩
  rintro ⟨degrees, minutes, fraction, -, hfield, ⟨hdegreesLength, hminutesLength, -⟩, -, hlt, -⟩
  have hlength := length_padded hwidth hdegrees
  have hscaled : scaled 6 (minutesOf x) / 10 ^ 6 < 10 ^ 2 := by
    apply scaled_div_lt (by decide)
    rw [abs_of_nonneg (minutesOf_nonneg x)]
    linarith [minutesOf_lt x]
  rw [coordinate_eq hbyte] at hfield
  obtain ⟨-, hrest⟩ := List.append_inj hfield (hlength.trans hdegreesLength.symm)
  obtain ⟨rfl, -⟩ := List.append_inj hrest
    ((length_padded (by decide) hscaled).trans hminutesLength.symm)
  rw [value, value_padded] at hlt
  apply scaled_minutesOf_lt_iff.mp
  omega

theorem toNat_floor_le {n : ℕ} (h : |x| ≤ n) : ⌊|x|⌋.toNat ≤ n := by
  have hfloor : ⌊|x|⌋ ≤ (n : ℤ) := by
    exact_mod_cast (Int.floor_le |x|).trans h
  omega

end Coordinates

section Sent

variable {F : Type} {printHeight : ℚ → F → List Char} {location : GpsLocation F ℚ}

theorem positionFields_exact (h : location.has GPS_LOCATION_HAS_LAT_LONG = true) :
    positionFields (exactDoubles printHeight) location =
      [coordinate 2 location.latitude, [if 0 < location.latitude then 'N' else 'S'],
        coordinate 3 location.longitude, [if location.longitude < 0 then 'W' else 'E']] := by
  have hfield (width : Nat) (x : ℚ) :
      padded width ((exactDoubles printHeight).degrees |x|).toNat ++
        (exactDoubles printHeight).printMinutes ((exactDoubles printHeight).minutes |x|) =
          coordinate width x := by
    rw [minutes_of_nonneg printHeight (abs_nonneg x)]
    rfl
  have hlatitude : (if (exactDoubles printHeight).positive location.latitude then
      (location.latitude, 'N') else ((exactDoubles printHeight).neg location.latitude, 'S')) =
        (|location.latitude|, if 0 < location.latitude then 'N' else 'S') := by
    by_cases hpositive : 0 < location.latitude
    · simp [exactDoubles, hpositive, abs_of_pos hpositive]
    · simp [exactDoubles, hpositive, abs_of_nonpos (not_lt.mp hpositive)]
  have hlongitude : (if (exactDoubles printHeight).negative location.longitude then
      ((exactDoubles printHeight).neg location.longitude, 'W') else (location.longitude, 'E')) =
        (|location.longitude|, if location.longitude < 0 then 'W' else 'E') := by
    by_cases hnegative : location.longitude < 0
    · simp [exactDoubles, hnegative, abs_of_neg hnegative]
    · simp [exactDoubles, hnegative, abs_of_nonneg (not_lt.mp hnegative)]
  rw [positionFields, if_pos h, hlatitude, hlongitude]
  dsimp only
  rw [printInt_natCast, ← hfield, ← hfield]
  rfl

/-- The sign that the hemisphere stands for. -/
theorem sign_latitude (x : ℚ) : ∃ sign : ℚ, sign * |x| = x ∧
    (sign = 1 ∧ [if 0 < x then 'N' else 'S'] = ['N'] ∨
      sign = -1 ∧ [if 0 < x then 'N' else 'S'] = ['S']) := by
  by_cases hpositive : 0 < x
  · exact ⟨1, by rw [one_mul, abs_of_pos hpositive], .inl ⟨rfl, by rw [if_pos hpositive]⟩⟩
  · have habs := abs_of_nonpos (not_lt.mp hpositive)
    exact ⟨-1, by rw [habs, neg_mul_neg, one_mul], .inr ⟨rfl, by rw [if_neg hpositive]⟩⟩

theorem sign_longitude (x : ℚ) : ∃ sign : ℚ, sign * |x| = x ∧
    (sign = 1 ∧ [if x < 0 then 'W' else 'E'] = ['E'] ∨
      sign = -1 ∧ [if x < 0 then 'W' else 'E'] = ['W']) := by
  by_cases hnegative : x < 0
  · have habs := abs_of_neg hnegative
    exact ⟨-1, by rw [habs, neg_mul_neg, one_mul], .inr ⟨rfl, by rw [if_pos hnegative]⟩⟩
  · have habs := abs_of_nonneg (not_lt.mp hnegative)
    exact ⟨1, by rw [habs, one_mul], .inl ⟨rfl, by rw [if_neg hnegative]⟩⟩

end Sent

/-- The position is encoded where neither coordinate is just below a whole degree, and only
there. -/
theorem position_encoded_iff {F : Type} (fl : Floats F) (printHeight : ℚ → F → List Char)
    (gmtime : Int → Option Tm) (mode : Int) (s : Caches F) (location : GpsLocation F ℚ)
    (ext : PositionExtended F) (tm : Tm)
    (hfits : Fits fl (exactDoubles printHeight) s location ext)
    (htm : gmtime (location.timestamp.tdiv 1000) = some tm)
    (hlatLong : location.has GPS_LOCATION_HAS_LAT_LONG = true)
    (hlatitude : |location.latitude| ≤ 90) (hlongitude : |location.longitude| ≤ 180) :
    PositionEncoded location.latitude location.longitude
        (generatePos fl (exactDoubles printHeight) mode s location ext gmtime true).2 ↔
      RoundsBelow location.latitude ∧ RoundsBelow location.longitude := by
  have hrmc {k : Nat} (hk : k < 4) : sentField (generatePos fl (exactDoubles printHeight) mode s
      location ext gmtime true).2 2 (3 + k) = _ := field_rmcPosition hfits htm hk
  have hgga {k : Nat} (hk : k < 4) : sentField (generatePos fl (exactDoubles printHeight) mode s
      location ext gmtime true).2 3 (2 + k) = _ := field_ggaPosition hfits htm hk
  rw [positionFields_exact hlatLong] at hrmc hgga
  have hlatDegrees := toNat_floor_le (n := 90) hlatitude
  have hlonDegrees := toNat_floor_le (n := 180) hlongitude
  obtain ⟨latSign, hlatSign, hlatHemisphere⟩ := sign_latitude location.latitude
  obtain ⟨lonSign, hlonSign, hlonHemisphere⟩ := sign_longitude location.longitude
  have hlat := encodes_iff (by decide : 0 < 2) (by omega) (by omega) hlatSign hlatHemisphere
  have hlon := encodes_iff (by decide : 0 < 3) (by omega) (by omega) hlonSign hlonHemisphere
  constructor
  · rintro ⟨lat, latHemisphere, lon, lonHemisphere, hfields, hlatField, hlonField⟩
    have hsame {k : Nat} (hk : k < 4) := (hrmc hk).symm.trans (hfields k hk).1
    obtain rfl : _ = lat := Option.some.inj (hsame (by decide : 0 < 4))
    obtain rfl : _ = latHemisphere := Option.some.inj (hsame (by decide : 1 < 4))
    obtain rfl : _ = lon := Option.some.inj (hsame (by decide : 2 < 4))
    obtain rfl : _ = lonHemisphere := Option.some.inj (hsame (by decide : 3 < 4))
    exact ⟨hlat.mp hlatField, hlon.mp hlonField⟩
  · rintro ⟨hlatBelow, hlonBelow⟩
    exact ⟨_, _, _, _, fun k hk => ⟨hrmc hk, hgga hk⟩, hlat.mpr hlatBelow, hlon.mpr hlonBelow⟩

theorem position_encoded_iff_southwest :
    PositionEncoded (-21 / 2) (-81 / 4) (generatePos exactFloats (exactDoubles exactHeight) 0
      nothingCached (reportAt 1 (-21 / 2) (-81 / 4) 0) (deviating none) gmtimeEpoch true).2 := by
  have hfits : Fits exactFloats (exactDoubles exactHeight) nothingCached
      (reportAt 1 (-21 / 2) (-81 / 4) 0) (deviating none) := fits_plain (by simp) (by simp)
  apply (position_encoded_iff exactFloats exactHeight gmtimeEpoch 0 nothingCached
    (reportAt 1 (-21 / 2) (-81 / 4) 0) (deviating none) ⟨70, 0, 1, 0, 0, 0⟩ hfits rfl (by decide)
    (by decide +kernel) (by decide +kernel)).mpr
  rw [RoundsBelow, RoundsBelow]
  decide +kernel

/-- A latitude just below 10 degrees. -/
def belowTen : ℚ := 10 - 1 / 10 ^ 9

theorem minutes_rounded_up :
    ¬ PositionEncoded belowTen 0 (generatePos exactFloats (exactDoubles exactHeight) 0
      nothingCached (reportAt 1 belowTen 0 0) (deviating none) gmtimeEpoch true).2 := by
  have hsent : sentField (generatePos exactFloats (exactDoubles exactHeight) 0 nothingCached
      (reportAt 1 belowTen 0 0) (deviating none) gmtimeEpoch true).2 2 3 =
        some (['0', '9'] ++ (['6', '0'] ++ '.' :: ['0', '0', '0', '0', '0', '0'])) := by
    decide +kernel
  rintro ⟨lat, _, _, _, hfields, ⟨degrees, minutes, fraction, -, hlat, ⟨hdegrees, hminutes, -⟩, -,
    hlt, -⟩, -⟩
  obtain rfl : _ = lat := Option.some.inj (hsent.symm.trans (hfields 0 (by decide)).1)
  obtain ⟨-, hrest⟩ := List.append_inj hlat hdegrees.symm
  obtain ⟨rfl, -⟩ := List.append_inj hrest hminutes.symm
  exact absurd hlt (by decide)

end G2Common.Nmea.Position
