import G2Common.Nmea.Exact
import G2Common.Progress

/-!
The format of all sentences. Whatever a report says and leaves out, each sentence of a run has
the number of fields of its kind, so that what reads them finds each field at its place.
-/

namespace G2Common.Nmea.Format

open Transition Position Gsv

section Count

variable {text : List Char}

theorem fields_ne_nil (text : List Char) : fields text ≠ [] := by
  cases text with
  | nil => exact List.cons_ne_nil _ _
  | cons c text =>
      rw [fields]
      split
      case isTrue => exact List.cons_ne_nil _ _
      case isFalse =>
        split
        all_goals exact List.cons_ne_nil _ _

/-- There is one field more than there are commas. -/
theorem length_fields (text : List Char) : (fields text).length = text.count ',' + 1 := by
  induction text with
  | nil => rfl
  | cons c text ih =>
      rw [fields]
      split
      case isTrue hcomma =>
        rw [hcomma, List.length_cons, ih, List.count_cons_self]
      case isFalse hother =>
        rw [List.count_cons_of_ne hother, ← ih]
        split
        case h_1 hnil => exact absurd hnil (fields_ne_nil text)
        case h_2 field rest hfields =>
          rw [hfields]
          rfl

theorem count_of_notMem (h : ',' ∉ text) : text.count ',' = 0 := List.count_eq_zero.mpr h

theorem comma_notMem_print02d (n : Nat) : ',' ∉ print02d n :=
  Decimal.notMem_padded rfl 2 n

/-- As many commas for each. -/
theorem count_flatMap {α : Type*} {f : α → List Char} {k : Nat} {l : List α}
    (h : ∀ a ∈ l, (f a).count ',' = k) : (l.flatMap f).count ',' = k * l.length := by
  induction l with
  | nil => rfl
  | cons a l ih =>
      have hrest := ih fun other hother => h other (List.mem_cons_of_mem _ hother)
      rw [List.flatMap_cons, List.count_append, h a List.mem_cons_self, hrest, List.length_cons,
        Nat.mul_succ, Nat.add_comm]

end Count

/-- The sentences that have always the same number of fields. -/
def kinds : List (List Char × Nat) :=
  [("$GPGSA".toList, 18), ("$GPVTG".toList, 10), ("$GPRMC".toList, 13), ("$GPGGA".toList, 15)]

/-- A sentence about satellites in view has four fields for each of up to four satellites, or an
empty one where there are none. -/
def HasFields (name : List Char) (n : Nat) : Prop :=
  (name, n) ∈ kinds ∨
    name ∈ [gpgsv, glgsv] ∧ (n = 5 ∨ ∃ k, 1 ≤ k ∧ k ≤ 4 ∧ n = 4 + 4 * k)

/-- A sentence has the number of fields that its name says. -/
def Conforms (text : List Char) : Prop :=
  ∃ name rest, fields text = name :: rest ∧ HasFields name (rest.length + 1)

theorem conforms_of_comma {name text : List Char} (hname : ',' ∉ name)
    (h : HasFields name (text.count ',' + 2)) : Conforms (name ++ ',' :: text) := by
  refine ⟨name, fields text, fields_comma hname text, ?_⟩
  rw [length_fields]
  exact h

theorem conforms_blanks : ∀ text ∈ blanks, Conforms text := by
  intro text htext
  rcases List.mem_cons.mp htext with rfl | htext
  · exact ⟨_, _, rfl, .inl (by decide)⟩
  rcases List.mem_cons.mp htext with rfl | htext
  · exact ⟨_, _, rfl, .inl (by decide)⟩
  rcases List.mem_cons.mp htext with rfl | htext
  · exact ⟨_, _, rfl, .inl (by decide)⟩
  obtain rfl := List.mem_singleton.mp htext
  exact ⟨_, _, rfl, .inl (by decide)⟩

section Gsv

variable {F : Type} (ops : SvFloatOps F) {talker : List Char} {isIn : GpsSvInfo F → Bool}

theorem count_svText (sv : GpsSvInfo F) : (svText ops sv).count ',' = 4 := by
  have hint (width : Nat) (i : Int) : (printInt width i).count ',' = 0 :=
    count_of_notMem (comma_notMem_printInt width i)
  rw [svText, svPosition, svSnr]
  split
  all_goals simp [hint]

theorem count_gsvHeader (sentenceCount sentenceNumber count : Nat) :
    (printInt 0 sentenceCount ++ [','] ++ printInt 0 sentenceNumber ++ [','] ++
      printInt 2 count).count ',' = 2 := by
  have hint (width : Nat) (i : Int) : (printInt width i).count ',' = 0 :=
    count_of_notMem (comma_notMem_printInt width i)
  simp [hint]

/-- The sentences up to the first that does not fit. -/
theorem conforms_gsvLoop (htalker : talker ∈ [gpgsv, glgsv]) {sentenceCount count turns : Nat}
    {sentenceNumber : Nat} {svs : List (GpsSvInfo F)}
    (hturns : 4 * turns < (svs.filter isIn).length + 4) :
    ∀ text ∈ (gsvLoop ops talker isIn sentenceCount count turns sentenceNumber svs).1,
      Conforms text := by
  have hcomma : ',' ∉ talker := by
    rcases List.mem_cons.mp htalker with rfl | htalker
    · decide
    · obtain rfl := List.mem_singleton.mp htalker
      decide
  induction turns generalizing sentenceNumber svs with
  | zero => exact List.forall_mem_nil _
  | succ turns ih =>
      intro text htext
      rw [gsvLoop] at htext
      split at htext
      case h_1 => cases htext
      case h_2 first rest hsentence =>
        obtain ⟨header, hheader, hsatellites⟩ := Option.bind_eq_some_iff.mp hsentence
        obtain ⟨hempty, -⟩ := append_eq_some.mp hheader
        obtain ⟨hfirst, hrest⟩ := svLoop_eq ops hsatellites
        rcases List.mem_cons.mp htext with rfl | hmore
        · have hsvs := count_flatMap (l := (svs.filter isIn).take 4)
            fun sv _ => count_svText ops sv
          rw [List.length_take] at hsvs
          have htext : text = talker ++ ',' :: (printInt 0 sentenceCount ++ [','] ++
              printInt 0 sentenceNumber ++ [','] ++ printInt 2 count ++
              ((svs.filter isIn).take 4).flatMap (svText ops)) := by
            rw [hfirst, hempty, List.nil_append, gsvHeader]
            simp only [List.append_assoc, List.cons_append, List.nil_append]
          rw [htext]
          apply conforms_of_comma hcomma
          refine .inr ⟨htalker, .inr ⟨min 4 (svs.filter isIn).length, ?_, ?_, ?_⟩⟩
          · omega
          · exact Nat.min_le_left _ _
          · rw [List.count_append, count_gsvHeader, hsvs]
            omega
        · refine ih ?_ text hmore
          rw [hrest, List.length_drop]
          omega

theorem conforms_gsv (isIn : GpsSvInfo F → Bool) (htalker : talker ∈ [gpgsv, glgsv])
    (svs : List (GpsSvInfo F)) :
    ∀ text ∈ (gsv ops talker isIn (svs.filter isIn).length svs).1, Conforms text := by
  rw [gsv]
  split
  case isTrue =>
    intro text htext
    obtain rfl := List.mem_singleton.mp htext
    rcases List.mem_cons.mp htalker with rfl | htalker
    · exact ⟨_, _, rfl, .inr ⟨by decide, .inl rfl⟩⟩
    · obtain rfl := List.mem_singleton.mp htalker
      exact ⟨_, _, rfl, .inr ⟨by decide, .inl rfl⟩⟩
  case isFalse =>
    apply conforms_gsvLoop ops htalker
    split
    all_goals omega

theorem conforms_generateSv (s : Caches F) (svStatus : GpsSvStatus F)
    (locationExtended : LocationExtended F) :
    ∀ text ∈ (Gsv.generateSv ops s svStatus locationExtended).2.1, Conforms text := by
  have hgps := conforms_gsv ops isGps List.mem_cons_self svStatus.svs
  have hgln := conforms_gsv ops isGlonass (List.mem_cons_of_mem _ List.mem_cons_self)
    svStatus.svs
  rw [Gsv.generateSv, counts_eq]
  dsimp only
  intro text htext
  split at htext
  case h_1 gps heq =>
    rw [heq] at hgps
    exact hgps text htext
  case h_2 gps heq =>
    rw [heq] at hgps
    split at htext
    case h_1 gln heq' =>
      rw [heq'] at hgln
      exact (List.mem_append.mp htext).elim (hgps text) (hgln text)
    case h_2 gln heq' =>
      rw [heq'] at hgln
      rcases List.mem_append.mp htext with hview | hblank
      · exact (List.mem_append.mp hview).elim (hgps text) (hgln text)
      · split at hblank
        case isTrue => exact conforms_blanks text hblank
        case isFalse => cases hblank

end Gsv

section Position

variable {F D : Type} {fl : Floats F} {db : Doubles F D} {s : Caches F}
  {location : GpsLocation F D} {ext : PositionExtended F}

theorem count_svField (svs : List Nat) (i : Nat) : (svField svs i).count ',' = 1 := by
  rw [svField]
  split
  case h_1 sv hsv =>
    rw [List.count_append, count_of_notMem (comma_notMem_print02d sv)]
    rfl
  case h_2 => rfl

theorem count_dopFields (h : Fits fl db s location ext) :
    (dopFields fl.toFloatOps s ext.toLocationExtended).count ',' = 2 := by
  have hdop {pdop hdop vdop : F} (hp : Short 43 (fl.print pdop)) (hh : Short 43 (fl.print hdop))
      (hv : Short 43 (fl.print vdop)) : (printDop fl.toFloatOps pdop hdop vdop).count ',' = 2 := by
    simp [printDop, count_of_notMem hp.noComma, count_of_notMem hh.noComma,
      count_of_notMem hv.noComma]
  rw [dopFields, cachedDop]
  split
  case isTrue => exact hdop (h.numbers _ (by simp)) (h.numbers _ (by simp)) (h.numbers _ (by simp))
  case isFalse =>
    split
    case isTrue =>
      exact hdop (h.numbers _ (by simp)) (h.numbers _ (by simp)) (h.numbers _ (by simp))
    case isFalse => rfl

theorem conforms_gpgsa (h : Fits fl db s location ext) :
    Conforms (Nmea.gpgsa fl.toFloatOps s ext.toLocationExtended) := by
  have hsvs := count_flatMap (l := List.range 12) fun i _ =>
    count_svField (svUsedList s.sv_used_mask) i
  have hdop := count_dopFields h
  obtain ⟨c, hc, hcomma⟩ : ∃ c, fixType (svUsedList s.sv_used_mask).length = c ∧ c ≠ ',' := by
    refine ⟨_, rfl, ?_⟩
    rw [fixType]
    split
    case isTrue => decide
    case isFalse =>
      split
      all_goals decide
  have htext : Nmea.gpgsa fl.toFloatOps s ext.toLocationExtended =
      "$GPGSA".toList ++ ',' :: (['A', ',', c, ','] ++
        (List.range 12).flatMap (svField (svUsedList s.sv_used_mask)) ++
        dopFields fl.toFloatOps s ext.toLocationExtended) := by
    rw [Nmea.gpgsa, hc]
    rfl
  rw [htext]
  apply conforms_of_comma (by decide)
  left
  rw [List.count_append, List.count_append, hsvs, hdop]
  simp [hcomma, kinds]

/-- The sentences that end with the mode. -/
theorem conforms_mode (mode : Int) {n : Nat} {name : List Char} {fs : List (List Char)}
    {fss : List (List (List Char))} (hfss : fss.flatten = name :: fs)
    (hshort : ShortFields n fss.flatten) (hn : n + 1 < NMEA_SENTENCE_MAX_LENGTH)
    (hkind : HasFields name (fss.flatten.length + 1)) :
    Conforms (appendLast (commas fss.flatten) [modeIndicator mode location]) := by
  refine ⟨name, fs ++ [[modeIndicator mode location]], ?_, ?_⟩
  · rw [fields_mode mode location hshort hn, List.flatten_append, hfss]
    rfl
  · rw [hfss] at hkind
    rw [List.length_append]
    exact hkind

theorem length_heightFields : (heightFields db location ext).length = 3 := by
  rw [heightFields]
  split
  all_goals rfl

theorem length_seaLevelFields : (seaLevelFields fl ext).length = 2 := by
  rw [seaLevelFields]
  split
  all_goals rfl

theorem shortFields_height
    (hheight : Short 50 (db.printHeight location.altitude ext.altitudeMeanSeaLevel)) :
    ShortFields 54 (heightFields db location ext) := by
  rw [heightFields]
  split
  case isTrue => exact .cons hheight (.cons (short_singleton (by decide)) (.cons .nil .nil))
  case isFalse => exact (ShortFields.cons .nil (.cons .nil (.cons .nil .nil))).mono (by decide)

theorem conforms_gpgga (h : Fits fl db s location ext) (tm : Tm) (mode : Int)
    (hheight : Short 50 (db.printHeight location.altitude ext.altitudeMeanSeaLevel)) :
    Conforms (appendLast (commas (ggaSegments fl db tm mode s location ext).flatten)
      (commas (heightFields db location ext))) := by
  have hgga : ShortFields 141 (ggaSegments fl db tm mode s location ext).flatten :=
    shortFields_gga h
  have hall := hgga.append (shortFields_height hheight)
  have hlength : (commas (ggaSegments fl db tm mode s location ext).flatten).length +
      (commas (heightFields db location ext)).length < NMEA_SENTENCE_MAX_LENGTH := by
    have hle := hgga.length_le
    have hle' := (shortFields_height hheight).length_le
    rw [NMEA_SENTENCE_MAX_LENGTH]
    omega
  have hcommas : commas ((ggaSegments fl db tm mode s location ext).flatten ++
      heightFields db location ext) ++ [] =
        commas (ggaSegments fl db tm mode s location ext).flatten ++
          commas (heightFields db location ext) := by
    rw [List.append_nil, commas, List.flatMap_append]
    rfl
  have hgroups : (ggaSegments fl db tm mode s location ext).flatten =
      "$GPGGA".toList :: timeField tm :: (positionFields db location ++
        (qualityFields fl mode s location ext ++ (seaLevelFields fl ext ++ []))) := rfl
  refine ⟨"$GPGGA".toList, timeField tm :: (positionFields db location ++
    (qualityFields fl mode s location ext ++ (seaLevelFields fl ext ++ []))) ++
      heightFields db location ext ++ [[]], ?_, ?_⟩
  · rw [appendLast_eq hlength, ← hcommas, fields_commas hall.noComma, hgroups]
    rfl
  · left
    simp [length_heightFields, length_seaLevelFields, kinds, qualityFields]

theorem conforms_generatePos (h : Fits fl db s location ext) (mode : Int)
    (gmtime : Int → Option Tm) (generate_nmea : Bool)
    (hheight : Short 50 (db.printHeight location.altitude ext.altitudeMeanSeaLevel)) :
    ∀ text ∈ (Position.generatePos fl db mode s location ext gmtime generate_nmea).2,
      Conforms text := by
  intro text htext
  cases htm : gmtime (location.timestamp.tdiv 1000) with
  | none =>
      rw [Position.generatePos, htm] at htext
      cases htext
  | some tm =>
      cases generate_nmea with
      | false =>
          rw [Position.generatePos, htm] at htext
          exact conforms_blanks text htext
      | true =>
          rw [generatePos_eq h htm] at htext
          rcases List.mem_cons.mp htext with rfl | htext
          · exact conforms_gpgsa h
          rcases List.mem_cons.mp htext with rfl | htext
          · have hlength : (vtgSegments fl location).flatten.length = 9 := by
              simp [vtgSegments]
            apply conforms_mode mode rfl (shortFields_vtg h) (by decide)
            rw [hlength]
            exact .inl (by decide)
          rcases List.mem_cons.mp htext with rfl | htext
          · have hlength : (rmcSegments fl db tm location ext).flatten.length = 12 := by
              simp [rmcSegments]
            apply conforms_mode mode rfl (shortFields_rmc h) (by decide)
            rw [hlength]
            exact .inl (by decide)
          obtain rfl := List.mem_singleton.mp htext
          exact conforms_gpgga h tm mode hheight

end Position

/-- The two reports from which sentences are made. -/
inductive Report (F D : Type) where
  | position (location : GpsLocation F D) (ext : PositionExtended F) (mode : Int)
      (generate_nmea : Bool)
  | satellites (svStatus : GpsSvStatus F) (ext : LocationExtended F)

section Runs

variable {F D : Type} (fl : Floats F) (rounded : F → Int) (db : Doubles F D)
  (gmtime : Int → Option Tm)

def machine (s : Caches F) : Report F D → Caches F × List (List Char)
  | .position location ext mode generate_nmea =>
      Position.generatePos fl db mode s location ext gmtime generate_nmea
  | .satellites svStatus ext =>
      let (s, sent, _) := Gsv.generateSv { fl.toFloatOps with rounded := rounded } s svStatus ext
      (s, sent)

/-- The numbers of a report are printed as short as those of a machine, and the height has no
more than 50 characters. -/
def Printable : Report F D → Prop
  | .position location ext _ _ =>
      (∀ x ∈ [location.bearing, fl.knots location.speed, fl.kmPerHour location.speed,
        ext.magneticDeviation, fl.neg ext.magneticDeviation, ext.altitudeMeanSeaLevel,
        ext.pdop, ext.hdop, ext.vdop], Short 43 (fl.print x)) ∧
      Short 50 (db.printHeight location.altitude ext.altitudeMeanSeaLevel)
  | .satellites _ ext => ∀ x ∈ [ext.pdop, ext.hdop, ext.vdop], Short 43 (fl.print x)

/-- The numbers in the caches come from reports. -/
structure Sound (t : Traced (Caches F) (List Char)) : Prop where
  caches : ∀ x ∈ [t.state.pdop, t.state.hdop, t.state.vdop], Short 43 (fl.print x)
  log : ∀ text ∈ t.log, Conforms text

variable {fl db} {s : Caches F}

/-- The numbers that are printed of caches. -/
def CachesShort (fl : Floats F) (s : Caches F) : Prop :=
  ∀ x ∈ [s.pdop, s.hdop, s.vdop], Short 43 (fl.print x)

theorem cachesShort_clearDop (hzero : Short 43 (fl.print fl.zero)) (s : Caches F) :
    CachesShort fl (clearDop fl s) := by
  intro x hx
  simp only [clearDop, List.mem_cons, List.not_mem_nil, or_false, or_self] at hx
  rw [hx]
  exact hzero

theorem caches_generatePos (hzero : Short 43 (fl.print fl.zero)) (hs : CachesShort fl s)
    (location : GpsLocation F D) (ext : PositionExtended F) (mode : Int)
    (generate_nmea : Bool) :
    CachesShort fl (Position.generatePos fl db mode s location ext gmtime generate_nmea).1 := by
  rw [Position.generatePos]
  split
  case h_1 => exact hs
  case h_2 tm =>
    split
    case isTrue =>
      dsimp only
      split
      case isTrue => exact cachesShort_clearDop hzero _
      case isFalse => exact hs
    case isFalse => exact cachesShort_clearDop hzero s

theorem caches_generateSv (hzero : Short 43 (fl.print fl.zero)) (hs : CachesShort fl s)
    (svStatus : GpsSvStatus F) {ext : LocationExtended F}
    (hext : ∀ x ∈ [ext.pdop, ext.hdop, ext.vdop], Short 43 (fl.print x)) :
    CachesShort fl
      (Gsv.generateSv { fl.toFloatOps with rounded := rounded } s svStatus ext).1 := by
  rw [Gsv.generateSv]
  dsimp only
  split
  case h_1 => exact hs
  case h_2 =>
    split
    case h_1 => exact hs
    case h_2 =>
      rw [Nmea.generateSv]
      split
      case isTrue => exact hs
      case isFalse =>
        split
        case isTrue => exact hext
        case isFalse => exact cachesShort_clearDop hzero s

theorem sound_step (hzero : Short 43 (fl.print fl.zero))
    (hminutes : ∀ x, Short 10 (db.printMinutes (db.minutes x)))
    (t : Traced (Caches F) (List Char)) (report : Report F D) (ht : Sound fl t)
    (hreport : Printable fl db report) :
    Sound fl (t.step (machine fl rounded db gmtime) report) := by
  have hlog {sent : List (List Char)} (hsent : ∀ text ∈ sent, Conforms text) :
      ∀ text ∈ t.log ++ sent, Conforms text :=
    fun text htext => (List.mem_append.mp htext).elim (ht.log text) (hsent text)
  cases report with
  | position location ext mode generate_nmea =>
      obtain ⟨hnumbers, hheight⟩ := hreport
      have hfits : Fits fl db t.state location ext := by
        constructor
        · exact List.forall_mem_append.mpr ⟨hnumbers, ht.caches⟩
        · exact hminutes
      constructor
      · exact caches_generatePos gmtime hzero ht.caches location ext mode generate_nmea
      · exact hlog (conforms_generatePos hfits mode gmtime generate_nmea hheight)
  | satellites svStatus ext =>
      constructor
      · exact caches_generateSv rounded hzero ht.caches svStatus hreport
      · exact hlog (conforms_generateSv _ t.state svStatus ext)

/-- In every run of reports, whichever fields they have, each sentence has the number of fields
of its kind. -/
theorem sentences_conform (hzero : Short 43 (fl.print fl.zero))
    (hminutes : ∀ x, Short 10 (db.printMinutes (db.minutes x))) (reports : List (Report F D))
    (hreports : ∀ report ∈ reports, Printable fl db report) :
    ∀ text ∈ (run (Traced.step (machine fl rounded db gmtime)) ⟨Nmea.init fl.toFloatOps, []⟩
      reports).log, Conforms text := by
  have hstart : Sound fl ⟨Nmea.init fl.toFloatOps, []⟩ :=
    ⟨cachesShort_clearDop hzero (Nmea.init fl.toFloatOps), List.forall_mem_nil _⟩
  exact (run_invariant (fun t report => sound_step rounded gmtime hzero hminutes t report) hstart
    (meets_of_forall _ _ hreports)).log

end Runs

/-- A position with nothing but a bearing, and one with nothing. -/
theorem sentences_conform_bearing :
    ∀ text ∈ (run (Traced.step (machine exactFloats (fun x => ⌊x⌋) (exactDoubles exactHeight)
      gmtimeEpoch)) ⟨Nmea.init exactFloats.toFloatOps, []⟩
      [.position (reportAt GPS_LOCATION_HAS_BEARING 0 0 90) (deviating none) 0 true,
        .position (reportAt 0 0 0 0) (deviating none) 0 false]).log, Conforms text := by
  have hzero : Short 43 (exactFloats.print 0) := short_print (by norm_num)
  have hheight : Short 50 (exactHeight 0 0) := by
    rw [exactHeight, sub_zero]
    exact ⟨Nat.le_trans hzero.length_le (by decide), hzero.noComma⟩
  have hplain {flags : UInt16} {bearing : ℚ} (hbearing : |bearing| < 2 ^ 128) (generate : Bool) :
      Printable exactFloats (exactDoubles exactHeight)
        (.position (reportAt flags 0 0 bearing) (deviating none) 0 generate) := by
    have hfits : Fits exactFloats (exactDoubles exactHeight) nothingCached
        (reportAt flags 0 0 bearing) (deviating none) := fits_plain hbearing (by norm_num)
    exact ⟨fun x hx => hfits.numbers x (List.mem_append_left [0, 0, 0] hx), hheight⟩
  apply sentences_conform (fun x => ⌊x⌋) gmtimeEpoch hzero (short_minutes exactHeight)
  rw [List.forall_mem_cons, List.forall_mem_singleton]
  constructor
  · exact hplain (by norm_num) true
  · exact hplain (by norm_num) false

end G2Common.Nmea.Format
