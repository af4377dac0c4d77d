import G2Common.Utils.LocCfgUpdate

/-!
`loc_eng_configuration_update`: a text sets the fields of `gps_conf`, and all but four of
them are set back. The adapter hears of each of the four that has changed.
-/

namespace G2Common.Eng

open Utils Settings

/-- `loc_gps_cfg_s_type`, with the servers as C strings. -/
structure LocGpsCfg where
  INTERMEDIATE_POS : UInt32
  ACCURACY_THRES : UInt32
  SUPL_VER : UInt32
  SUPL_MODE : UInt32
  CAPABILITIES : UInt32
  LPP_PROFILE : UInt32
  XTRA_VERSION_CHECK : UInt32
  XTRA_SERVER_1 : List Char
  XTRA_SERVER_2 : List Char
  XTRA_SERVER_3 : List Char
  USE_EMERGENCY_PDN_FOR_EMERGENCY_SUPL : UInt32
  NMEA_PROVIDER : UInt32
  GPS_LOCK : UInt32
  A_GLONASS_POS_PROTOCOL_SELECT : UInt32
  AGPS_CERT_WRITABLE_MASK : UInt32
  deriving DecidableEq, Repr

/-- The defaults of `loc_default_parameters`, with what is not set there left zero. -/
def defaultConf : LocGpsCfg where
  INTERMEDIATE_POS := 0
  ACCURACY_THRES := 0
  SUPL_VER := 0x10000
  SUPL_MODE := 0x3
  CAPABILITIES := 0x7
  LPP_PROFILE := 0
  XTRA_VERSION_CHECK := 0
  XTRA_SERVER_1 := []
  XTRA_SERVER_2 := []
  XTRA_SERVER_3 := []
  USE_EMERGENCY_PDN_FOR_EMERGENCY_SUPL := 1
  NMEA_PROVIDER := 0
  GPS_LOCK := 0
  A_GLONASS_POS_PROTOCOL_SELECT := 0
  AGPS_CERT_WRITABLE_MASK := 0

variable {F A U : Type*}

def number (param_name : String) (value : UInt32) : ParamEntry F :=
  ⟨param_name.toList, some (.number value.toNat), none⟩

def server (param_name : String) (value : List Char) : ParamEntry F :=
  ⟨param_name.toList, some (.string value), none⟩

/-- `gps_conf_table`. -/
def gpsConfTable (gps_conf : LocGpsCfg) : List (ParamEntry F) :=
  [number "GPS_LOCK" gps_conf.GPS_LOCK,
    number "SUPL_VER" gps_conf.SUPL_VER,
    number "LPP_PROFILE" gps_conf.LPP_PROFILE,
    number "A_GLONASS_POS_PROTOCOL_SELECT" gps_conf.A_GLONASS_POS_PROTOCOL_SELECT,
    number "AGPS_CERT_WRITABLE_MASK" gps_conf.AGPS_CERT_WRITABLE_MASK,
    number "SUPL_MODE" gps_conf.SUPL_MODE,
    number "INTERMEDIATE_POS" gps_conf.INTERMEDIATE_POS,
    number "ACCURACY_THRES" gps_conf.ACCURACY_THRES,
    number "NMEA_PROVIDER" gps_conf.NMEA_PROVIDER,
    number "CAPABILITIES" gps_conf.CAPABILITIES,
    number "XTRA_VERSION_CHECK" gps_conf.XTRA_VERSION_CHECK,
    server "XTRA_SERVER_1" gps_conf.XTRA_SERVER_1,
    server "XTRA_SERVER_2" gps_conf.XTRA_SERVER_2,
    server "XTRA_SERVER_3" gps_conf.XTRA_SERVER_3,
    number "USE_EMERGENCY_PDN_FOR_EMERGENCY_SUPL"
      gps_conf.USE_EMERGENCY_PDN_FOR_EMERGENCY_SUPL]

def paramAt (table : List (ParamEntry F)) (i : Nat) : Option (Param F) :=
  table[i]?.bind ParamEntry.param_ptr

/-- The 32 bits of a number in the table. -/
def numberAt (table : List (ParamEntry F)) (i : Nat) : UInt32 :=
  match paramAt table i with
  | some (.number value) => UInt32.ofInt value
  | _ => 0

def serverAt (table : List (ParamEntry F)) (i : Nat) : List Char :=
  match paramAt table i with
  | some (.string value) => value
  | _ => []

/-- `gps_conf` as the pointers of the table see it. -/
def ofTable (table : List (ParamEntry F)) : LocGpsCfg where
  GPS_LOCK := numberAt table 0
  SUPL_VER := numberAt table 1
  LPP_PROFILE := numberAt table 2
  A_GLONASS_POS_PROTOCOL_SELECT := numberAt table 3
  AGPS_CERT_WRITABLE_MASK := numberAt table 4
  SUPL_MODE := numberAt table 5
  INTERMEDIATE_POS := numberAt table 6
  ACCURACY_THRES := numberAt table 7
  NMEA_PROVIDER := numberAt table 8
  CAPABILITIES := numberAt table 9
  XTRA_VERSION_CHECK := numberAt table 10
  XTRA_SERVER_1 := serverAt table 11
  XTRA_SERVER_2 := serverAt table 12
  XTRA_SERVER_3 := serverAt table 13
  USE_EMERGENCY_PDN_FOR_EMERGENCY_SUPL := numberAt table 14

/-- The copy that `loc_update_conf` reads: as many bytes as it is told, up to a NUL. -/
def confCopy (conf_data : List Char) (length : Int) : List Char :=
  (conf_data.take length.toNat).takeWhile (· ≠ '\x00')

/-- `UTIL_UPDATE_CONF` on `gps_conf_table`. -/
def utilUpdateConf (ops : DoubleOps F) (conf_data : List Char) (length : Int)
    (gps_conf : LocGpsCfg) : LocGpsCfg :=
  ofTable (locUpdateConf ops (confCopy conf_data length) (gpsConfTable gps_conf)).1

/-- `LocEngSuplVer`, `LocEngLppConfig`, `LocEngAGlonassProtocol` and `LocEngSuplMode`. -/
inductive ConfigMsg (A U : Type*) where
  | suplVer (mAdapter : A) (mSuplVer : Int32)
  | lppConfig (mAdapter : A) (mLppConfig : Int32)
  | aGlonassProtocol (mAdapter : A) (mAGlonassProtocl : UInt32)
  | suplMode (mUlp : U)
  deriving DecidableEq, Repr

/-- What a message calls. -/
inductive ConfigCall (A U : Type*) where
  | setSUPLVersion (adapter : A) (version : Int32)
  | setLPPConfig (adapter : A) (profile : Int32)
  | setAGLONASSProtocol (adapter : A) (aGlonassProtocol : UInt32)
  | setCapabilities (ulp : U) (capabilities : UInt32)
  deriving DecidableEq, Repr

/-- `getCarrierCapabilities`. -/
def getCarrierCapabilities (gps_conf : LocGpsCfg) : UInt32 :=
  let carrierMSA := 0x2
  let carrierMSB := 0x1
  let gpsConfMSA := 0x4
  let gpsConfMSB := 0x2
  let capabilities := gps_conf.CAPABILITIES
  let capabilities :=
    if gps_conf.SUPL_MODE &&& carrierMSA ≠ carrierMSA then capabilities &&& ~~~gpsConfMSA
    else capabilities
  if gps_conf.SUPL_MODE &&& carrierMSB ≠ carrierMSB then capabilities &&& ~~~gpsConfMSB
  else capabilities

/-- The `proc` of each message, with `gps_conf` as it is when the message is processed. -/
def ConfigMsg.proc (gps_conf : LocGpsCfg) : ConfigMsg A U → ConfigCall A U
  | .suplVer mAdapter mSuplVer => .setSUPLVersion mAdapter mSuplVer
  | .lppConfig mAdapter mLppConfig => .setLPPConfig mAdapter mLppConfig
  | .aGlonassProtocol mAdapter mAGlonassProtocl =>
      .setAGLONASSProtocol mAdapter mAGlonassProtocl
  | .suplMode mUlp => .setCapabilities mUlp (getCarrierCapabilities gps_conf)

/-- `loc_eng_configuration_update`: `gps_conf` and the messages sent. -/
def locEngConfigurationUpdate (ops : DoubleOps F) (getUlpProxy : A → U)
    (adapter : Option A) (config_data : Option (List Char)) (length : Int)
    (gps_conf : LocGpsCfg) : LocGpsCfg × List (ConfigMsg A U) :=
  match config_data with
  | none => (gps_conf, [])
  | some config_data =>
      if 0 < length then
        let gps_conf_old := gps_conf
        let gps_conf := utilUpdateConf ops config_data length gps_conf
        let sent :=
          match adapter with
          | none => []
          | some adapter =>
              (if gps_conf_old.SUPL_VER ≠ gps_conf.SUPL_VER then
                [.suplVer adapter gps_conf.SUPL_VER.toInt32] else []) ++
              (if gps_conf_old.LPP_PROFILE ≠ gps_conf.LPP_PROFILE then
                [.lppConfig adapter gps_conf.LPP_PROFILE.toInt32] else []) ++
              (if gps_conf_old.A_GLONASS_POS_PROTOCOL_SELECT ≠
                  gps_conf.A_GLONASS_POS_PROTOCOL_SELECT then
                [.aGlonassProtocol adapter gps_conf.A_GLONASS_POS_PROTOCOL_SELECT] else []) ++
              (if gps_conf_old.SUPL_MODE ≠ gps_conf.SUPL_MODE then
                [.suplMode (getUlpProxy adapter)] else [])
        let gps_conf_old := { gps_conf_old with
          SUPL_VER := gps_conf.SUPL_VER
          LPP_PROFILE := gps_conf.LPP_PROFILE
          A_GLONASS_POS_PROTOCOL_SELECT := gps_conf.A_GLONASS_POS_PROTOCOL_SELECT
          SUPL_MODE := gps_conf.SUPL_MODE }
        (gps_conf_old, sent)
      else (gps_conf, [])

/-- The fields that an update keeps. -/
inductive Announced where
  | suplVer | lppProfile | aGlonassPosProtocolSelect | suplMode
  deriving DecidableEq, Repr

def LocGpsCfg.get (gps_conf : LocGpsCfg) : Announced → UInt32
  | .suplVer => gps_conf.SUPL_VER
  | .lppProfile => gps_conf.LPP_PROFILE
  | .aGlonassPosProtocolSelect => gps_conf.A_GLONASS_POS_PROTOCOL_SELECT
  | .suplMode => gps_conf.SUPL_MODE

/-- The field a message is about. -/
def ConfigMsg.field : ConfigMsg A U → Announced
  | .suplVer _ _ => .suplVer
  | .lppConfig _ _ => .lppProfile
  | .aGlonassProtocol _ _ => .aGlonassPosProtocolSelect
  | .suplMode _ => .suplMode

/-- The value a message carries. -/
def ConfigMsg.value : ConfigMsg A U → Option UInt32
  | .suplVer _ mSuplVer => some mSuplVer.toUInt32
  | .lppConfig _ mLppConfig => some mLppConfig.toUInt32
  | .aGlonassProtocol _ mAGlonassProtocl => some mAGlonassProtocl
  | .suplMode _ => none

/-- The message about a field. -/
def announcement (getUlpProxy : A → U) (adapter : A) (gps_conf : LocGpsCfg) :
    Announced → ConfigMsg A U
  | .suplVer => .suplVer adapter gps_conf.SUPL_VER.toInt32
  | .lppProfile => .lppConfig adapter gps_conf.LPP_PROFILE.toInt32
  | .aGlonassPosProtocolSelect =>
      .aGlonassProtocol adapter gps_conf.A_GLONASS_POS_PROTOCOL_SELECT
  | .suplMode => .suplMode (getUlpProxy adapter)

/-- Each field that differs has one message, which carries its value, and the others have
none. -/
def Announces (gps_conf_old gps_conf : LocGpsCfg) (sent : List (ConfigMsg A U)) : Prop :=
  ∀ field, if gps_conf_old.get field ≠ gps_conf.get field then
    ∃ msg, sent.filter (·.field = field) = [msg] ∧ msg.value = some (gps_conf.get field)
  else sent.filter (·.field = field) = []

/-- Likewise, but the message about `SUPL_MODE` carries no value: when it is processed it
takes the mode from `gps_conf`. -/
def AnnouncesOrRefers (getUlpProxy : A → U) (adapter : A) (gps_conf_old gps_conf : LocGpsCfg)
    (sent : List (ConfigMsg A U)) : Prop :=
  ∀ field, if gps_conf_old.get field ≠ gps_conf.get field then
    ∃ msg, sent.filter (·.field = field) = [msg] ∧
      if field = .suplMode then msg.value = none ∧
        ∀ now, msg.proc now = .setCapabilities (getUlpProxy adapter) (getCarrierCapabilities now)
      else msg.value = some (gps_conf.get field)
  else sent.filter (·.field = field) = []

variable {ops : DoubleOps F} {getUlpProxy : A → U} {adapter : A} {config_data : List Char}
  {length : Int} {gps_conf gps_conf' : LocGpsCfg}

theorem announcement_field (field : Announced) :
    (announcement getUlpProxy adapter gps_conf field).field = field := by
  cases field <;> rfl

theorem announcement_value {field : Announced} (h : field ≠ .suplMode) :
    (announcement getUlpProxy adapter gps_conf field).value = some (gps_conf.get field) := by
  cases field with
  | suplVer => exact congrArg some (UInt32.toUInt32_toInt32 _)
  | lppProfile => exact congrArg some (UInt32.toUInt32_toInt32 _)
  | aGlonassPosProtocolSelect => rfl
  | suplMode => exact absurd rfl h

/-- `gps_conf` with the four fields of another one. -/
def keepAnnounced (gps_conf gps_conf' : LocGpsCfg) : LocGpsCfg :=
  { gps_conf with
    SUPL_VER := gps_conf'.SUPL_VER
    LPP_PROFILE := gps_conf'.LPP_PROFILE
    A_GLONASS_POS_PROTOCOL_SELECT := gps_conf'.A_GLONASS_POS_PROTOCOL_SELECT
    SUPL_MODE := gps_conf'.SUPL_MODE }

/-- The message about a field, if the field differs. -/
def announcedIf (getUlpProxy : A → U) (adapter : A) (gps_conf_old gps_conf : LocGpsCfg)
    (field : Announced) : List (ConfigMsg A U) :=
  if gps_conf_old.get field ≠ gps_conf.get field then
    [announcement getUlpProxy adapter gps_conf field]
  else []

/-- The messages in the order in which the fields are compared. -/
def announcements (getUlpProxy : A → U) (adapter : A) (gps_conf_old gps_conf : LocGpsCfg) :
    List (ConfigMsg A U) :=
  [.suplVer, .lppProfile, .aGlonassPosProtocolSelect, .suplMode].flatMap
    (announcedIf getUlpProxy adapter gps_conf_old gps_conf)

theorem locEngConfigurationUpdate_eq (h : 0 < length) :
    locEngConfigurationUpdate ops getUlpProxy (some adapter) (some config_data) length gps_conf =
      (keepAnnounced gps_conf (utilUpdateConf ops config_data length gps_conf),
        announcements getUlpProxy adapter gps_conf
          (utilUpdateConf ops config_data length gps_conf)) := by
  rw [locEngConfigurationUpdate]
  dsimp only
  rw [if_pos h, announcements]
  apply Prod.ext
  · rfl
  · simp only [List.flatMap_cons, List.flatMap_nil, List.append_nil, List.append_assoc]
    rfl

theorem filter_announcedIf (gps_conf_old gps_conf : LocGpsCfg) (field other : Announced) :
    (announcedIf getUlpProxy adapter gps_conf_old gps_conf other).filter (·.field = field) =
      if other = field then announcedIf getUlpProxy adapter gps_conf_old gps_conf field
      else [] := by
  by_cases h : other = field
  · subst h
    rw [if_pos rfl, announcedIf]
    split
    case isTrue => exact List.filter_cons_of_pos (decide_eq_true (announcement_field _))
    case isFalse => rfl
  · rw [if_neg h, announcedIf]
    split
    case isTrue =>
        apply List.filter_cons_of_neg
        rw [announcement_field]
        simpa using h
    case isFalse => rfl

/-- What is sent about one field. -/
theorem filter_announcements (gps_conf_old gps_conf : LocGpsCfg) (field : Announced) :
    (announcements getUlpProxy adapter gps_conf_old gps_conf).filter (·.field = field) =
      announcedIf getUlpProxy adapter gps_conf_old gps_conf field := by
  simp only [announcements, List.flatMap_cons, List.flatMap_nil, List.filter_append,
    filter_announcedIf, List.filter_nil]
  cases field <;> simp

theorem announcesOrRefers_announcements (gps_conf_old gps_conf : LocGpsCfg) :
    AnnouncesOrRefers getUlpProxy adapter gps_conf_old gps_conf
      (announcements getUlpProxy adapter gps_conf_old gps_conf) := by
  intro field
  rw [filter_announcements, announcedIf]
  split
  case isTrue =>
      refine ⟨_, rfl, ?_⟩
      split
      case isTrue hmode =>
          subst hmode
          exact ⟨rfl, fun now => rfl⟩
      case isFalse hmode => exact announcement_value hmode
  case isFalse => rfl

theorem keepAnnounced_get (gps_conf gps_conf' : LocGpsCfg) (field : Announced) :
    (keepAnnounced gps_conf gps_conf').get field = gps_conf'.get field := by
  cases field <;> rfl

theorem announcesOrRefers_keepAnnounced {sent : List (ConfigMsg A U)}
    (h : AnnouncesOrRefers getUlpProxy adapter gps_conf gps_conf' sent) :
    AnnouncesOrRefers getUlpProxy adapter gps_conf (keepAnnounced gps_conf gps_conf') sent := by
  intro field
  simp only [keepAnnounced_get]
  exact h field

/-- An update changes the four fields only, to what the text makes of them, and announces
those that have changed to the adapter. Without a text nothing happens. -/
theorem configuration_update (ops : DoubleOps F) (getUlpProxy : A → U) (gps_conf : LocGpsCfg)
    (config_data : List Char) (length : Int) (h : 0 < length) :
    (∀ adapter, (locEngConfigurationUpdate ops getUlpProxy adapter (some config_data) length
        gps_conf).1 = { gps_conf with
          SUPL_VER := (utilUpdateConf ops config_data length gps_conf).SUPL_VER
          LPP_PROFILE := (utilUpdateConf ops config_data length gps_conf).LPP_PROFILE
          A_GLONASS_POS_PROTOCOL_SELECT :=
            (utilUpdateConf ops config_data length gps_conf).A_GLONASS_POS_PROTOCOL_SELECT
          SUPL_MODE := (utilUpdateConf ops config_data length gps_conf).SUPL_MODE }) ∧
      (∀ adapter, AnnouncesOrRefers getUlpProxy adapter gps_conf
        (locEngConfigurationUpdate ops getUlpProxy (some adapter) (some config_data) length
          gps_conf).1
        (locEngConfigurationUpdate ops getUlpProxy (some adapter) (some config_data) length
          gps_conf).2) ∧
      (locEngConfigurationUpdate ops getUlpProxy none (some config_data) length gps_conf).2 =
        [] ∧
      ∀ adapter config_data length, config_data = none ∨ length ≤ 0 →
        locEngConfigurationUpdate ops getUlpProxy adapter config_data length gps_conf =
          (gps_conf, []) := by
  refine ⟨?_, ?_, ?_, ?_⟩
  · intro adapter
    rw [locEngConfigurationUpdate]
    dsimp only
    rw [if_pos h]
  · intro adapter
    rw [locEngConfigurationUpdate_eq h]
    exact announcesOrRefers_keepAnnounced (announcesOrRefers_announcements _ _)
  · rw [locEngConfigurationUpdate]
    dsimp only
    rw [if_pos h]
  · rintro adapter config_data length (rfl | hlength)
    · rfl
    · cases config_data with
      | none => rfl
      | some config_data => exact if_neg (Int.not_lt.mpr hlength)

/-- The message about a changed `SUPL_MODE` carries no value. -/
theorem not_announces_suplMode :
    let update := locEngConfigurationUpdate wholeOps id (some 7)
      (some "SUPL_MODE=1".toList) 11 defaultConf
    update.1.SUPL_MODE = 1 ∧ update.2 = [.suplMode 7] ∧
      ¬ Announces defaultConf update.1 update.2 := by
  have hupdate : locEngConfigurationUpdate wholeOps id (some 7) (some "SUPL_MODE=1".toList) 11
      defaultConf = ({ defaultConf with SUPL_MODE := 1 }, [.suplMode 7]) := by decide +kernel
  dsimp only
  rw [hupdate]
  refine ⟨rfl, rfl, ?_⟩
  intro h
  obtain ⟨msg, hmsg, hvalue⟩ : ∃ msg : ConfigMsg Nat Nat, [.suplMode 7] = [msg] ∧
    msg.value = some 1 := h .suplMode
  obtain rfl := (List.cons.inj hmsg).1
  cases hvalue

/-- Two fields and a server are named; the server stays. -/
theorem configuration_update_two :
    let update := locEngConfigurationUpdate wholeOps id (some 7)
      (some "SUPL_VER=0x20000\nXTRA_SERVER_1=x\nSUPL_MODE=1".toList) 45 defaultConf
    update.1 = { defaultConf with SUPL_VER := 0x20000, SUPL_MODE := 1 } ∧
      AnnouncesOrRefers id 7 defaultConf update.1 update.2 := by
  obtain ⟨hconf, hsent, _⟩ := configuration_update wholeOps (id : Nat → Nat) defaultConf
    "SUPL_VER=0x20000\nXTRA_SERVER_1=x\nSUPL_MODE=1".toList 45 (by decide)
  have hfields : utilUpdateConf wholeOps
      "SUPL_VER=0x20000\nXTRA_SERVER_1=x\nSUPL_MODE=1".toList 45 defaultConf =
      { defaultConf with
        SUPL_VER := 0x20000
        XTRA_SERVER_1 := ['x']
        SUPL_MODE := 1 } := by decide +kernel
  refine ⟨?_, hsent 7⟩
  dsimp only
  rw [hconf, hfields]

/-- Where the table has a field, and under which name. -/
def Announced.entry : Announced → Nat × String
  | .suplVer => (1, "SUPL_VER")
  | .lppProfile => (2, "LPP_PROFILE")
  | .aGlonassPosProtocolSelect => (3, "A_GLONASS_POS_PROTOCOL_SELECT")
  | .suplMode => (5, "SUPL_MODE")

theorem gpsConfTable_entry (gps_conf : LocGpsCfg) (field : Announced) :
    (gpsConfTable gps_conf : List (ParamEntry F))[field.entry.1]? =
      some (number field.entry.2 (gps_conf.get field)) := by
  cases field <;> rfl

theorem ofTable_get (table : List (ParamEntry F)) (field : Announced) :
    (ofTable table).get field = numberAt table field.entry.1 := by
  cases field <;> rfl

theorem shape_gpsConfTable (gps_conf gps_conf' : LocGpsCfg) :
    (gpsConfTable gps_conf).map (@shape F) = (gpsConfTable gps_conf').map (@shape F) := rfl

/-- What the lines of a text make of a field, if one of them names it. -/
def lineValue (ops : DoubleOps F) (text : List Char) (gps_conf : LocGpsCfg)
    (field : Announced) : Option UInt32 :=
  (last (sets ops) (linesTaken ops text (gpsConfTable gps_conf))
    (number field.entry.2 (gps_conf.get field))).map (fun entry => numberAt [entry] 0)

/-- It does not depend on the values before. -/
theorem lineValue_congr (ops : DoubleOps F) (text : List Char) (gps_conf gps_conf' : LocGpsCfg) :
    lineValue ops text gps_conf = lineValue ops text gps_conf' := by
  funext field
  have hshape : @shape F (number field.entry.2 (gps_conf.get field)) =
      @shape F (number field.entry.2 (gps_conf'.get field)) := rfl
  rw [lineValue, lineValue, linesTaken_congr (shape_gpsConfTable gps_conf gps_conf'),
    last_sets_congr hshape]

theorem numberAt_number (param_name : String) (value : UInt32) :
    numberAt [(number param_name value : ParamEntry F)] 0 = value := by
  change UInt32.ofNat ((value.toNat : Int) % 2 ^ 32).toNat = value
  rw [Int.emod_eq_of_lt (Int.natCast_nonneg _) (by have := value.toNat_lt; omega),
    Int.toNat_natCast, UInt32.ofNat_toNat]

theorem gpsConfTable_nodup (gps_conf : LocGpsCfg) :
    ((gpsConfTable gps_conf).map (@ParamEntry.param_name F)).Nodup := by
  have hnames : (gpsConfTable gps_conf).map (@ParamEntry.param_name F) =
      (gpsConfTable defaultConf).map (@ParamEntry.param_name Int) := rfl
  rw [hnames]
  decide +kernel

theorem numberAt_eq {table : List (ParamEntry F)} {i : Nat} {entry : ParamEntry F}
    (h : table[i]? = some entry) : numberAt table i = numberAt [entry] 0 := by
  rw [numberAt, paramAt, h]
  rfl

/-- A field is what the lines make of it, or else as it was. -/
theorem utilUpdateConf_get (field : Announced) :
    (utilUpdateConf ops config_data length gps_conf).get field =
      (lineValue ops (confCopy config_data length) gps_conf field).getD
        (gps_conf.get field) := by
  have hentry := @gpsConfTable_entry F gps_conf field
  rw [utilUpdateConf, ofTable_get, lineValue]
  by_cases htext : confCopy config_data length = []
  · have hlines : linesTaken ops [] (gpsConfTable gps_conf) = [] := rfl
    have htable : locUpdateConf ops [] (gpsConfTable gps_conf) = (gpsConfTable gps_conf, -1) :=
      if_pos (Or.inl rfl)
    rw [htext, htable, numberAt_eq hentry, hlines, numberAt_number]
    rfl
  · have hsingle := sets_single ops (gpsConfTable_nodup gps_conf)
    have hlen : (@gpsConfTable F gps_conf).length < 2 ^ 32 := by
      change 15 < 2 ^ 32
      omega
    rw [locUpdateConf_eq hsingle (List.cons_ne_nil _ _) hlen htext]
    dsimp only
    rw [numberAt_eq (by rw [List.getElem?_map, hentry]; rfl)]
    dsimp only
    cases last (sets ops) (linesTaken ops (confCopy config_data length) (gpsConfTable gps_conf))
      (number field.entry.2 (gps_conf.get field)) with
    | none => exact numberAt_number _ _
    | some entry => rfl

theorem keepAnnounced_eq_self (h : ∀ field, gps_conf'.get field = gps_conf.get field) :
    keepAnnounced gps_conf gps_conf' = gps_conf := by
  have hver : gps_conf'.SUPL_VER = gps_conf.SUPL_VER := h .suplVer
  have hlpp : gps_conf'.LPP_PROFILE = gps_conf.LPP_PROFILE := h .lppProfile
  have hglonass : gps_conf'.A_GLONASS_POS_PROTOCOL_SELECT =
      gps_conf.A_GLONASS_POS_PROTOCOL_SELECT := h .aGlonassPosProtocolSelect
  have hmode : gps_conf'.SUPL_MODE = gps_conf.SUPL_MODE := h .suplMode
  rw [keepAnnounced, hver, hlpp, hglonass, hmode]

/-- The same update once more changes nothing and sends nothing. -/
theorem configuration_update_again (ops : DoubleOps F) (getUlpProxy : A → U) (adapter : A)
    (config_data : List Char) (length : Int) (gps_conf : LocGpsCfg) :
    let once := (locEngConfigurationUpdate ops getUlpProxy (some adapter) (some config_data)
      length gps_conf).1
    locEngConfigurationUpdate ops getUlpProxy (some adapter) (some config_data) length once =
      (once, []) := by
  dsimp only
  by_cases h : 0 < length
  · rw [locEngConfigurationUpdate_eq h, locEngConfigurationUpdate_eq h]
    generalize honce : keepAnnounced gps_conf (utilUpdateConf ops config_data length gps_conf) =
      once
    have hsame : ∀ field,
        (utilUpdateConf ops config_data length once).get field = once.get field := by
      intro field
      rw [utilUpdateConf_get, lineValue_congr _ _ once gps_conf, ← honce, keepAnnounced_get,
        utilUpdateConf_get]
      cases lineValue ops (confCopy config_data length) gps_conf field <;> rfl
    have hsilent : announcements getUlpProxy adapter once
        (utilUpdateConf ops config_data length once) = [] := by
      apply List.flatMap_eq_nil_iff.mpr
      intro field _
      rw [announcedIf, hsame, if_neg (not_not_intro rfl)]
    rw [keepAnnounced_eq_self hsame, hsilent]
  · have hnone (gps_conf : LocGpsCfg) : locEngConfigurationUpdate ops getUlpProxy (some adapter)
        (some config_data) length gps_conf = (gps_conf, []) := if_neg h
    rw [hnone, hnone]

end G2Common.Eng
