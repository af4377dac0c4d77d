import G2Common.Transition
import G2Common.Eng.ConfigUpdate
import G2Common.Utils.LocCfgRead
import G2Common.Utils.LocTarget

/-!
The capabilities that are announced to the framework and to the ULP module. They come from
`gps.conf`, which is read once, before the framework gets the interface; a target without a modem
takes two of them away there. A configuration update changes `SUPL_MODE` only, which limits what the
ULP module is told.
-/

namespace G2Common.Eng

open Transition Utils

def GPS_CAPABILITY_MSB : UInt32 := 0x2
def GPS_CAPABILITY_MSA : UInt32 := 0x4

variable {F A U : Type*}

/-- `gps_conf` before it is read. -/
def zeroConf : LocGpsCfg :=
  { defaultConf with
    SUPL_VER := 0
    SUPL_MODE := 0
    CAPABILITIES := 0
    USE_EMERGENCY_PDN_FOR_EMERGENCY_SUPL := 0 }

/-- `UTIL_READ_CONF` on `gps_conf_table`, after `loc_default_parameters`. -/
def readConfFile (ops : DoubleOps F) (gps_conf_file : Option (List Char)) : LocGpsCfg :=
  ofTable (locReadConf ops gps_conf_file (gpsConfTable defaultConf) []).1

/-- The targets whose GNSS chip is not part of a modem. -/
def withoutModem (gnssType : UInt32) : Bool :=
  gnssType = GNSS_GSS ∨ gnssType = GNSS_AUTO ∨ gnssType = GNSS_QCA1530

/-- `queue` holds the messages of configuration updates. -/
structure Announcer (A U : Type*) where
  configAlreadyRead : Bool
  gps_conf : LocGpsCfg
  interface : Bool
  adapter : Option A
  queue : List (ConfigMsg A U)

/-- The callbacks of `loc_init` are given by whether `set_capabilities_cb` is there, and the adapter
is the one that it makes. -/
inductive AnnouncerInput (A : Type*) where
  | getGpsInterface (gps_conf_file : Option (List Char))
  | init (adapter : A) (callbacks : Option Bool)
  | configurationUpdate (config_data : Option (List Char)) (length : Int)
  | msgTask
  deriving DecidableEq, Repr

/-- Whether an interface is returned, and the calls about capabilities or of a message. -/
inductive AnnouncerEffect (A U : Type*) where
  | returned (interface : Bool)
  | setCapabilitiesCb (capabilities : UInt32)
  | requestUlp (adapter : A) (capabilities : UInt32)
  | proc (call : ConfigCall A U)
  deriving DecidableEq, Repr

namespace Announcer

/-- `loc_eng_read_config`. -/
def readConfig (ops : DoubleOps F) (gps_conf_file : Option (List Char)) (s : Announcer A U) :
    Announcer A U :=
  if s.configAlreadyRead then s
  else { s with gps_conf := readConfFile ops gps_conf_file, configAlreadyRead := true }

/-- `get_gps_interface`. -/
def getGpsInterface (ops : DoubleOps F) (gnssType : UInt32) (gps_conf_file : Option (List Char))
    (s : Announcer A U) : Announcer A U × List (AnnouncerEffect A U) :=
  let s := s.readConfig ops gps_conf_file
  if withoutModem gnssType then
    let CAPABILITIES :=
      s.gps_conf.CAPABILITIES &&& ~~~(GPS_CAPABILITY_MSA ||| GPS_CAPABILITY_MSB)
    ({ s with gps_conf := { s.gps_conf with CAPABILITIES := CAPABILITIES }, interface := true },
      [.returned true])
  else if gnssType = GNSS_NONE then (s, [.returned false])
  else ({ s with interface := true }, [.returned true])

/-- `loc_init`, with the part of `loc_eng_init` that announces capabilities. -/
def init (s : Announcer A U) (adapter : A) (callbacks : Option Bool) :
    Announcer A U × List (AnnouncerEffect A U) :=
  match callbacks, s.adapter with
  | none, _ => (s, [])
  | some _, some adapter => (s, [.requestUlp adapter (getCarrierCapabilities s.gps_conf)])
  | some setCapabilitiesCb, none =>
      ({ s with adapter := some adapter },
        (if setCapabilitiesCb then [.setCapabilitiesCb s.gps_conf.CAPABILITIES] else []) ++
          [.requestUlp adapter (getCarrierCapabilities s.gps_conf)])

/-- What is called through an interface that the framework did not get has no step. -/
def machine (ops : DoubleOps F) (getUlpProxy : A → U) (gnssType : UInt32) (s : Announcer A U) :
    AnnouncerInput A → Announcer A U × List (AnnouncerEffect A U)
  | .getGpsInterface gps_conf_file => s.getGpsInterface ops gnssType gps_conf_file
  | .init adapter callbacks => if s.interface then s.init adapter callbacks else (s, [])
  | .configurationUpdate config_data length =>
      if s.interface then
        let (gps_conf, sent) :=
          locEngConfigurationUpdate ops getUlpProxy s.adapter config_data length s.gps_conf
        ({ s with gps_conf := gps_conf, queue := s.queue ++ sent }, [])
      else (s, [])
  | .msgTask =>
      match s.queue with
      | [] => (s, [])
      | msg :: queue => ({ s with queue := queue }, [.proc (msg.proc s.gps_conf)])

def start : Announcer A U := ⟨false, zeroConf, false, none, []⟩

end Announcer

abbrev AnnouncerRun (A U : Type*) := Traced (Announcer A U) (AnnouncerEffect A U)

def announcerStep (ops : DoubleOps F) (getUlpProxy : A → U) (gnssType : UInt32) :
    AnnouncerRun A U → AnnouncerInput A → AnnouncerRun A U :=
  Traced.step (Announcer.machine ops getUlpProxy gnssType)

def AnnouncerInput.file? : AnnouncerInput A → Option (Option (List Char))
  | .getGpsInterface gps_conf_file => some gps_conf_file
  | _ => none

/-- `gps.conf` as it was when the interface was asked for first. -/
def firstFile (inputs : List (AnnouncerInput A)) : Option (Option (List Char)) :=
  (inputs.filterMap AnnouncerInput.file?).head?

/-- The capabilities that the target has. -/
def limited (gnssType : UInt32) (capabilities : UInt32) : UInt32 :=
  if withoutModem gnssType
  then capabilities &&& ~~~(GPS_CAPABILITY_MSA ||| GPS_CAPABILITY_MSB) else capabilities

/-- The capabilities of the file that the target has. -/
def supported (ops : DoubleOps F) (gnssType : UInt32) (gps_conf_file : Option (List Char)) :
    UInt32 :=
  limited gnssType (readConfFile ops gps_conf_file).CAPABILITIES

/-- `SUPL_MODE` of the file, or of the last update that names it. -/
def modeAfter (ops : DoubleOps F) (mode : Option UInt32) : AnnouncerInput A → Option UInt32
  | .getGpsInterface gps_conf_file => some (mode.getD (readConfFile ops gps_conf_file).SUPL_MODE)
  | .configurationUpdate (some config_data) length =>
      if 0 < length then
        mode.map (lineValue ops (confCopy config_data length) defaultConf .suplMode).getD
      else mode
  | _ => mode

def suplMode (ops : DoubleOps F) (inputs : List (AnnouncerInput A)) : Option UInt32 :=
  inputs.foldl (modeAfter ops) none

/-- The capabilities without those that the carrier does not have. -/
def carried (capabilities mode : UInt32) : UInt32 :=
  getCarrierCapabilities { defaultConf with CAPABILITIES := capabilities, SUPL_MODE := mode }

/-- The capabilities that an effect announces. -/
def AnnouncerEffect.announced : AnnouncerEffect A U → Option UInt32
  | .setCapabilitiesCb capabilities | .requestUlp _ capabilities
  | .proc (.setCapabilities _ capabilities) => some capabilities
  | _ => none

/-- The framework is told what the target has of the file, and the ULP module what the carrier has
of that. -/
def Truthful (ops : DoubleOps F) (gnssType : UInt32) (inputs : List (AnnouncerInput A)) :
    AnnouncerEffect A U → Prop
  | .setCapabilitiesCb capabilities =>
      ∃ file ∈ firstFile inputs, capabilities = supported ops gnssType file
  | .requestUlp _ capabilities | .proc (.setCapabilities _ capabilities) =>
      ∃ file ∈ firstFile inputs, ∃ mode ∈ suplMode ops inputs,
        capabilities = carried (supported ops gnssType file) mode
  | _ => True

section Run

variable {ops : DoubleOps F} {getUlpProxy : A → U} {gnssType : UInt32}
  {inputs : List (AnnouncerInput A)} {s : Announcer A U}

/-- A target that gets an interface. -/
def hasGnss (gnssType : UInt32) : Bool := withoutModem gnssType || gnssType ≠ GNSS_NONE

theorem limited_limited (gnssType capabilities : UInt32) :
    limited gnssType (limited gnssType capabilities) = limited gnssType capabilities := by
  rw [limited, limited]
  split
  · rw [UInt32.and_assoc, UInt32.and_self]
  · rfl

theorem getGpsInterface_fst (s : Announcer A U) (gps_conf_file : Option (List Char)) :
    (s.getGpsInterface ops gnssType gps_conf_file).1 =
      { s.readConfig ops gps_conf_file with
        gps_conf := { (s.readConfig ops gps_conf_file).gps_conf with
          CAPABILITIES :=
            limited gnssType (s.readConfig ops gps_conf_file).gps_conf.CAPABILITIES }
        interface := (s.readConfig ops gps_conf_file).interface || hasGnss gnssType } := by
  rw [Announcer.getGpsInterface, hasGnss]
  cases hmodem : withoutModem gnssType with
  | true => simp [limited, hmodem]
  | false =>
      by_cases hnone : gnssType = GNSS_NONE
      · subst hnone
        simp [limited, hmodem]
      · simp [limited, hmodem, hnone]

theorem firstFile_append (input : AnnouncerInput A) :
    firstFile (inputs ++ [input]) = (firstFile inputs).or input.file? := by
  rw [firstFile, List.filterMap_append, List.head?_append, firstFile]
  cases input
  all_goals rfl

theorem suplMode_append (input : AnnouncerInput A) :
    suplMode ops (inputs ++ [input]) = modeAfter ops (suplMode ops inputs) input := by
  rw [suplMode, List.foldl_concat, suplMode]

theorem getCarrierCapabilities_eq (gps_conf : LocGpsCfg) :
    getCarrierCapabilities gps_conf = carried gps_conf.CAPABILITIES gps_conf.SUPL_MODE := rfl

/-- What every run keeps. -/
structure Informed (ops : DoubleOps F) (gnssType : UInt32) (inputs : List (AnnouncerInput A))
    (s : Announcer A U) : Prop where
  read : s.configAlreadyRead = (firstFile inputs).isSome
  interface : s.interface = (s.configAlreadyRead && hasGnss gnssType)
  capabilities : ∀ file ∈ firstFile inputs, s.gps_conf.CAPABILITIES = supported ops gnssType file
  mode : s.interface = true → suplMode ops inputs = some s.gps_conf.SUPL_MODE
  unread : s.configAlreadyRead = false → suplMode ops inputs = none
  queue : s.interface = false → s.queue = []

/-- With an interface, the file was read. -/
theorem Informed.file (h : Informed ops gnssType inputs s) (hinterface : s.interface = true) :
    ∃ file, firstFile inputs = some file := by
  rw [h.interface, Bool.and_eq_true, h.read] at hinterface
  exact Option.isSome_iff_exists.mp hinterface.1

/-- What is announced through the interface. -/
theorem Informed.announces (h : Informed ops gnssType inputs s) (hinterface : s.interface = true) :
    ∃ file ∈ firstFile inputs, s.gps_conf.CAPABILITIES = supported ops gnssType file ∧
      ∃ mode ∈ suplMode ops inputs,
        getCarrierCapabilities s.gps_conf = carried (supported ops gnssType file) mode := by
  obtain ⟨file, hfile⟩ := h.file hinterface
  have hcapabilities := h.capabilities file hfile
  refine ⟨file, hfile, hcapabilities, s.gps_conf.SUPL_MODE, h.mode hinterface, ?_⟩
  rw [getCarrierCapabilities_eq, hcapabilities]

/-- An input that asks for no interface and changes neither `gps_conf` nor the mode. -/
theorem Informed.stay (h : Informed ops gnssType inputs s) {next : Announcer A U}
    {input : AnnouncerInput A} (hfile : input.file? = none)
    (hmode : s.interface = true → modeAfter ops (suplMode ops inputs) input = suplMode ops inputs)
    (hunread : suplMode ops inputs = none → modeAfter ops (suplMode ops inputs) input = none)
    (hread : next.configAlreadyRead = s.configAlreadyRead) (hconf : next.gps_conf = s.gps_conf)
    (hinterface : next.interface = s.interface) (hqueue : s.queue = [] → next.queue = []) :
    Informed ops gnssType (inputs ++ [input]) next where
  read := by rw [hread, h.read, firstFile_append, hfile, Option.or_none]
  interface := by rw [hinterface, hread, h.interface]
  capabilities file hmem := by
    rw [firstFile_append, hfile, Option.or_none] at hmem
    rw [hconf, h.capabilities file hmem]
  mode htrue := by
    rw [hinterface] at htrue
    rw [suplMode_append, hmode htrue, hconf, h.mode htrue]
  unread hfalse := by
    rw [hread] at hfalse
    rw [suplMode_append, hunread (h.unread hfalse)]
  queue hfalse := by
    rw [hinterface] at hfalse
    exact hqueue (h.queue hfalse)

theorem informed_getGpsInterface (h : Informed ops gnssType inputs s)
    (gps_conf_file : Option (List Char)) :
    Informed ops gnssType (inputs ++ [.getGpsInterface gps_conf_file])
      (s.getGpsInterface ops gnssType gps_conf_file).1 := by
  rw [getGpsInterface_fst]
  cases hread : s.configAlreadyRead with
  | false =>
      have hfirst : firstFile (inputs ++ [.getGpsInterface gps_conf_file]) =
          some gps_conf_file := by
        have hnone := Option.isSome_eq_false_iff.mp (h.read.symm.trans hread)
        rw [firstFile_append, Option.isNone_iff_eq_none.mp hnone]
        rfl
      have hconfig : s.readConfig ops gps_conf_file =
          { s with gps_conf := readConfFile ops gps_conf_file, configAlreadyRead := true } := by
        rw [Announcer.readConfig, if_neg (by rw [hread]; exact Bool.false_ne_true)]
      have hinterface : s.interface = false := by rw [h.interface, hread, Bool.false_and]
      rw [hconfig]
      refine ⟨by rw [hfirst]; rfl, by rw [hinterface]; rfl, ?_, ?_, fun hfalse => ?_, ?_⟩
      · intro file hfile
        rw [hfirst] at hfile
        cases hfile
        rfl
      · intro _
        rw [suplMode_append, h.unread hread]
        rfl
      · cases hfalse
      · exact fun _ => h.queue hinterface
  | true =>
      have hfirst : firstFile (inputs ++ [.getGpsInterface gps_conf_file]) = firstFile inputs := by
        obtain ⟨file, hfile⟩ := Option.isSome_iff_exists.mp (h.read.symm.trans hread)
        rw [firstFile_append, hfile]
        rfl
      have hconfig : s.readConfig ops gps_conf_file = s := by
        rw [Announcer.readConfig, if_pos hread]
      have hinterface : (s.interface || hasGnss gnssType) = s.interface := by
        rw [h.interface, hread, Bool.true_and, Bool.or_self]
      rw [hconfig, hinterface]
      refine ⟨?_, h.interface, ?_, fun htrue => ?_, fun hfalse => ?_, h.queue⟩
      · rw [hfirst]
        exact h.read
      · intro file hfile
        rw [hfirst] at hfile
        have hcapabilities := h.capabilities file hfile
        dsimp only
        rw [hcapabilities, supported, limited_limited]
      · rw [suplMode_append, h.mode htrue]
        rfl
      · rw [hread] at hfalse
        cases hfalse

theorem lineValue_update (config_data : List Char) (length : Int) (gps_conf : LocGpsCfg) :
    (utilUpdateConf ops config_data length gps_conf).SUPL_MODE =
      (lineValue ops (confCopy config_data length) defaultConf .suplMode).getD
        gps_conf.SUPL_MODE := by
  rw [lineValue_congr ops _ defaultConf gps_conf]
  exact utilUpdateConf_get .suplMode

/-- An update leaves the capabilities and sets the mode. -/
theorem locEngConfigurationUpdate_fst (ops : DoubleOps F) (getUlpProxy : A → U)
    (adapter : Option A) (config_data : Option (List Char)) (length : Int)
    (gps_conf : LocGpsCfg) :
    (locEngConfigurationUpdate ops getUlpProxy adapter config_data length gps_conf).1.CAPABILITIES =
        gps_conf.CAPABILITIES ∧
      some (locEngConfigurationUpdate ops getUlpProxy adapter config_data length
          gps_conf).1.SUPL_MODE =
        modeAfter ops (some gps_conf.SUPL_MODE)
          (.configurationUpdate config_data length : AnnouncerInput A) := by
  cases config_data with
  | none => exact ⟨rfl, rfl⟩
  | some config_data =>
      rw [locEngConfigurationUpdate, modeAfter]
      by_cases hlength : 0 < length
      · rw [if_pos hlength, if_pos hlength, Option.map_some, ← lineValue_update]
        exact ⟨rfl, rfl⟩
      · rw [if_neg hlength, if_neg hlength]
        exact ⟨rfl, rfl⟩

theorem modeAfter_none (config_data : Option (List Char)) (length : Int) :
    modeAfter ops none (.configurationUpdate config_data length : AnnouncerInput A) = none := by
  cases config_data with
  | none => rfl
  | some config_data =>
      rw [modeAfter]
      split
      all_goals rfl

theorem informed_configurationUpdate (h : Informed ops gnssType inputs s)
    (hinterface : s.interface = true) (getUlpProxy : A → U) (config_data : Option (List Char))
    (length : Int) :
    Informed ops gnssType (inputs ++ [.configurationUpdate config_data length])
      { s with
        gps_conf := (locEngConfigurationUpdate ops getUlpProxy s.adapter config_data length
          s.gps_conf).1
        queue := s.queue ++ (locEngConfigurationUpdate ops getUlpProxy s.adapter config_data length
          s.gps_conf).2 } := by
  have hfirst : firstFile (inputs ++ [.configurationUpdate config_data length]) =
      firstFile inputs := by
    rw [firstFile_append]
    exact Option.or_none
  obtain ⟨hcapabilities, hmode⟩ :=
    locEngConfigurationUpdate_fst ops getUlpProxy s.adapter config_data length s.gps_conf
  refine ⟨?_, h.interface, ?_, fun _ => ?_, fun hfalse => ?_, fun hfalse => ?_⟩
  · rw [hfirst]
    exact h.read
  · intro file hfile
    rw [hfirst] at hfile
    exact hcapabilities.trans (h.capabilities file hfile)
  · rw [suplMode_append, h.mode hinterface]
    exact hmode.symm
  · rw [suplMode_append, h.unread hfalse]
    exact modeAfter_none config_data length
  · rw [hinterface] at hfalse
    cases hfalse

/-- `loc_init` makes the adapter and nothing else. -/
theorem init_fst (s : Announcer A U) (adapter : A) (callbacks : Option Bool) :
    ∃ made, (s.init adapter callbacks).1 = { s with adapter := made } := by
  unfold Announcer.init
  split
  all_goals exact ⟨_, rfl⟩

theorem informed_machine (h : Informed ops gnssType inputs s) (input : AnnouncerInput A) :
    Informed ops gnssType (inputs ++ [input])
      (Announcer.machine ops getUlpProxy gnssType s input).1 := by
  cases input with
  | getGpsInterface gps_conf_file => exact informed_getGpsInterface h gps_conf_file
  | init adapter callbacks =>
      rw [Announcer.machine]
      split
      · obtain ⟨made, hmade⟩ := init_fst s adapter callbacks
        rw [hmade]
        exact h.stay rfl (fun _ => rfl) id rfl rfl rfl id
      · exact h.stay rfl (fun _ => rfl) id rfl rfl rfl id
  | configurationUpdate config_data length =>
      cases hinterface : s.interface with
      | true =>
          rw [Announcer.machine, if_pos hinterface]
          exact informed_configurationUpdate h hinterface getUlpProxy config_data length
      | false =>
          rw [Announcer.machine, if_neg (by rw [hinterface]; exact Bool.false_ne_true)]
          apply h.stay rfl ?_ ?_ rfl rfl rfl id
          · intro htrue
            rw [hinterface] at htrue
            cases htrue
          · intro hnone
            rw [hnone]
            exact modeAfter_none config_data length
  | msgTask =>
      obtain ⟨configAlreadyRead, gps_conf, interface, adapter, queue⟩ := s
      cases queue with
      | nil => exact h.stay rfl (fun _ => rfl) id rfl rfl rfl id
      | cons msg queue =>
          exact h.stay rfl (fun _ => rfl) id rfl rfl rfl fun hempty => by cases hempty

theorem truthful_of_informed {next : List (AnnouncerInput A)} (h : Informed ops gnssType inputs s)
    (hinterface : s.interface = true) (hfile : firstFile next = firstFile inputs)
    (hmode : suplMode ops next = suplMode ops inputs) (adapter : A) :
    Truthful ops gnssType next
        (.setCapabilitiesCb s.gps_conf.CAPABILITIES : AnnouncerEffect A U) ∧
      Truthful ops gnssType next
        (.requestUlp adapter (getCarrierCapabilities s.gps_conf) : AnnouncerEffect A U) := by
  obtain ⟨file, hmem, hcapabilities, mode, hmode', hcarried⟩ := h.announces hinterface
  rw [Truthful, Truthful, hfile, hmode]
  exact ⟨⟨file, hmem, hcapabilities⟩, file, hmem, mode, hmode', hcarried⟩

/-- What a step announces is what the target and the carrier have. -/
theorem truthful_machine (h : Informed ops gnssType inputs s) (input : AnnouncerInput A) :
    ∀ effect ∈ (Announcer.machine ops getUlpProxy gnssType s input).2,
      Truthful ops gnssType (inputs ++ [input]) effect := by
  intro effect heffect
  cases input with
  | getGpsInterface gps_conf_file =>
      have hreturned : ∃ interface, effect = .returned interface := by
        change effect ∈ (s.getGpsInterface ops gnssType gps_conf_file).2 at heffect
        rw [Announcer.getGpsInterface] at heffect
        dsimp only at heffect
        split at heffect
        · exact ⟨_, List.mem_singleton.mp heffect⟩
        · split at heffect
          all_goals exact ⟨_, List.mem_singleton.mp heffect⟩
      obtain ⟨interface, rfl⟩ := hreturned
      trivial
  | init adapter callbacks =>
      have hfile : firstFile (inputs ++ [.init adapter callbacks]) = firstFile inputs := by
        rw [firstFile_append]
        exact Option.or_none
      have hmode : suplMode ops (inputs ++ [.init adapter callbacks]) = suplMode ops inputs :=
        suplMode_append _
      rw [Announcer.machine] at heffect
      split at heffect
      case isFalse => cases heffect
      case isTrue hinterface =>
        have hboth (adapter : A) := truthful_of_informed (U := U) h hinterface hfile hmode adapter
        unfold Announcer.init at heffect
        split at heffect
        · cases heffect
        · rw [List.mem_singleton.mp heffect]
          exact (hboth _).2
        · rcases List.mem_append.mp heffect with heffect | heffect
          · split at heffect
            · rw [List.mem_singleton.mp heffect]
              exact (hboth adapter).1
            · cases heffect
          · rw [List.mem_singleton.mp heffect]
            exact (hboth adapter).2
  | configurationUpdate config_data length =>
      rw [Announcer.machine] at heffect
      split at heffect
      all_goals cases heffect
  | msgTask =>
      have hfile : firstFile (inputs ++ [.msgTask]) = firstFile inputs := by
        rw [firstFile_append]
        exact Option.or_none
      have hmode : suplMode ops (inputs ++ [.msgTask]) = suplMode ops inputs := suplMode_append _
      rw [Announcer.machine] at heffect
      split at heffect
      · cases heffect
      case h_2 msg queue hqueue =>
        have hinterface : s.interface = true := by
          cases hfalse : s.interface with
          | true => rfl
          | false =>
              rw [h.queue hfalse] at hqueue
              cases hqueue
        rw [List.mem_singleton.mp heffect]
        obtain ⟨file, hmem, -, mode, hmode', hcarried⟩ := h.announces hinterface
        cases msg with
        | suplMode mUlp =>
            change ∃ file ∈ firstFile (inputs ++ [.msgTask]), _
            rw [hfile, hmode]
            exact ⟨file, hmem, mode, hmode', hcarried⟩
        | _ => trivial

theorem informed_start : Informed ops gnssType [] (Announcer.start : Announcer A U) where
  read := rfl
  interface := rfl
  capabilities file hfile := by cases hfile
  mode htrue := by cases htrue
  unread _ := rfl
  queue _ := rfl

theorem informed_run (inputs : List (AnnouncerInput A)) :
    Informed ops gnssType inputs
      (run (announcerStep ops getUlpProxy gnssType) ⟨Announcer.start, []⟩ inputs).state := by
  induction inputs using List.reverseRecOn with
  | nil => exact informed_start
  | append_singleton inputs input ih =>
      rw [run_append, run_cons, run_nil]
      exact informed_machine ih input

/-- Of what a target without a modem has, nothing needs one. -/
theorem supported_withoutModem (hmodem : withoutModem gnssType = true)
    (file : Option (List Char)) :
    supported ops gnssType file &&& (GPS_CAPABILITY_MSA ||| GPS_CAPABILITY_MSB) = 0 := by
  rw [supported, limited, if_pos hmodem, UInt32.and_assoc]
  exact UInt32.and_zero

theorem carried_and {capabilities mask : UInt32} (h : capabilities &&& mask = 0) (mode : UInt32) :
    carried capabilities mode &&& mask = 0 := by
  have hand (other bits : UInt32) (hother : other &&& mask = 0) : other &&& bits &&& mask = 0 := by
    rw [UInt32.and_assoc, UInt32.and_comm bits, ← UInt32.and_assoc, hother, UInt32.zero_and]
  rw [carried, getCarrierCapabilities]
  dsimp only
  split
  all_goals split
  all_goals first | exact hand _ _ (hand _ _ h) | exact hand _ _ h | exact h

/-- In every run the framework is told the capabilities of `gps.conf` as it was when the interface
was asked for first, and the ULP module those of them that the carrier has by then, whatever
configuration updates came; on a target without a modem none of them needs one. -/
theorem capabilities_announced (ops : DoubleOps F) (getUlpProxy : A → U) (gnssType : UInt32)
    (inputs : List (AnnouncerInput A)) (input : AnnouncerInput A) :
    ∀ effect ∈ (Announcer.machine ops getUlpProxy gnssType
        (run (announcerStep ops getUlpProxy gnssType) ⟨Announcer.start, []⟩ inputs).state input).2,
      Truthful ops gnssType (inputs ++ [input]) effect ∧
        (withoutModem gnssType = true → ∀ capabilities ∈ effect.announced,
          capabilities &&& (GPS_CAPABILITY_MSA ||| GPS_CAPABILITY_MSB) = 0) := by
  intro effect heffect
  have htruthful := truthful_machine (informed_run inputs) input effect heffect
  refine ⟨htruthful, fun hmodem capabilities hannounced => ?_⟩
  have hcarried (value : UInt32) (h : ∃ file ∈ firstFile (inputs ++ [input]),
      ∃ mode ∈ suplMode ops (inputs ++ [input]),
        value = carried (supported ops gnssType file) mode) :
      value &&& (GPS_CAPABILITY_MSA ||| GPS_CAPABILITY_MSB) = 0 := by
    obtain ⟨file, -, mode, -, rfl⟩ := h
    exact carried_and (supported_withoutModem hmodem file) mode
  cases effect with
  | returned => cases hannounced
  | setCapabilitiesCb value =>
      cases hannounced
      obtain ⟨file, -, rfl⟩ := htruthful
      exact supported_withoutModem hmodem file
  | requestUlp adapter value =>
      cases hannounced
      exact hcarried _ htruthful
  | proc call =>
      cases call with
      | setCapabilities ulp value =>
          cases hannounced
          exact hcarried _ htruthful
      | _ => cases hannounced

/-- A file that names capabilities which the target does not have. -/
def namingModem : List (AnnouncerInput Nat) :=
  [.getGpsInterface (some "CAPABILITIES=0x37\n".toList)]

theorem capabilities_announced_limited :
    (0x31 : UInt32) &&& (GPS_CAPABILITY_MSA ||| GPS_CAPABILITY_MSB) = 0 ∧
      Truthful wholeOps GNSS_GSS (namingModem ++ [.init 7 (some true)])
        (.setCapabilitiesCb 0x31 : AnnouncerEffect Nat Nat) := by
  obtain ⟨htruthful, hmodem⟩ := capabilities_announced wholeOps (id : Nat → Nat) GNSS_GSS
    namingModem (.init 7 (some true)) (.setCapabilitiesCb 0x31) (by decide +kernel)
  exact ⟨hmodem rfl 0x31 rfl, htruthful⟩

end Run

end G2Common.Eng
