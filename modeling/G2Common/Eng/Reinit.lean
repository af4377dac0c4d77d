import G2Common.Eng.ConfigUpdate
import G2Common.Progress
import G2Common.Replica

/-!
The settings of the modem. They are sent once at the start, when they change, and all again
after the modem has restarted, by messages that wait in the queue meanwhile. The availability of
the network is one of them, which the framework tells at any time.
-/

namespace G2Common.Eng

open Transition Utils Replica

/-- The settings that `loc_eng_reinit` sends, without those of the sensors. -/
inductive Setting where
  | suplVer | lppConfig | aGlonassProtocol | enableData | xtraVersionCheck
  deriving DecidableEq, Repr

inductive SettingMsg where
  /-- `LocEngInit` -/
  | init
  /-- `LocEngUp`, as far as the settings go. -/
  | up
  | config (msg : ConfigMsg Unit Unit)
  | enableData (mEnable : Int32) (mAPN : Option (List UInt8))
  | setXtraVersionCheck (mCheck : UInt32)
  deriving DecidableEq, Repr

/-- `LocEngAdapter::setXtraVersionCheck` -/
def xtraVersionCheck (check : UInt32) : UInt32 :=
  if check = 0 then 0 else if check = 1 then 1 else if check = 2 then 2
  else if check = 3 then 3 else 0

/-- The setting of a message. Data is enabled by every number but 0. -/
def SettingMsg.setting : SettingMsg → Option (Setting × UInt32)
  | config (.suplVer _ mSuplVer) => some (.suplVer, mSuplVer.toUInt32)
  | config (.lppConfig _ mLppConfig) => some (.lppConfig, mLppConfig.toUInt32)
  | config (.aGlonassProtocol _ mAGlonassProtocl) => some (.aGlonassProtocol, mAGlonassProtocl)
  | enableData mEnable _ => some (.enableData, if mEnable = 0 then 0 else 1)
  | setXtraVersionCheck mCheck => some (.xtraVersionCheck, xtraVersionCheck mCheck)
  | _ => none

/-- The messages after which all is sent again. -/
def SettingMsg.reinits : SettingMsg → Bool
  | init | up => true
  | _ => false

/-- The engine with its globals, the queue, and the modem with what it was told since it
started. -/
structure Settled where
  gps_conf : LocGpsCfg
  agpsStatus : UInt32
  adapter : Bool
  queue : List SettingMsg
  modemUp : Bool
  modem : Setting → Option UInt32
  apn : Option (List UInt8)

inductive SettledInput where
  | init
  | configurationUpdate (config_data : Option (List Char)) (length : Int)
  | updateNetworkAvailability (available : Int32) (apn : Option (List UInt8))
  | modemDown
  | modemUp
  | msgTask

def MAX_APN_LEN : Nat := 100

namespace Settled

/-- `loc_eng_reinit`, without the sensors. -/
def reinit (s : Settled) : List SettingMsg :=
  [.config (.suplVer () s.gps_conf.SUPL_VER.toInt32),
    .config (.lppConfig () s.gps_conf.LPP_PROFILE.toInt32),
    .config (.aGlonassProtocol () s.gps_conf.A_GLONASS_POS_PROTOCOL_SELECT),
    .enableData (if s.agpsStatus ≠ 0 then 1 else 0) none,
    .setXtraVersionCheck s.gps_conf.XTRA_VERSION_CHECK]

/-- The settings as the engine has them now. -/
def source (s : Settled) : Setting → UInt32
  | .suplVer => s.gps_conf.SUPL_VER
  | .lppConfig => s.gps_conf.LPP_PROFILE
  | .aGlonassProtocol => s.gps_conf.A_GLONASS_POS_PROTOCOL_SELECT
  | .enableData => if s.agpsStatus = 0 then 0 else 1
  | .xtraVersionCheck => xtraVersionCheck s.gps_conf.XTRA_VERSION_CHECK

/-- `loc_eng_init`, as far as the settings go. -/
def init (s : Settled) : Settled :=
  if s.adapter then s else { s with adapter := true, queue := s.queue ++ [.init] }

/-- `loc_eng_agps_ril_update_network_availability` -/
def updateNetworkAvailability (s : Settled) (available : Int32) (apn : Option (List UInt8)) :
    Settled :=
  let s := { s with agpsStatus := available.toUInt32 }
  if s.adapter then
    match apn with
    | some apn => { s with queue := s.queue ++ [.enableData available (apn.take MAX_APN_LEN)] }
    | none => s
  else s

/-- The message thread. What a message sets is lost on a modem that is down. -/
def msgTask (s : Settled) : Settled :=
  match s.queue with
  | [] => s
  | msg :: queue =>
      let s := { s with queue := queue ++ if msg.reinits then s.reinit else [] }
      if s.modemUp then
        { s with
          modem := apply SettingMsg.setting s.modem msg
          apn := match msg with
            | .enableData _ (some mAPN) => some mAPN
            | _ => s.apn }
      else s

variable {F : Type*}

def step (ops : DoubleOps F) (s : Settled) : SettledInput → Settled
  | .init => s.init
  | .configurationUpdate config_data length =>
      let (gps_conf, sent) := locEngConfigurationUpdate ops (fun _ : Unit => ())
        (if s.adapter then some () else none) config_data length s.gps_conf
      { s with gps_conf := gps_conf, queue := s.queue ++ sent.map .config }
  | .updateNetworkAvailability available apn => s.updateNetworkAvailability available apn
  | .modemDown => { s with modemUp := false, modem := fun _ => none, apn := none }
  | .modemUp =>
      { s with modemUp := true, queue := s.queue ++ if s.adapter then [.up] else [] }
  | .msgTask => s.msgTask

end Settled

/-- With a configuration that was read, and a modem that was told nothing. -/
def settledStart (gps_conf : LocGpsCfg) : Settled :=
  ⟨gps_conf, 0, false, [], true, fun _ => none, none⟩

/-- The setting of a field of `gps_conf` that an update keeps. -/
def Announced.setting : Announced → Option Setting
  | suplVer => some .suplVer
  | lppProfile => some .lppConfig
  | aGlonassPosProtocolSelect => some .aGlonassProtocol
  | suplMode => none

/-- The messages about a field. -/
def SettingMsg.isAbout (field : Announced) : SettingMsg → Bool
  | config msg => msg.field = field
  | _ => false

theorem setting_config (msg : ConfigMsg Unit Unit) :
    (SettingMsg.config msg).setting =
      msg.field.setting.bind fun setting => msg.value.map (setting, ·) := by
  cases msg
  all_goals rfl

section Settings

variable {F : Type*} {ops : DoubleOps F} {s : Settled}

theorem source_of_field {field : Announced} {setting : Setting}
    (h : field.setting = some setting) : s.source setting = s.gps_conf.get field := by
  cases field with
  | suplMode => cases h
  | suplVer | lppProfile | aGlonassPosProtocolSelect =>
      cases h
      rfl

theorem field_injective {field other : Announced} {setting : Setting}
    (h : field.setting = some setting) (hother : other.setting = some setting) :
    other = field := by
  have hall (a b : Announced) : a.setting = b.setting → b.setting ≠ none → a = b := by
    cases a <;> cases b <;> simp [Announced.setting]
  apply hall other field (hother.trans h.symm)
  rw [h]
  exact Option.some_ne_none setting

/-- The messages of an update, about one setting. -/
theorem settle_announcements (gps_conf gps_conf' : LocGpsCfg) (r : Setting → Option UInt32)
    {field : Announced} {setting : Setting} (h : field.setting = some setting) :
    settle SettingMsg.setting r
        ((announcements (fun _ : Unit => ()) () gps_conf gps_conf').map .config) setting =
      if gps_conf.get field ≠ gps_conf'.get field then some (gps_conf'.get field)
      else r setting := by
  have habout : ∀ msg ∈ (announcements (fun _ : Unit => ()) () gps_conf gps_conf').map
      SettingMsg.config, msg.isAbout field = false → ∀ v, msg.setting ≠ some (setting, v) := by
    intro msg hmsg hother v hsetting
    obtain ⟨msg, -, rfl⟩ := List.mem_map.mp hmsg
    rw [setting_config, Option.bind_eq_some_iff] at hsetting
    obtain ⟨setting', hfield, hvalue⟩ := hsetting
    obtain ⟨value, -, hpair⟩ := Option.map_eq_some_iff.mp hvalue
    obtain rfl : setting' = setting := congrArg Prod.fst hpair
    exact absurd (field_injective h hfield) (of_decide_eq_false hother)
  rw [settle_filter (SettingMsg.isAbout field) habout, List.filter_map]
  change settle _ r (List.map _ ((announcements _ _ _ _).filter (·.field = field))) setting = _
  rw [filter_announcements, announcedIf]
  split
  case isTrue hdiffers =>
    apply apply_of_write
    have hmode : field ≠ .suplMode := by
      rintro rfl
      cases h
    rw [setting_config, announcement_field, announcement_value hmode, h]
    rfl
  case isFalse => rfl

/-- The messages of an update are about no other setting. -/
theorem settle_announcements_other (gps_conf gps_conf' : LocGpsCfg)
    (r : Setting → Option UInt32) {setting : Setting}
    (h : ∀ field : Announced, field.setting ≠ some setting) :
    settle SettingMsg.setting r
      ((announcements (fun _ : Unit => ()) () gps_conf gps_conf').map .config) setting =
        r setting := by
  rw [settle_filter fun _ => false]
  · rw [List.filter_false]
    rfl
  · intro msg hmsg _ v hsetting
    obtain ⟨msg, -, rfl⟩ := List.mem_map.mp hmsg
    rw [setting_config, Option.bind_eq_some_iff] at hsetting
    obtain ⟨setting', hfield, hvalue⟩ := hsetting
    obtain ⟨value, -, hpair⟩ := Option.map_eq_some_iff.mp hvalue
    obtain rfl : setting' = setting := congrArg Prod.fst hpair
    exact h msg.field hfield

/-- An update tells the settings that it changes. -/
theorem tells_announcements (s : Settled) (gps_conf : LocGpsCfg) :
    Tells SettingMsg.setting s.source
      { s with gps_conf := keepAnnounced s.gps_conf gps_conf }.source
      ((announcements (fun _ : Unit => ()) () s.gps_conf gps_conf).map .config) := by
  have htold (field : Announced) {setting : Setting} (h : field.setting = some setting)
      (r : Setting → Option UInt32) :
      settle SettingMsg.setting r ((announcements (fun _ : Unit => ()) () s.gps_conf gps_conf).map
          .config) setting =
            some ({ s with gps_conf := keepAnnounced s.gps_conf gps_conf }.source setting) ∨
        settle SettingMsg.setting r ((announcements (fun _ : Unit => ()) () s.gps_conf gps_conf).map
          .config) setting = r setting ∧
            { s with gps_conf := keepAnnounced s.gps_conf gps_conf }.source setting =
              s.source setting := by
    rw [settle_announcements _ _ _ h, source_of_field h, source_of_field h, keepAnnounced_get]
    split
    case isTrue => exact .inl rfl
    case isFalse hsame => exact .inr ⟨rfl, (Decidable.not_not.mp hsame).symm⟩
  intro r setting
  cases setting with
  | suplVer => exact htold .suplVer rfl r
  | lppConfig => exact htold .lppProfile rfl r
  | aGlonassProtocol => exact htold .aGlonassPosProtocolSelect rfl r
  | enableData | xtraVersionCheck =>
      right
      constructor
      · apply settle_announcements_other
        intro field h
        cases field
        all_goals cases h
      · rfl

/-- All settings are told after a restart. -/
theorem settle_reinit (s : Settled) (r : Setting → Option UInt32) (setting : Setting) :
    settle SettingMsg.setting r s.reinit setting = some (s.source setting) := by
  cases setting with
  | suplVer | lppConfig | aGlonassProtocol | xtraVersionCheck =>
      simp [settle, Settled.reinit, apply, SettingMsg.setting, Function.update, Settled.source]
  | enableData =>
      simp [settle, Settled.reinit, apply, SettingMsg.setting, Function.update, Settled.source]

/-- The availability comes with an APN, or as it was told before. -/
def Named (s : Settled) : SettledInput → Prop
  | .updateNetworkAvailability available apn =>
      s.adapter = true → apn = none → (available = 0 ↔ s.agpsStatus = 0)
  | _ => True

/-- Nothing is sent before the start, and then the modem will have all settings. -/
structure Told (s : Settled) : Prop where
  quiet : s.adapter = false → s.queue = []
  synced : s.adapter = true → s.modemUp = true →
    Synced SettingMsg.setting SettingMsg.reinits s.source s.modem s.queue

theorem toUInt32_eq_zero (available : Int32) : available.toUInt32 = 0 ↔ available = 0 :=
  ⟨fun h => congrArg UInt32.toInt32 h, fun h => congrArg Int32.toUInt32 h⟩

theorem tells_availability (s : Settled) (available : Int32) (mAPN : Option (List UInt8)) :
    Tells SettingMsg.setting s.source
      { s with agpsStatus := available.toUInt32 }.source [.enableData available mAPN] := by
  intro r setting
  cases setting with
  | enableData =>
      left
      simp [settle, apply, SettingMsg.setting, Settled.source, toUInt32_eq_zero]
  | suplVer | lppConfig | aGlonassProtocol | xtraVersionCheck =>
      right
      constructor
      · rw [settle_singleton]
        apply apply_of_ne
        rintro v ⟨⟩
      · rfl

theorem sent_none (config_data : Option (List Char)) (length : Int) (gps_conf : LocGpsCfg) :
    (locEngConfigurationUpdate ops (fun _ : Unit => ()) none config_data length gps_conf).2 =
      [] := by
  unfold locEngConfigurationUpdate
  cases config_data with
  | none => rfl
  | some config_data =>
      dsimp only
      split
      all_goals rfl

/-- An update with an adapter announces what it changes, or does nothing. -/
theorem update_cases (ops : DoubleOps F) (config_data : Option (List Char)) (length : Int)
    (gps_conf : LocGpsCfg) :
    locEngConfigurationUpdate ops (fun _ : Unit => ()) (some ()) config_data length gps_conf =
        (gps_conf, []) ∨
      ∃ gps_conf', locEngConfigurationUpdate ops (fun _ : Unit => ()) (some ()) config_data length
        gps_conf = (keepAnnounced gps_conf gps_conf',
          announcements (fun _ : Unit => ()) () gps_conf gps_conf') := by
  cases config_data with
  | none => exact .inl rfl
  | some config_data =>
      rcases Int.lt_or_le 0 length with hlength | hlength
      · exact .inr ⟨_, locEngConfigurationUpdate_eq hlength⟩
      · left
        unfold locEngConfigurationUpdate
        dsimp only
        rw [if_neg (Int.not_lt.mpr hlength)]

theorem told_configurationUpdate (hs : Told s) (config_data : Option (List Char))
    (length : Int) : Told (s.step ops (.configurationUpdate config_data length)) := by
  let update := locEngConfigurationUpdate ops (fun _ : Unit => ())
    (if s.adapter then some () else none) config_data length s.gps_conf
  change Told { s with
    gps_conf := update.1, queue := s.queue ++ update.2.map SettingMsg.config }
  cases hadapter : s.adapter with
  | false =>
      have hsent : update.2 = [] := by
        change (locEngConfigurationUpdate ops _ (if s.adapter then some () else none) config_data
          length s.gps_conf).2 = []
        rw [hadapter]
        exact sent_none config_data length s.gps_conf
      rw [hsent]
      constructor
      · intro _
        rw [hs.quiet hadapter]
        rfl
      · exact fun h => absurd h Bool.noConfusion
  | true =>
      have hupdate : update = locEngConfigurationUpdate ops (fun _ : Unit => ()) (some ())
          config_data length s.gps_conf := by
        change locEngConfigurationUpdate ops _ (if s.adapter then some () else none) config_data
          length s.gps_conf = _
        rw [hadapter]
        rfl
      rcases update_cases ops config_data length s.gps_conf with h | ⟨gps_conf', h⟩
      · rw [hupdate, h, List.map_nil, List.append_nil, ← hadapter]
        exact hs
      · rw [hupdate, h]
        constructor
        · exact fun h => absurd h Bool.noConfusion
        · exact fun _ hup => (hs.synced hadapter hup).send (tells_announcements s gps_conf')

theorem told_updateNetworkAvailability (hs : Told s) {available : Int32}
    {apn : Option (List UInt8)} (hnamed : Named s (.updateNetworkAvailability available apn)) :
    Told (s.updateNetworkAvailability available apn) := by
  unfold Settled.updateNetworkAvailability
  dsimp only
  split
  case isFalse hadapter =>
    constructor
    · exact hs.quiet
    · exact fun h => absurd h hadapter
  case isTrue hadapter =>
    cases apn with
    | some apn =>
        constructor
        · exact fun h => absurd (h.symm.trans hadapter) Bool.noConfusion
        · exact fun _ hup => (hs.synced hadapter hup).send (tells_availability s available _)
    | none =>
        constructor
        · exact hs.quiet
        · intro _ hup
          have hsource : { s with agpsStatus := available.toUInt32 }.source = s.source := by
            funext setting
            cases setting with
            | enableData =>
                simp [Settled.source, toUInt32_eq_zero, hnamed hadapter rfl]
            | suplVer | lppConfig | aGlonassProtocol | xtraVersionCheck => rfl
          change Synced _ _ { s with agpsStatus := available.toUInt32 }.source _ _
          rw [hsource]
          exact hs.synced hadapter hup

theorem told_msgTask (hs : Told s) : Told s.msgTask := by
  unfold Settled.msgTask
  split
  case h_1 => exact hs
  case h_2 msg queue hqueue =>
    have hadapter : s.adapter = true := by
      cases h : s.adapter with
      | true => rfl
      | false =>
          rw [hs.quiet h] at hqueue
          cases hqueue
    dsimp only
    split
    case isFalse hdown =>
      constructor
      · exact fun h => absurd (h.symm.trans hadapter) Bool.noConfusion
      · exact fun _ h => absurd h hdown
    case isTrue hup =>
      constructor
      · exact fun h => absurd (h.symm.trans hadapter) Bool.noConfusion
      · intro _ _
        change Synced _ _ s.source (apply SettingMsg.setting s.modem msg)
          (queue ++ if msg.reinits then Settled.reinit { s with queue := queue } else [])
        have hsynced := hs.synced hadapter hup
        rw [hqueue] at hsynced
        cases hreinits : msg.reinits with
        | true => exact synced_of_all (settle_reinit s)
        | false =>
            rw [if_neg Bool.false_ne_true, List.append_nil]
            exact hsynced.take hreinits

theorem told_step (ops : DoubleOps F) (s : Settled) (input : SettledInput) (hs : Told s)
    (hinput : Named s input) :
    Told (s.step ops input) := by
  cases input with
  | init =>
      change Told s.init
      rw [Settled.init]
      split
      case isTrue => exact hs
      case isFalse =>
        constructor
        · exact fun h => absurd h Bool.noConfusion
        · exact fun _ _ => synced_of_refresh rfl (List.mem_append_right _ List.mem_cons_self)
  | configurationUpdate config_data length => exact told_configurationUpdate hs config_data length
  | updateNetworkAvailability available apn => exact told_updateNetworkAvailability hs hinput
  | modemDown =>
      constructor
      · exact hs.quiet
      · exact fun _ h => absurd h Bool.noConfusion
  | modemUp =>
      constructor
      · intro hadapter
        change s.queue ++ (if s.adapter then [SettingMsg.up] else []) = []
        rw [hs.quiet hadapter, show s.adapter = false from hadapter]
        rfl
      · intro hadapter _
        change Synced _ _ _ _ (s.queue ++ if s.adapter then [SettingMsg.up] else [])
        rw [show s.adapter = true from hadapter]
        exact synced_of_refresh rfl (List.mem_append_right _ List.mem_cons_self)
  | msgTask => exact told_msgTask hs

/-- The turns that the message thread needs: six for a message that sends five others. -/
def Settled.weight (s : Settled) : Nat :=
  s.queue.length + 5 * s.queue.countP SettingMsg.reinits

theorem weight_msgTask (s : Settled) : s.msgTask.weight ≤ s.weight - 1 := by
  have hsends (s : Settled) (queue : List SettingMsg) (msg : SettingMsg) :
      (queue ++ if msg.reinits then s.reinit else []).length +
          5 * (queue ++ if msg.reinits then s.reinit else []).countP SettingMsg.reinits ≤
        (msg :: queue).length + 5 * (msg :: queue).countP SettingMsg.reinits - 1 := by
    rw [List.length_append, List.countP_append, List.length_cons, List.countP_cons]
    split
    case isTrue =>
      change _ + 5 + 5 * (_ + 0) ≤ _
      omega
    case isFalse =>
      change _ + 0 + 5 * (_ + 0) ≤ _
      omega
  unfold Settled.msgTask
  split
  case h_1 hqueue =>
    rw [Settled.weight, hqueue]
    exact Nat.zero_le _
  case h_2 msg queue hqueue =>
    have hweight : s.weight =
        (msg :: queue).length + 5 * (msg :: queue).countP SettingMsg.reinits := by
      rw [Settled.weight, hqueue]
    rw [hweight]
    dsimp only
    split
    all_goals exact hsends _ queue msg

theorem told_iterate (hs : Told s) (n : Nat) : Told (Settled.msgTask^[n] s) := by
  induction n with
  | zero => exact hs
  | succ n ih =>
      rw [Function.iterate_succ_apply']
      exact told_msgTask ih

theorem weight_iterate (s : Settled) (n : Nat) :
    (Settled.msgTask^[n] s).weight ≤ s.weight - n := by
  induction n with
  | zero => exact Nat.le_refl _
  | succ n ih =>
      rw [Function.iterate_succ_apply']
      have hstep := weight_msgTask (Settled.msgTask^[n] s)
      omega

theorem queue_of_weight (h : s.weight = 0) : s.queue = [] := by
  rw [Settled.weight] at h
  apply List.eq_nil_of_length_eq_zero
  omega

/-- The message thread leaves what the settings are told from. -/
theorem frame_msgTask (s : Settled) :
    s.msgTask.adapter = s.adapter ∧ s.msgTask.modemUp = s.modemUp ∧
      s.msgTask.source = s.source := by
  unfold Settled.msgTask
  split
  case h_1 => exact ⟨rfl, rfl, rfl⟩
  case h_2 =>
    dsimp only
    split
    all_goals exact ⟨rfl, rfl, rfl⟩

theorem frame_iterate (s : Settled) (n : Nat) :
    (Settled.msgTask^[n] s).adapter = s.adapter ∧ (Settled.msgTask^[n] s).modemUp = s.modemUp ∧
      (Settled.msgTask^[n] s).source = s.source := by
  induction n with
  | zero => exact ⟨rfl, rfl, rfl⟩
  | succ n ih =>
      obtain ⟨hadapter, hup, hsource⟩ := frame_msgTask (Settled.msgTask^[n] s)
      rw [Function.iterate_succ_apply']
      exact ⟨hadapter.trans ih.1, hup.trans ih.2.1, hsource.trans ih.2.2⟩

/-- Once the framework and the modem are quiet, the message thread empties its queue, and then
the modem has all settings as the engine has them, whatever was changed and however often the
modem went down before. -/
theorem settings_converge (ops : DoubleOps F) (gps_conf : LocGpsCfg)
    (inputs : List SettledInput)
    (hinputs : Meets (Settled.step ops) Named (settledStart gps_conf) inputs) :
    let s := run (Settled.step ops) (settledStart gps_conf) inputs
    s.adapter = true → s.modemUp = true → ∀ n, s.weight ≤ n →
      (Settled.msgTask^[n] s).queue = [] ∧
        ∀ setting, (Settled.msgTask^[n] s).modem setting = some (s.source setting) := by
  intro s hadapter hup n hn
  have hstart : Told (settledStart gps_conf) :=
    ⟨fun _ => rfl, fun h => absurd h Bool.noConfusion⟩
  have hs : Told s := run_invariant (told_step ops) hstart hinputs
  have hdone := told_iterate hs n
  have hweight := weight_iterate s n
  have hqueue := queue_of_weight (Nat.le_zero.mp (hweight.trans (Nat.sub_eq_zero_of_le hn).le))
  obtain ⟨hadapter', hup', hsource⟩ := frame_iterate s n
  have hsynced := hdone.synced (hadapter'.trans hadapter) (hup'.trans hup)
  rw [hqueue, hsource] at hsynced
  exact ⟨hqueue, hsynced.done⟩

end Settings

/-- A network that was there before the engine, and a modem that goes down. -/
theorem settings_converge_restarted :
    (Settled.msgTask^[11] (run (Settled.step wholeOps) (settledStart defaultConf)
      [.updateNetworkAvailability 1 none, .init, .modemDown, .msgTask, .modemUp])).modem
        .enableData = some 1 :=
  (settings_converge wholeOps defaultConf
    [.updateNetworkAvailability 1 none, .init, .modemDown, .msgTask, .modemUp]
    ⟨fun h => absurd h Bool.noConfusion, trivial, trivial, trivial, trivial, trivial⟩
    rfl rfl 11 (by decide)).2 .enableData

/-- Without an APN the modem is not told, until it goes down. -/
example : (Settled.msgTask^[11] (run (Settled.step wholeOps) (settledStart defaultConf)
    [.init, .updateNetworkAvailability 1 none])).modem .enableData = some 1 ∧
    (Settled.msgTask^[11] (run (Settled.step wholeOps) (settledStart defaultConf)
      [.init, .msgTask, .updateNetworkAvailability 1 none])).modem .enableData = some 0 := by
  decide

end G2Common.Eng
