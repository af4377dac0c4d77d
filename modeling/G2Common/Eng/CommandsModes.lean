import G2Common.Eng.Commands

/-!
What reaches the modem and what the proxy holds: the modem is asked for no other modes than the
target has, and a new proxy takes over what the framework has asked for, unless the framework's
thread is in a call of the old one when it is deleted.
-/

namespace G2Common.Eng

open Transition Utils

/-- The mode of a call of the modem. -/
def Call.mode? : Call → Option LocPosMode
  | startFix mode => some mode
  | setPositionMode mode => some mode
  | _ => none

/-- A mode that a target has, with a fix a second at most. -/
structure Offered (target : UInt32) (params : LocPosMode) : Prop where
  mode : params.mode = LOC_POSITION_MODE_STANDALONE ∨
    (params.mode = LOC_POSITION_MODE_MS_BASED ∨ params.mode = LOC_POSITION_MODE_MS_ASSISTED) ∧
      getTargetGnssType target ≠ GNSS_GSS ∧ getTargetGnssType target ≠ GNSS_QCA1530
  minInterval : MIN_POSSIBLE_FIX_INTERVAL ≤ params.minInterval

/-- A mode that a target has, or the one of no session. -/
def Allowed (target : UInt32) (params : LocPosMode) : Prop :=
  params.mode = LOC_POSITION_MODE_INVALID ∨ Offered target params

theorem locMode_cases (mode : UInt32) :
    locMode mode = LOC_POSITION_MODE_STANDALONE ∨
      locMode mode = LOC_POSITION_MODE_MS_BASED ∨ locMode mode = LOC_POSITION_MODE_MS_ASSISTED := by
  rw [locMode]
  split
  case isTrue => exact .inr (.inl rfl)
  case isFalse =>
    split
    case isTrue => exact .inr (.inr rfl)
    case isFalse => exact .inl rfl

theorem minInterval_make (m : Int) (recr gap accu time : UInt32) :
    MIN_POSSIBLE_FIX_INTERVAL ≤ (LocPosMode.make m recr gap accu time).minInterval := by
  rw [LocPosMode.make]
  split
  case isTrue => exact UInt32.le_refl _
  case isFalse h => exact UInt32.not_lt.mp h

/-- What the framework asks for is a mode of the target. -/
theorem offered_command {target : UInt32} {navigating : Bool} {call : HalCall}
    {params : LocPosMode} (hparams : call.command target navigating = some (.fixMode params)) :
    Offered target params := by
  cases call with
  | start | stop => cases hparams
  | cleanup =>
      cases navigating
      all_goals cases hparams
  | setPositionMode mode recurrence minInterval preferredAccuracy preferredTime =>
      injection hparams with hparams
      injection hparams with hparams
      subst hparams
      constructor
      · change targetMode target (locMode mode) = _ ∨
          (targetMode target (locMode mode) = _ ∨ targetMode target (locMode mode) = _) ∧ _
        rw [targetMode]
        split
        case isTrue => exact .inl rfl
        case isFalse h =>
          rcases locMode_cases mode with hmode | hmode
          · exact .inl hmode
          · have hother : locMode mode ≠ LOC_POSITION_MODE_STANDALONE := by
              rcases hmode with hmode | hmode
              all_goals
                rw [hmode]
                decide
            right
            constructor
            · exact hmode
            constructor
            · exact fun hgss => h ⟨.inl hgss, hother⟩
            · exact fun hqca => h ⟨.inr hqca, hother⟩
      · exact minInterval_make _ _ _ _ _

/-- A handler leaves the adapter with a mode that is allowed, and asks the modem for no other. -/
structure Asks (target : UInt32) (s : LocEngData × List Call) : Prop where
  fixCriteria : Allowed target s.1.adapter.mFixCriteria
  asked : ∀ call ∈ s.2, ∀ params, call.mode? = some params → Allowed target params

/-- The calls that ask for no mode. -/
theorem Asks.of_silent {target : UInt32} {r : LocEngData × List Call}
    (h : Allowed target r.1.adapter.mFixCriteria)
    (hsilent : ∀ call ∈ r.2, call.mode? = none) : Asks target r := by
  constructor
  · exact h
  · intro call hcall params hparams
    rw [hsilent call hcall] at hparams
    cases hparams

namespace LocEngData

variable {target : UInt32} {s : LocEngData} {ret : LocApiAdapterErr}

theorem allowed_setInSession {adapter : LocEngAdapter} (h : Allowed target adapter.mFixCriteria)
    (inSession : Bool) : Allowed target (adapter.setInSession inSession).mFixCriteria := by
  cases inSession with
  | true => exact h
  | false => exact .inl rfl

theorem mode?_informGpsStatus {status : UInt16} {call : Call}
    (hcall : call ∈ s.informGpsStatus status) : call.mode? = none := by
  rw [calls_informGpsStatus hcall]
  rfl

theorem mode?_reportStatus {status : UInt16} {call : Call}
    (hcall : call ∈ (s.reportStatus status).2) : call.mode? = none := by
  rw [calls_reportStatus hcall]
  rfl

theorem mode?_updateAidingDataForDeletion {call : Call}
    (hcall : call ∈ s.updateAidingDataForDeletion.2) : call.mode? = none := by
  rw [calls_updateAidingDataForDeletion hcall]
  rfl

theorem asks_startHandler (ret : LocApiAdapterErr)
    (h : Allowed target s.adapter.mFixCriteria) :
    Asks target (s.startHandler ret) := by
  constructor
  · rw [mFixCriteria_startHandler]
    exact h
  · intro call hcall params hparams
    rcases calls_startHandler hcall with rfl | rfl
    · injection hparams with hparams
      exact hparams ▸ h
    · cases hparams

theorem asks_stopHandler (h : Allowed target s.adapter.mFixCriteria) :
    Asks target (s.stopHandler ret) := by
  rw [stopHandler]
  split
  case isFalse => exact .of_silent h (List.forall_mem_nil _)
  case isTrue =>
    apply Asks.of_silent
    · exact allowed_setInSession h false
    · intro call hcall
      rcases List.mem_cons.mp hcall with rfl | hcall
      · rfl
      · split at hcall
        · exact mode?_informGpsStatus hcall
        · cases hcall

theorem asks_reportPosition (h : Allowed target s.adapter.mFixCriteria) (mLocation : UlpLocation)
    (mStatus : LocSessStatus) (mTechMask : UInt32) :
    Asks target (s.reportPosition mLocation mStatus mTechMask) := by
  apply Asks.of_silent
  · rw [reportPosition]
    split
    case isFalse => exact h
    case isTrue =>
      dsimp only
      split
      case isTrue => exact allowed_setInSession h false
      case isFalse => exact h
  · intro call hcall
    cases makes_reportPosition hcall
    all_goals rfl

theorem asks_handleEngineUp (h : Allowed target s.adapter.mFixCriteria) :
    Asks target (s.handleEngineUp ret) := by
  unfold handleEngineUp
  dsimp only
  split
  case isFalse =>
    apply Asks.of_silent
    · exact h
    · exact fun call hcall => mode?_reportStatus hcall
  case isTrue =>
    -- the mode is taken away between the two requests
    have hstart := asks_startHandler ret
      (s := { (s.reportStatus GPS_STATUS_ENGINE_ON).1 with
        adapter := (s.adapter.setPositionMode none).1.setInSession false })
      (allowed_setInSession h false)
    constructor
    · exact hstart.fixCriteria
    · intro call hcall params hparams
      rcases List.mem_append.mp hcall with hcall | hcall
      · rcases List.mem_append.mp hcall with hcall | hcall
        · rw [mode?_reportStatus hcall] at hparams
          cases hparams
        · obtain rfl := List.mem_singleton.mp hcall
          injection hparams with hparams
          exact hparams ▸ h
      · exact hstart.asked call hcall params hparams

end LocEngData

theorem asks_command {target : UInt32} {s : LocEngData} {command : Command}
    (h : Allowed target s.adapter.mFixCriteria)
    (hcommand : ∀ params, command = .fixMode params → Offered target params)
    (ret : LocApiAdapterErr) : Asks target (proc s (command.msg ret)) := by
  cases command with
  | startFix => exact LocEngData.asks_startHandler ret h
  | stopFix => exact LocEngData.asks_stopHandler h
  | fixMode params =>
      have hparams : Allowed target params := .inr (hcommand params rfl)
      constructor
      · exact hparams
      · intro call hcall asked hasked
        obtain rfl := List.mem_singleton.mp hcall
        injection hasked with hasked
        exact hasked ▸ hparams

theorem asks_event {target : UInt32} {s : LocEngData} (event : EngineEvent)
    (h : Allowed target s.adapter.mFixCriteria) (ret : LocApiAdapterErr) :
    Asks target (proc s (event.msg ret)) := by
  cases event with
  | reportPosition mLocation mStatus mTechMask =>
      exact LocEngData.asks_reportPosition h mLocation mStatus mTechMask
  | reportStatus mStatus =>
      apply Asks.of_silent
      · change Allowed target (LocEngData.updateAidingDataForDeletion _).1.adapter.mFixCriteria
        rw [LocEngData.adapter_updateAidingDataForDeletion]
        exact h
      · intro call hcall
        rcases List.mem_append.mp hcall with hcall | hcall
        · exact LocEngData.mode?_reportStatus hcall
        · exact LocEngData.mode?_updateAidingDataForDeletion hcall
  | delAidData mType =>
      apply Asks.of_silent
      · change Allowed target (LocEngData.updateAidingDataForDeletion _).1.adapter.mFixCriteria
        rw [LocEngData.adapter_updateAidingDataForDeletion]
        exact h
      · exact fun call hcall => LocEngData.mode?_updateAidingDataForDeletion hcall
  | muteOneSession => exact .of_silent h (List.forall_mem_nil _)
  | engineDown => exact .of_silent h fun call hcall => LocEngData.mode?_reportStatus hcall
  | engineUp => exact LocEngData.asks_handleEngineUp h

/-- The modes that are on their way, that the adapter has and that the modem was asked for. -/
structure Modes (target : UInt32) (t : HalEngine) : Prop where
  pending : ∀ params, .fixMode params ∈ t.state.commands → Offered target params
  fixCriteria : Allowed target t.state.engine.adapter.mFixCriteria
  asked : ∀ call ∈ t.log, ∀ params, call.mode? = some params → Allowed target params

section Modes

variable {target : UInt32} {t : HalEngine}

/-- A step that asks the modem for nothing. -/
theorem Modes.frame {t' : HalEngine} (ht : Modes target t)
    (hpending : ∀ params, .fixMode params ∈ t'.state.commands →
      .fixMode params ∈ t.state.commands ∨ Offered target params)
    (hengine : t'.state.engine = t.state.engine) (hlog : t'.log = t.log ++ []) :
    Modes target t' := by
  constructor
  · exact fun params hparams => (hpending params hparams).elim (ht.pending params) id
  · rw [hengine]
    exact ht.fixCriteria
  · rw [hlog, List.append_nil]
    exact ht.asked

theorem modes_msgTask (ht : Modes target t) (ret : LocApiAdapterErr) :
    Modes target (halStep target t (.msgTask ret)) := by
  obtain ⟨⟨mUlp, ulp, client, dangling, queue, engine⟩, log⟩ := t
  have hasked (r : LocEngData × List Call) (hr : Asks target r) (call : Call)
      (hcall : call ∈ log ++ r.2) (params : LocPosMode) (hparams : call.mode? = some params) :
      Allowed target params := by
    rcases List.mem_append.mp hcall with hcall | hcall
    · exact ht.asked call hcall params hparams
    · exact hr.asked call hcall params hparams
  cases queue with
  | nil => exact ht.frame (fun params hparams => .inl hparams) rfl rfl
  | cons message queue =>
      cases message with
      | command command =>
          have hr := asks_command ht.fixCriteria
            (fun params hparams => ht.pending params (hparams ▸ List.mem_cons_self)) ret
          constructor
          · exact fun params hparams => ht.pending params (List.mem_cons_of_mem _ hparams)
          · exact hr.fixCriteria
          · exact hasked _ hr
      | event event =>
          have hr := asks_event event ht.fixCriteria ret
          constructor
          · exact ht.pending
          · exact hr.fixCriteria
          · exact hasked _ hr
      | setUlpProxy ulp fresh =>
          apply ht.frame
          · intro params hparams
            left
            change _ ∈ (Hal.setUlpProxy _ ulp fresh).commands at hparams
            rw [commands_setUlpProxy] at hparams
            exact hparams
          · exact engine_setUlpProxy _ ulp fresh
          · rfl

theorem modes_step (t : HalEngine) (input : HalInput) (ht : Modes target t) :
    Modes target (halStep target t input) := by
  cases input with
  | call call =>
      cases hcommand : t.state.taken target call with
      | none =>
          have hstate : (halStep target t (.call call)).state = t.state := by
            change Hal.call _ _ _ = _
            rw [Hal.call, hcommand]
          apply ht.frame
          · exact fun params hparams => .inl (hstate ▸ hparams)
          · rw [hstate]
          · rfl
      | some command =>
          obtain ⟨hidle, hcalled⟩ := Hal.of_taken hcommand
          have hstate : (halStep target t (.call call)).state =
              { t.state with client := .entered command } := by
            change Hal.call _ _ _ = _
            rw [Hal.call, hcommand]
          apply ht.frame
          · intro params hparams
            rw [hstate] at hparams
            rcases List.mem_append.mp hparams with hqueued | hnew
            · exact .inl (List.mem_append_left _ hqueued)
            · obtain rfl := List.mem_singleton.mp hnew
              exact .inr (offered_command hcalled)
          · rw [hstate]
          · rfl
  | client =>
      apply ht.frame
      · exact fun params hparams => .inl (commands_clientStep t.state ▸ hparams)
      · exact engine_clientStep t.state
      · rfl
  | report event =>
      have hcommands := commands_append t.state (.event event) rfl
      exact ht.frame (fun params hparams => .inl (hcommands ▸ hparams)) rfl rfl
  | setUlpProxy ulp fresh =>
      have hcommands := commands_append t.state (.setUlpProxy ulp fresh) rfl
      exact ht.frame (fun params hparams => .inl (hcommands ▸ hparams)) rfl rfl
  | msgTask ret => exact modes_msgTask ht ret

/-- In every run the modem is asked for modes of the target only, with a fix a second at most,
or for the mode of no session. On two kinds of targets this is the standalone mode. -/
theorem modem_modes (target : UInt32) (locationCb statusCb : Bool) (intermediateFix : UInt8)
    (generateNmea : Bool) (accuracyThres : UInt32) (inputs : List HalInput) :
    ∀ call ∈ (run (halStep target)
        (halStart locationCb statusCb intermediateFix generateNmea accuracyThres) inputs).log,
      ∀ params, call.mode? = some params → Allowed target params := by
  have hstart : Modes target
      (halStart locationCb statusCb intermediateFix generateNmea accuracyThres) :=
    ⟨fun _ hparams => (List.not_mem_nil hparams).elim, .inl rfl, List.forall_mem_nil _⟩
  exact (run_invariant_all modes_step hstart inputs).asked

end Modes

/-- A mode that the framework asks for and a target of the first kind does not have. -/
theorem modem_modes_standalone :
    Allowed TARGET_APQ_SA { LocPosMode.make 1 0 500 0 0 with mode := 0 } :=
  modem_modes TARGET_APQ_SA true true 0 true 0 restartedSession
    (.setPositionMode { LocPosMode.make 1 0 500 0 0 with mode := 0 }) (by decide) _ rfl

/-- The command of which the proxy does not know yet. -/
def Client.unsent : Client → List Command
  | entered c | fetched _ c => [c]
  | _ => []

/-- The proxy that the framework's thread is about to call. -/
def Client.mUlp? : Client → Option Nat
  | fetched mUlp _ => some mUlp
  | _ => none

/-- The proxy stays while the framework's thread is about to call it. -/
def Stays (target : UInt32) (t : HalEngine) (input : HalInput) : Prop :=
  t.state.client.mUlp? = none ∨ (halStep target t input).state.mUlp = t.state.mUlp

instance (target : UInt32) (t : HalEngine) (input : HalInput) :
    Decidable (Stays target t input) :=
  inferInstanceAs (Decidable (_ ∨ _))

/-- A proxy without a mode has the one of a new proxy. -/
def UlpProxyBase.Valid (ulp : UlpProxyBase) : Prop :=
  ulp.mPosMode.mode = LOC_POSITION_MODE_INVALID → ulp.mPosMode = UlpProxyBase.new.mPosMode

/-- A new proxy takes over all that the old one holds. -/
theorem UlpProxyBase.handOver_new {ulp : UlpProxyBase} (h : ulp.Valid) :
    ulp.handOver .new = ulp := by
  obtain ⟨mPosMode, mFixSet⟩ := ulp
  have hmode : (if mPosMode.mode ≠ LOC_POSITION_MODE_INVALID then
      UlpProxyBase.new.send (.fixMode mPosMode) else .new) = ⟨mPosMode, false⟩ := by
    split
    case isTrue => rfl
    case isFalse hinvalid =>
      have hnew : mPosMode = UlpProxyBase.new.mPosMode := h (Decidable.not_not.mp hinvalid)
      rw [hnew]
      rfl
  rw [handOver]
  dsimp only
  rw [hmode]
  cases mFixSet
  all_goals rfl

/-- The proxy has got all commands but the one of a call that has only fetched it. -/
structure Holds (target : UInt32) (t : HalEngine) (given : List Command) : Prop where
  safe : t.state.dangling = false
  fetched : ∀ mUlp ∈ t.state.client.mUlp?, mUlp = t.state.mUlp
  offered : ∀ params, .fixMode params ∈ t.state.client.unsent → Offered target params
  valid : t.state.ulp.Valid
  sent : t.state.client.unsent.foldl UlpProxyBase.send t.state.ulp =
    given.foldl UlpProxyBase.send .new

section Proxy

variable {target : UInt32} {t : HalEngine} {given : List Command}

theorem valid_send {ulp : UlpProxyBase} (h : ulp.Valid) {command : Command}
    (hcommand : ∀ params, command = .fixMode params → Offered target params) :
    (ulp.send command).Valid := by
  cases command with
  | startFix | stopFix => exact h
  | fixMode params =>
      intro hinvalid
      change params.mode = _ at hinvalid
      rcases (hcommand params rfl).mode with hmode | ⟨hmode | hmode, -⟩
      all_goals
        rw [hinvalid] at hmode
        cases hmode

/-- A step that leaves the proxy, its address and the framework's thread. -/
theorem Holds.frame {t' : HalEngine} (ht : Holds target t given)
    (hulp : t'.state.ulp = t.state.ulp) (hmUlp : t'.state.mUlp = t.state.mUlp)
    (hclient : t'.state.client = t.state.client)
    (hdangling : t'.state.dangling = t.state.dangling) : Holds target t' given := by
  constructor
  · exact hdangling.trans ht.safe
  · rw [hclient, hmUlp]
    exact ht.fetched
  · rw [hclient]
    exact ht.offered
  · rw [hulp]
    exact ht.valid
  · rw [hclient, hulp]
    exact ht.sent

theorem holds_setUlpProxy {s : Hal} {log log' : List Call} (ht : Holds target ⟨s, log⟩ given)
    {ulp : Option Nat} {fresh : Nat}
    (hstays : s.client.mUlp? = none ∨ (s.setUlpProxy ulp fresh).mUlp = s.mUlp) :
    Holds target ⟨s.setUlpProxy ulp fresh, log'⟩ given := by
  rw [Hal.setUlpProxy] at hstays ⊢
  split
  case isTrue => exact ht.frame rfl rfl rfl rfl
  case isFalse hnew =>
    rw [if_neg hnew] at hstays
    have hulp := UlpProxyBase.handOver_new ht.valid
    constructor
    · exact ht.safe
    · intro mUlp hmem
      rcases hstays with hnone | hmUlp
      · change mUlp ∈ s.client.mUlp? at hmem
        rw [hnone] at hmem
        cases hmem
      · exact (ht.fetched mUlp hmem).trans hmUlp.symm
    · exact ht.offered
    · change (s.ulp.handOver .new).Valid
      rw [hulp]
      exact ht.valid
    · change s.client.unsent.foldl _ (s.ulp.handOver .new) = _
      rw [hulp]
      exact ht.sent

theorem holds_msgTask (ht : Holds target t given) (ret : LocApiAdapterErr)
    (hstays : Stays target t (.msgTask ret)) :
    Holds target (halStep target t (.msgTask ret)) given := by
  obtain ⟨⟨mUlp, ulp, client, dangling, queue, engine⟩, log⟩ := t
  cases queue with
  | nil => exact ht.frame rfl rfl rfl rfl
  | cons message queue =>
      cases message with
      | command _ | event _ => exact ht.frame rfl rfl rfl rfl
      | setUlpProxy ulp' fresh =>
          have hqueue : Holds target ⟨⟨mUlp, ulp, client, dangling, queue, engine⟩, log⟩ given :=
            ht.frame rfl rfl rfl rfl
          exact holds_setUlpProxy hqueue hstays

theorem holds_client (ht : Holds target t given) :
    Holds target (halStep target t .client) given := by
  obtain ⟨⟨mUlp, ulp, client, dangling, queue, engine⟩, log⟩ := t
  cases client with
  | idle => exact ht.frame rfl rfl rfl rfl
  | entered command =>
      constructor
      · exact ht.safe
      · exact fun _ hmem => (Option.mem_some.mp hmem).symm
      · exact ht.offered
      · exact ht.valid
      · exact ht.sent
  | fetched mUlp' command =>
      have hmUlp : mUlp' = mUlp := ht.fetched mUlp' rfl
      have hstep : (halStep target ⟨⟨mUlp, ulp, .fetched mUlp' command, dangling, queue, engine⟩,
          log⟩ .client).state =
            ⟨mUlp, ulp.send command, .called command, dangling, queue, engine⟩ := if_pos hmUlp
      have hcommand : ∀ params, command = .fixMode params → Offered target params :=
        fun params hparams => ht.offered params (List.mem_singleton.mpr hparams.symm)
      constructor
      · rw [hstep]
        exact ht.safe
      · rw [hstep]
        intro _ hmem
        cases hmem
      · rw [hstep]
        intro _ hmem
        cases hmem
      · rw [hstep]
        exact valid_send ht.valid hcommand
      · rw [hstep]
        exact ht.sent
  | called command =>
      constructor
      · exact ht.safe
      · intro _ hmem
        cases hmem
      · intro _ hmem
        cases hmem
      · exact ht.valid
      · exact ht.sent

theorem holds_call (ht : Holds target t given) (call : HalCall) :
    Holds target (halStep target t (.call call)) (given ++ taken target t (.call call)) := by
  cases hcommand : t.state.taken target call with
  | none =>
      have hstate : (halStep target t (.call call)).state = t.state := by
        change Hal.call _ _ _ = _
        rw [Hal.call, hcommand]
      rw [taken, hcommand, Option.toList_none, List.append_nil]
      exact ht.frame (congrArg Hal.ulp hstate) (congrArg Hal.mUlp hstate)
        (congrArg Hal.client hstate) (congrArg Hal.dangling hstate)
  | some command =>
      obtain ⟨hidle, hcalled⟩ := Hal.of_taken hcommand
      have hstate : (halStep target t (.call call)).state =
          { t.state with client := .entered command } := by
        change Hal.call _ _ _ = _
        rw [Hal.call, hcommand]
      have hsent := ht.sent
      rw [hidle] at hsent
      change t.state.ulp = _ at hsent
      rw [taken, hcommand, Option.toList_some]
      constructor
      · rw [hstate]
        exact ht.safe
      · rw [hstate]
        intro _ hmem
        cases hmem
      · rw [hstate]
        intro params hparams
        obtain rfl := List.mem_singleton.mp hparams
        exact offered_command hcalled
      · rw [hstate]
        exact ht.valid
      · rw [hstate, List.foldl_append, ← hsent]
        rfl

theorem holds_step (t : HalEngine) (input : HalInput) (given : List Command)
    (ht : Holds target t given) (hstays : Stays target t input) :
    Holds target (halStep target t input) (given ++ taken target t input) := by
  cases input with
  | call call => exact holds_call ht call
  | client =>
      simp only [taken, List.append_nil]
      exact holds_client ht
  | report _ | setUlpProxy _ _ =>
      simp only [taken, List.append_nil]
      exact ht.frame rfl rfl rfl rfl
  | msgTask ret =>
      simp only [taken, List.append_nil]
      exact holds_msgTask ht ret hstays

/-- In every run in which no proxy is deleted under a call, none is called after that, and the
proxy has what all commands together say, whichever proxies came before it. -/
theorem proxy_follows_commands (target : UInt32) (locationCb statusCb : Bool)
    (intermediateFix : UInt8) (generateNmea : Bool) (accuracyThres : UInt32)
    (inputs : List HalInput) :
    let start := halStart locationCb statusCb intermediateFix generateNmea accuracyThres
    let s := (run (halStep target) start inputs).state
    Meets (halStep target) (Stays target) start inputs →
      s.dangling = false ∧
        (s.client.unsent = [] →
          s.ulp = (commands target start inputs).foldl UlpProxyBase.send .new) := by
  intro start s hstays
  have hstart : Holds target start [] := by
    constructor
    · rfl
    · intro _ hmem
      cases hmem
    · intro _ hmem
      cases hmem
    · exact fun _ => rfl
    · rfl
  have hend := run_contributions (@holds_step target) hstart hstays
  constructor
  · exact hend.safe
  · intro hunsent
    have hsent := hend.sent
    change s.client.unsent.foldl _ _ = _ at hsent
    rw [hunsent] at hsent
    exact hsent

theorem proxy_follows_commands_restarted :
    let start := halStart true true 0 true 0
    let s := (run (halStep 0) start restartedSession).state
    s.dangling = false ∧
      s.ulp = (commands 0 start restartedSession).foldl UlpProxyBase.send .new := by
  have h := proxy_follows_commands 0 true true 0 true 0 restartedSession (by decide)
  exact ⟨h.1, h.2 (by decide)⟩

end Proxy

/-- A proxy that is deleted between the two steps of a call is called all the same. -/
example : (run (halStep 0) (halStart true true 0 true 0)
    [.setUlpProxy none 7, .call .start, .client, .msgTask .success,
      .client]).state.dangling = true := by
  decide

end G2Common.Eng
