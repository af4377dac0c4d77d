import G2Common.Transition

/-!
The fix session of the location engine: the part of `loc_eng_data_s_type` and of
`LocEngAdapter` that the messages about it read and write, and the messages, one
definition for each handler. They are processed one at a time on one thread. A
handler returns the new state and the calls it made.
-/

namespace G2Common.Eng

open Transition

/-- The values of `GpsStatusValue`. -/
def GPS_STATUS_NONE : UInt16 := 0

def GPS_STATUS_SESSION_BEGIN : UInt16 := 1

def GPS_STATUS_SESSION_END : UInt16 := 2

def GPS_STATUS_ENGINE_ON : UInt16 := 3

def GPS_STATUS_ENGINE_OFF : UInt16 := 4

def GPS_POSITION_RECURRENCE_SINGLE : UInt32 := 1

def GPS_LOCATION_HAS_ACCURACY : UInt16 := 0x10

def ULP_LOCATION_IS_FROM_GNSS : UInt16 := 1

def LOC_POS_TECH_MASK_SATELLITE : UInt32 := 0x1

def LOC_POS_TECH_MASK_SENSORS : UInt32 := 0x8

def LOC_POS_TECH_MASK_HYBRID : UInt32 := 0x80

/-- `LocPositionMode` -/
def LOC_POSITION_MODE_INVALID : Int := -1

/-- `enum loc_api_adapter_err`, where `ENGINE_DOWN` is `PHONE_OFFLINE`. -/
inductive LocApiAdapterErr where
  | success | generalFailure | unsupported | invalidHandle | invalidParameter | engineBusy
  | phoneOffline | timeout | serviceNotPresent | internal | failure | unknown
  deriving DecidableEq, Repr

/-- `enum loc_sess_status` -/
inductive LocSessStatus where
  | success | intermediate | failure
  deriving DecidableEq, Repr

/-- `loc_mute_session_e_type` -/
inductive LocMuteSession where
  | none | wait | inSession
  deriving DecidableEq, Repr

structure LocPosMode where
  mode : Int
  recurrence : UInt32
  minInterval : UInt32
  preferredAccuracy : UInt32
  preferredTime : UInt32
  credentials : Vector UInt8 14
  provider : Vector UInt8 8
  deriving DecidableEq, Repr

/-- `inaccurate` is the comparison of the accuracy with `gps_conf.ACCURACY_THRES`,
which is on floats; `rawData` names the buffer. -/
structure UlpLocation where
  flags : UInt16
  inaccurate : Bool
  positionSource : UInt16
  rawData : Option Nat
  deriving DecidableEq, Repr

structure LocEngAdapter where
  mFixCriteria : LocPosMode
  mNavigating : Bool
  deriving DecidableEq, Repr

/-- The callbacks are there or not; `accuracyThres` is `gps_conf.ACCURACY_THRES`. -/
structure LocEngData where
  adapter : LocEngAdapter
  locationCb : Bool
  statusCb : Bool
  intermediateFix : UInt8
  generateNmea : Bool
  accuracyThres : UInt32
  engineStatus : UInt16
  fixSessionStatus : UInt16
  aidingDataForDeletion : UInt16
  muteSessionState : LocMuteSession
  deriving DecidableEq, Repr

/-- The calls into the modem interface `mLocApi` and the callbacks. -/
inductive Call where
  | startFix (mode : LocPosMode)
  | stopFix
  | setPositionMode (mode : LocPosMode)
  | deleteAidingData (mask : UInt16)
  | statusCb (status : UInt16)
  | locationCb (fix : Bool)
  | nmeaGeneratePos (generate : Bool)
  | deleteRawData (rawData : Nat)
  deriving DecidableEq, Repr

namespace LocEngAdapter

def setPositionMode (adapter : LocEngAdapter) (posMode : Option LocPosMode) :
    LocEngAdapter × List Call :=
  let mFixCriteria := posMode.getD adapter.mFixCriteria
  ({ adapter with mFixCriteria := mFixCriteria }, [.setPositionMode mFixCriteria])

def setInSession (adapter : LocEngAdapter) (inSession : Bool) : LocEngAdapter :=
  let adapter := { adapter with mNavigating := inSession }
  if adapter.mNavigating then adapter
  else
    { adapter with
      mFixCriteria := { adapter.mFixCriteria with mode := LOC_POSITION_MODE_INVALID } }

def startFix (adapter : LocEngAdapter) : List Call := [.startFix adapter.mFixCriteria]

end LocEngAdapter

namespace LocEngData

def informGpsStatus (s : LocEngData) (status : UInt16) : List Call :=
  if s.statusCb then [.statusCb status] else []

def updateAidingDataForDeletion (s : LocEngData) : LocEngData × List Call :=
  if s.engineStatus ≠ GPS_STATUS_ENGINE_ON ∧ s.aidingDataForDeletion ≠ 0 then
    ({ s with aidingDataForDeletion := 0 }, [.deleteAidingData s.aidingDataForDeletion])
  else
    (s, [])

/-- How `loc_eng_report_status` switches the muting on and off. -/
def muteOnStatus (s : LocEngData) (status : UInt16) : LocMuteSession :=
  let muteSessionState :=
    if status = GPS_STATUS_SESSION_BEGIN ∨ status = GPS_STATUS_ENGINE_ON then
      if s.muteSessionState = .wait then .inSession else s.muteSessionState
    else s.muteSessionState
  if muteSessionState = .inSession ∧
      (status = GPS_STATUS_SESSION_END ∨ status = GPS_STATUS_ENGINE_OFF) then
    .none
  else muteSessionState

/-- `loc_eng_report_status`. The status is informed after the muting is switched
and before it is kept. -/
def reportStatus (s : LocEngData) (status : UInt16) : LocEngData × List Call :=
  let s := { s with muteSessionState := s.muteOnStatus status }
  let navigating := s.adapter.mNavigating
  let calls :=
    if status ≠ GPS_STATUS_NONE ∧ ¬(status = GPS_STATUS_SESSION_END ∧ navigating) ∧
        ¬(status = GPS_STATUS_SESSION_BEGIN ∧ !navigating) then
      if s.muteSessionState ≠ .inSession then s.informGpsStatus status else []
    else []
  ({ s with
      engineStatus :=
        if status = GPS_STATUS_ENGINE_ON ∨ status = GPS_STATUS_ENGINE_OFF then status
        else s.engineStatus
      fixSessionStatus :=
        if status = GPS_STATUS_SESSION_BEGIN ∨ status = GPS_STATUS_SESSION_END then status
        else s.fixSessionStatus },
    calls)

/-- `loc_eng_start_handler`, where `ret` is what `mLocApi` returns. -/
def startHandler (s : LocEngData) (ret : LocApiAdapterErr) : LocEngData × List Call :=
  if s.adapter.mNavigating then (s, [])
  else if ret = .success ∨ ret = .phoneOffline ∨ ret = .internal then
    ({ s with adapter := s.adapter.setInSession true },
      s.adapter.startFix ++ s.informGpsStatus GPS_STATUS_SESSION_BEGIN)
  else
    (s, s.adapter.startFix)

/-- `loc_eng_stop_handler` -/
def stopHandler (s : LocEngData) (ret : LocApiAdapterErr) : LocEngData × List Call :=
  if s.adapter.mNavigating then
    ({ s with adapter := s.adapter.setInSession false },
      .stopFix :: if ret = .success then s.informGpsStatus GPS_STATUS_SESSION_END else [])
  else
    (s, [])

/-- `LocEngPositionMode::proc` -/
def positionMode (s : LocEngData) (mPosMode : LocPosMode) : LocEngData × List Call :=
  let (adapter, calls) := s.adapter.setPositionMode (some mPosMode)
  ({ s with adapter := adapter }, calls)

/-- `LocEngReportStatus::proc` -/
def reportStatusProc (s : LocEngData) (mStatus : UInt16) : LocEngData × List Call :=
  let (s, calls) := s.reportStatus mStatus
  let (s, more) := s.updateAidingDataForDeletion
  (s, calls ++ more)

/-- `LocEngDelAidData::proc` -/
def delAidData (s : LocEngData) (mType : UInt16) : LocEngData × List Call :=
  { s with aidingDataForDeletion := mType }.updateAidingDataForDeletion

/-- The fix that `LocEngReportPosition::proc` reports: a failure, a final fix of
one of three technologies, or, where intermediate fixes are accepted, one that
is not too inaccurate. -/
def reportsFix (s : LocEngData) (mLocation : UlpLocation) (mStatus : LocSessStatus)
    (mTechMask : UInt32) : Option Bool :=
  if s.locationCb then
    if mStatus = .failure then some false
    else if
        (mStatus = .success ∧
          (LOC_POS_TECH_MASK_SATELLITE ||| LOC_POS_TECH_MASK_SENSORS |||
            LOC_POS_TECH_MASK_HYBRID) &&& mTechMask ≠ 0) ∨
        (s.intermediateFix = 1 ∧
          ¬(mLocation.flags &&& GPS_LOCATION_HAS_ACCURACY ≠ 0 ∧ s.accuracyThres ≠ 0 ∧
            mLocation.inaccurate)) then
      some true
    else none
  else none

/-- `LocEngReportPosition::proc`. Everything it does depends on the session not
being muted, with the release of `rawData`. -/
def reportPosition (s : LocEngData) (mLocation : UlpLocation) (mStatus : LocSessStatus)
    (mTechMask : UInt32) : LocEngData × List Call :=
  if s.muteSessionState ≠ .inSession then
    let fix := s.reportsFix mLocation mStatus mTechMask
    let single :=
      fix.isSome && s.adapter.mFixCriteria.recurrence = GPS_POSITION_RECURRENCE_SINGLE
    let nmea :=
      s.generateNmea && mLocation.positionSource = ULP_LOCATION_IS_FROM_GNSS &&
        (LOC_POS_TECH_MASK_SATELLITE ||| LOC_POS_TECH_MASK_SENSORS |||
          LOC_POS_TECH_MASK_HYBRID) &&& mTechMask ≠ 0
    (if single then { s with adapter := s.adapter.setInSession false } else s,
      fix.toList.map .locationCb ++
      (if single && mStatus = .intermediate then [.stopFix] else []) ++
      (if nmea then [.nmeaGeneratePos (fix.isSome && mStatus ≠ .failure)] else []) ++
      mLocation.rawData.toList.map .deleteRawData)
  else
    (s, [])

/-- `loc_eng_mute_one_session` -/
def muteOneSession (s : LocEngData) : LocEngData :=
  { s with muteSessionState := .wait }

/-- `loc_eng_handle_engine_down`, of which the reset of the requests is in the
model of the sessions of `loc_eng_ni`. -/
def handleEngineDown (s : LocEngData) : LocEngData × List Call :=
  s.reportStatus GPS_STATUS_ENGINE_OFF

/-- The part of `loc_eng_handle_engine_up` that is about the session. -/
def handleEngineUp (s : LocEngData) (ret : LocApiAdapterErr) : LocEngData × List Call :=
  let (s, status) := s.reportStatus GPS_STATUS_ENGINE_ON
  if s.adapter.mNavigating then
    -- This sets the copy in adapter to modem
    let (adapter, mode) := s.adapter.setPositionMode none
    let s := { s with adapter := adapter.setInSession false }
    let (s, start) := s.startHandler ret
    (s, status ++ mode ++ start)
  else
    (s, status)

end LocEngData

/-- The messages and the events. `ret` is what the modem returns to the call that
the handler makes. -/
inductive Msg where
  | positionMode (mPosMode : LocPosMode)
  | startFix (ret : LocApiAdapterErr)
  | stopFix (ret : LocApiAdapterErr)
  | reportPosition (mLocation : UlpLocation) (mStatus : LocSessStatus) (mTechMask : UInt32)
  | reportStatus (mStatus : UInt16)
  | delAidData (mType : UInt16)
  | muteOneSession
  | engineDown
  | engineUp (ret : LocApiAdapterErr)
  deriving DecidableEq, Repr

def proc (s : LocEngData) : Msg → LocEngData × List Call
  | .positionMode mPosMode => s.positionMode mPosMode
  | .startFix ret => s.startHandler ret
  | .stopFix ret => s.stopHandler ret
  | .reportPosition mLocation mStatus mTechMask => s.reportPosition mLocation mStatus mTechMask
  | .reportStatus mStatus => s.reportStatusProc mStatus
  | .delAidData mType => s.delAidData mType
  | .muteOneSession => (s.muteOneSession, [])
  | .engineDown => s.handleEngineDown
  | .engineUp ret => s.handleEngineUp ret

/-- The calls that a message can make. -/
inductive Makes : Msg → Call → Prop where
  | statusCb (msg status) : Makes msg (.statusCb status)
  | positionMode (m) : Makes (.positionMode m) (.setPositionMode m)
  | startFix (ret m) : Makes (.startFix ret) (.startFix m)
  | stopFix (ret) : Makes (.stopFix ret) .stopFix
  | locationCb (mLocation mStatus mTechMask fix) :
      Makes (.reportPosition mLocation mStatus mTechMask) (.locationCb fix)
  | singleShot (mLocation mStatus mTechMask) :
      Makes (.reportPosition mLocation mStatus mTechMask) .stopFix
  | nmea (mLocation mStatus mTechMask generate) :
      Makes (.reportPosition mLocation mStatus mTechMask) (.nmeaGeneratePos generate)
  | rawData (mLocation mStatus mTechMask rawData) (h : mLocation.rawData = some rawData) :
      Makes (.reportPosition mLocation mStatus mTechMask) (.deleteRawData rawData)
  | reportStatus (mStatus mask) : Makes (.reportStatus mStatus) (.deleteAidingData mask)
  | delAidData (mType mask) : Makes (.delAidData mType) (.deleteAidingData mask)
  | resumeMode (ret m) : Makes (.engineUp ret) (.setPositionMode m)
  | resume (ret m) : Makes (.engineUp ret) (.startFix m)

namespace LocEngData

theorem calls_informGpsStatus {s : LocEngData} {status : UInt16} {call : Call}
    (hmem : call ∈ s.informGpsStatus status) : call = .statusCb status := by
  unfold informGpsStatus at hmem
  split at hmem
  · exact List.mem_singleton.mp hmem
  · cases hmem

theorem calls_reportStatus {s : LocEngData} {status : UInt16} {call : Call}
    (hmem : call ∈ (s.reportStatus status).2) : call = .statusCb status := by
  unfold reportStatus at hmem
  dsimp only at hmem
  split at hmem
  · split at hmem
    · exact calls_informGpsStatus hmem
    · cases hmem
  · cases hmem

theorem calls_startHandler {s : LocEngData} {ret : LocApiAdapterErr} {call : Call}
    (hmem : call ∈ (s.startHandler ret).2) :
    call = .startFix s.adapter.mFixCriteria ∨ call = .statusCb GPS_STATUS_SESSION_BEGIN := by
  unfold startHandler at hmem
  split at hmem
  · cases hmem
  · split at hmem
    · rcases List.mem_append.mp hmem with hmem | hmem
      · exact .inl (List.mem_singleton.mp hmem)
      · exact .inr (calls_informGpsStatus hmem)
    · exact .inl (List.mem_singleton.mp hmem)

theorem calls_updateAidingDataForDeletion {s : LocEngData} {call : Call}
    (hmem : call ∈ s.updateAidingDataForDeletion.2) :
    call = .deleteAidingData s.aidingDataForDeletion := by
  unfold updateAidingDataForDeletion at hmem
  split at hmem
  · exact List.mem_singleton.mp hmem
  · cases hmem

theorem makes_reportPosition {s : LocEngData} {mLocation : UlpLocation}
    {mStatus : LocSessStatus} {mTechMask : UInt32} {call : Call}
    (hmem : call ∈ (s.reportPosition mLocation mStatus mTechMask).2) :
    Makes (.reportPosition mLocation mStatus mTechMask) call := by
  unfold reportPosition at hmem
  split at hmem
  · simp only [List.append_assoc, List.mem_append, List.mem_map, Option.mem_toList] at hmem
    rcases hmem with ⟨fix, -, rfl⟩ | hmem | hmem | ⟨rawData, hrawData, rfl⟩
    · exact .locationCb _ _ _ fix
    · split at hmem
      · obtain rfl := List.mem_singleton.mp hmem
        exact .singleShot _ _ _
      · cases hmem
    · split at hmem
      · obtain rfl := List.mem_singleton.mp hmem
        exact .nmea _ _ _ _
      · cases hmem
    · exact .rawData _ _ _ rawData hrawData
  · cases hmem

theorem makes_handleEngineUp {s : LocEngData} {ret : LocApiAdapterErr} {call : Call}
    (hmem : call ∈ (s.handleEngineUp ret).2) : Makes (.engineUp ret) call := by
  unfold handleEngineUp at hmem
  dsimp only at hmem
  split at hmem
  · rcases List.mem_append.mp hmem with hmem | hmem
    · rcases List.mem_append.mp hmem with hmem | hmem
      · obtain rfl := calls_reportStatus hmem
        exact .statusCb _ _
      · obtain rfl := List.mem_singleton.mp hmem
        exact .resumeMode _ _
    · rcases calls_startHandler hmem with rfl | rfl
      · exact .resume _ _
      · exact .statusCb _ _
  · obtain rfl := calls_reportStatus hmem
    exact .statusCb _ _

end LocEngData

theorem makes_proc {s : LocEngData} {msg : Msg} {call : Call} (hmem : call ∈ (proc s msg).2) :
    Makes msg call := by
  cases msg with
  | positionMode mPosMode =>
      obtain rfl := List.mem_singleton.mp hmem
      exact .positionMode _
  | startFix ret =>
      rcases LocEngData.calls_startHandler hmem with rfl | rfl
      · exact .startFix _ _
      · exact .statusCb _ _
  | stopFix ret =>
      change call ∈ (s.stopHandler ret).2 at hmem
      unfold LocEngData.stopHandler at hmem
      split at hmem
      · rcases List.mem_cons.mp hmem with rfl | hmem
        · exact .stopFix _
        · split at hmem
          · obtain rfl := LocEngData.calls_informGpsStatus hmem
            exact .statusCb _ _
          · cases hmem
      · cases hmem
  | reportPosition mLocation mStatus mTechMask => exact LocEngData.makes_reportPosition hmem
  | reportStatus mStatus =>
      rcases List.mem_append.mp hmem with hmem | hmem
      · obtain rfl := LocEngData.calls_reportStatus hmem
        exact .statusCb _ _
      · obtain rfl := LocEngData.calls_updateAidingDataForDeletion hmem
        exact .reportStatus _ _
  | delAidData mType =>
      obtain rfl := LocEngData.calls_updateAidingDataForDeletion hmem
      exact .delAidData _ _
  | muteOneSession => cases hmem
  | engineDown =>
      obtain rfl := LocEngData.calls_reportStatus hmem
      exact .statusCb _ _
  | engineUp ret => exact LocEngData.makes_handleEngineUp hmem

/-- The criteria of a new adapter, on memory that was set to zero. -/
def LocPosMode.invalid : LocPosMode where
  mode := LOC_POSITION_MODE_INVALID
  recurrence := 0
  minInterval := 0
  preferredAccuracy := 0
  preferredTime := 0
  credentials := Vector.replicate 14 0
  provider := Vector.replicate 8 0

/-- After `loc_eng_init` with these callbacks and settings. -/
def LocEngData.init (locationCb statusCb : Bool) (intermediateFix : UInt8) (generateNmea : Bool)
    (accuracyThres : UInt32) : LocEngData where
  adapter := ⟨.invalid, false⟩
  locationCb := locationCb
  statusCb := statusCb
  intermediateFix := intermediateFix
  generateNmea := generateNmea
  accuracyThres := accuracyThres
  engineStatus := GPS_STATUS_NONE
  fixSessionStatus := GPS_STATUS_NONE
  aidingDataForDeletion := 0
  muteSessionState := .none

/-- The message thread with the calls that it made. -/
abbrev Engine := Traced LocEngData Call

def step : Engine → Msg → Engine :=
  Traced.step proc

def start (locationCb statusCb : Bool) (intermediateFix : UInt8) (generateNmea : Bool)
    (accuracyThres : UInt32) : Engine :=
  ⟨.init locationCb statusCb intermediateFix generateNmea accuracyThres, []⟩

end G2Common.Eng
