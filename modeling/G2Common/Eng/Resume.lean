import G2Common.Eng.Session

/-!
Resuming a session after a restart of the modem. `setInSession(false)` makes the
mode of the stored criteria invalid, and the restart calls it before it starts
again; the other fields survive.
-/

namespace G2Common.Eng

open Transition

def Call.fix : Call → Option LocPosMode
  | .startFix mode => some mode
  | _ => none

/-- The calls of `mLocApi->startFix`. -/
def startFixes (calls : List Call) : List LocPosMode :=
  calls.filterMap Call.fix

def Msg.isPositionMode : Msg → Bool
  | .positionMode _ => true
  | _ => false

/-- What is left of criteria in every session: all fields but the mode. -/
def LocPosMode.withoutMode (m : LocPosMode) : LocPosMode :=
  { m with mode := LOC_POSITION_MODE_INVALID }

/-- Engine up starts again with these criteria and, where that succeeds, is in
session with them. -/
structure Resumes (s : LocEngData) (m : LocPosMode) (ret : LocApiAdapterErr) : Prop where
  started : startFixes (s.handleEngineUp ret).2 = [m]
  inSession : ret = .success → (s.handleEngineUp ret).1.adapter.mNavigating = true ∧
    (s.handleEngineUp ret).1.adapter.mFixCriteria = m

theorem startFixes_append (first second : List Call) :
    startFixes (first ++ second) = startFixes first ++ startFixes second :=
  List.filterMap_append

namespace LocEngData

theorem withoutMode_setInSession (adapter : LocEngAdapter) (inSession : Bool) :
    (adapter.setInSession inSession).mFixCriteria.withoutMode =
      adapter.mFixCriteria.withoutMode := by
  cases inSession with
  | true => rfl
  | false => rfl

theorem withoutMode_startHandler (s : LocEngData) (ret : LocApiAdapterErr) :
    (s.startHandler ret).1.adapter.mFixCriteria.withoutMode =
      s.adapter.mFixCriteria.withoutMode := by
  unfold startHandler
  split
  · rfl
  · split
    · exact withoutMode_setInSession s.adapter true
    · rfl

theorem withoutMode_stopHandler (s : LocEngData) (ret : LocApiAdapterErr) :
    (s.stopHandler ret).1.adapter.mFixCriteria.withoutMode =
      s.adapter.mFixCriteria.withoutMode := by
  unfold stopHandler
  split
  · exact withoutMode_setInSession s.adapter false
  · rfl

theorem withoutMode_reportPosition (s : LocEngData) (mLocation : UlpLocation)
    (mStatus : LocSessStatus) (mTechMask : UInt32) :
    (s.reportPosition mLocation mStatus mTechMask).1.adapter.mFixCriteria.withoutMode =
      s.adapter.mFixCriteria.withoutMode := by
  unfold reportPosition
  split
  · dsimp only
    split
    · exact withoutMode_setInSession s.adapter false
    · rfl
  · rfl

theorem adapter_updateAidingDataForDeletion (s : LocEngData) :
    s.updateAidingDataForDeletion.1.adapter = s.adapter := by
  unfold updateAidingDataForDeletion
  split <;> rfl

theorem withoutMode_handleEngineUp (s : LocEngData) (ret : LocApiAdapterErr) :
    (s.handleEngineUp ret).1.adapter.mFixCriteria.withoutMode =
      s.adapter.mFixCriteria.withoutMode := by
  unfold handleEngineUp
  dsimp only
  split
  · rw [withoutMode_startHandler]
    exact withoutMode_setInSession _ false
  · rfl

/-- Only `LocEngPositionMode` changes more than the mode. -/
theorem withoutMode_proc (s : LocEngData) {msg : Msg} (hmsg : msg.isPositionMode = false) :
    (proc s msg).1.adapter.mFixCriteria.withoutMode = s.adapter.mFixCriteria.withoutMode := by
  cases msg with
  | positionMode mPosMode => cases hmsg
  | startFix ret => exact withoutMode_startHandler s ret
  | stopFix ret => exact withoutMode_stopHandler s ret
  | reportPosition mLocation mStatus mTechMask =>
      exact withoutMode_reportPosition s mLocation mStatus mTechMask
  | reportStatus mStatus =>
      change (LocEngData.updateAidingDataForDeletion
        (s.reportStatus mStatus).1).1.adapter.mFixCriteria.withoutMode = _
      rw [adapter_updateAidingDataForDeletion]
      rfl
  | delAidData mType =>
      change ({ s with aidingDataForDeletion := mType }.updateAidingDataForDeletion
        ).1.adapter.mFixCriteria.withoutMode = _
      rw [adapter_updateAidingDataForDeletion]
  | muteOneSession => rfl
  | engineDown => rfl
  | engineUp ret => exact withoutMode_handleEngineUp s ret

theorem startFixes_of_status {calls : List Call} {status : UInt16}
    (hcalls : ∀ call ∈ calls, call = .statusCb status) : startFixes calls = [] := by
  apply List.filterMap_eq_nil_iff.mpr
  intro call hmem
  rw [hcalls call hmem]
  rfl

/-- A start out of session calls `startFix` once, with the stored criteria. -/
theorem startHandler_spec {s : LocEngData} (hno : s.adapter.mNavigating = false)
    (ret : LocApiAdapterErr) :
    startFixes (s.startHandler ret).2 = [s.adapter.mFixCriteria] ∧
      (s.startHandler ret).1.adapter.mFixCriteria = s.adapter.mFixCriteria ∧
      (ret = .success → (s.startHandler ret).1.adapter.mNavigating = true) := by
  unfold startHandler
  rw [if_neg (by simp [hno])]
  split
  · refine ⟨?_, rfl, fun _ => rfl⟩
    rw [startFixes_append, startFixes_of_status fun _ hmem => calls_informGpsStatus hmem]
    rfl
  · next hfailed =>
      refine ⟨rfl, rfl, ?_⟩
      intro hret
      exact absurd (.inl hret) hfailed

/-- In session, engine up starts again with the criteria but no mode. -/
theorem handleEngineUp_spec {s : LocEngData} (hsession : s.adapter.mNavigating = true)
    (ret : LocApiAdapterErr) :
    startFixes (s.handleEngineUp ret).2 = [s.adapter.mFixCriteria.withoutMode] ∧
      (s.handleEngineUp ret).1.adapter.mFixCriteria = s.adapter.mFixCriteria.withoutMode ∧
      (ret = .success → (s.handleEngineUp ret).1.adapter.mNavigating = true) := by
  have hstatus : (s.reportStatus GPS_STATUS_ENGINE_ON).1.adapter = s.adapter := rfl
  unfold handleEngineUp
  dsimp only
  rw [if_pos (hstatus ▸ hsession), hstatus]
  obtain ⟨hstarted, hcriteria, hnavigating⟩ := startHandler_spec
    (s := { (s.reportStatus GPS_STATUS_ENGINE_ON).1 with
      adapter := (s.adapter.setPositionMode none).1.setInSession false }) rfl ret
  refine ⟨?_, hcriteria, hnavigating⟩
  rw [startFixes_append, startFixes_append, hstarted,
    startFixes_of_status fun _ hmem => calls_reportStatus hmem]
  rfl

end LocEngData

theorem withoutMode_run {t : Engine} {msgs : List Msg}
    (hmsgs : ∀ msg ∈ msgs, msg.isPositionMode = false) :
    (run step t msgs).state.adapter.mFixCriteria.withoutMode =
      t.state.adapter.mFixCriteria.withoutMode := by
  induction msgs generalizing t with
  | nil => rfl
  | cons msg rest ih =>
      have hrest := ih (t := step t msg)
        (fun other hother => hmsgs other (List.mem_cons_of_mem _ hother))
      exact hrest.trans (LocEngData.withoutMode_proc t.state (hmsgs msg List.mem_cons_self))

/-- After any run, a session whose criteria were last set to `m` is resumed with
`m` if and only if `m` has the invalid mode. -/
theorem session_resumed_iff (t : Engine) (m : LocPosMode) (after : List Msg)
    (hlast : ∀ msg ∈ after, msg.isPositionMode = false)
    (hsession : (run step t (.positionMode m :: after)).state.adapter.mNavigating = true)
    (ret : LocApiAdapterErr) :
    Resumes (run step t (.positionMode m :: after)).state m ret ↔
      m.mode = LOC_POSITION_MODE_INVALID := by
  obtain ⟨hstarted, hcriteria, hnavigating⟩ := LocEngData.handleEngineUp_spec hsession ret
  have hleft : (run step t (.positionMode m :: after)).state.adapter.mFixCriteria.withoutMode =
      m.withoutMode := withoutMode_run (t := step t (.positionMode m)) hlast
  rw [hleft] at hstarted hcriteria
  constructor
  · intro hresumes
    have hsame : m.withoutMode = m := by
      simpa using hstarted.symm.trans hresumes.started
    rw [← hsame]
    rfl
  · intro hmode
    have hsame : m.withoutMode = m := by
      unfold LocPosMode.withoutMode
      rw [← hmode]
    rw [hsame] at hstarted hcriteria
    exact ⟨hstarted, fun hret => ⟨hnavigating hret, hcriteria⟩⟩

/-- Criteria that come with the invalid mode. -/
theorem session_resumed_invalid :
    Resumes (run step (start true true 0 false 0)
      (.positionMode .invalid :: [.startFix .success])).state .invalid .success :=
  (session_resumed_iff _ _ _ (by decide) (by decide) .success).mpr rfl

/-- A standalone session is started again without its mode. -/
theorem session_mode_lost :
    ¬∀ (t : Engine) (m : LocPosMode) (after : List Msg),
      (∀ msg ∈ after, msg.isPositionMode = false) →
      (run step t (.positionMode m :: after)).state.adapter.mNavigating = true →
      ∀ ret, Resumes (run step t (.positionMode m :: after)).state m ret := by
  intro hall
  have hresumes := hall (start true true 0 false 0) { LocPosMode.invalid with mode := 0 }
    [.startFix .success] (by decide) (by decide) .success
  have hstarted := hresumes.started
  revert hstarted
  decide

end G2Common.Eng
