import G2Common.Eng.Session

/-!
Deletion of aiding data. A request is kept while the engine is on and passed to
the modem later. The masks that were requested are compared with those that were
passed, bit by bit, as one mask each.
-/

namespace G2Common.Eng

open Transition

/-- The bits of all masks. -/
def orAll (masks : List UInt16) : UInt16 :=
  masks.foldr (· ||| ·) 0

def Msg.mask : Msg → Option UInt16
  | .delAidData mType => some mType
  | _ => none

def Call.mask : Call → Option UInt16
  | .deleteAidingData mask => some mask
  | _ => none

/-- What `LocEngDelAidData` messages asked for. -/
def requested (msgs : List Msg) : UInt16 :=
  orAll (msgs.filterMap Msg.mask)

/-- What was passed to `adapter->deleteAidingData`. -/
def passed (calls : List Call) : UInt16 :=
  orAll (calls.filterMap Call.mask)

/-- While the engine is on, a new request contains the one that is pending; and
no request is pending when the engine goes down. -/
def aidingGuard (s : LocEngData) : Msg → Prop
  | .delAidData mType =>
      s.engineStatus = GPS_STATUS_ENGINE_ON → s.aidingDataForDeletion ||| mType = mType
  | .engineDown => s.aidingDataForDeletion = 0
  | _ => True

instance aidingGuard.decidable (s : LocEngData) : ∀ msg, Decidable (aidingGuard s msg)
  | .positionMode _ => isTrue trivial
  | .startFix _ => isTrue trivial
  | .stopFix _ => isTrue trivial
  | .reportPosition _ _ _ => isTrue trivial
  | .reportStatus _ => isTrue trivial
  | .delAidData _ => inferInstanceAs (Decidable (_ → _))
  | .muteOneSession => isTrue trivial
  | .engineDown => inferInstanceAs (Decidable (_ = _))
  | .engineUp _ => isTrue trivial

theorem orAll_append (first second : List UInt16) :
    orAll (first ++ second) = orAll first ||| orAll second := by
  induction first with
  | nil => simp [orAll]
  | cons mask rest ih =>
      simp only [orAll, List.cons_append, List.foldr_cons] at ih ⊢
      rw [ih, UInt16.or_assoc]

theorem requested_append (first second : List Msg) :
    requested (first ++ second) = requested first ||| requested second := by
  rw [requested, List.filterMap_append, orAll_append]
  rfl

theorem passed_append (first second : List Call) :
    passed (first ++ second) = passed first ||| passed second := by
  rw [passed, List.filterMap_append, orAll_append]
  rfl

/-- Calls that pass no mask. -/
theorem passed_eq_zero {calls : List Call} (h : ∀ call ∈ calls, call.mask = none) :
    passed calls = 0 := by
  rw [passed, List.filterMap_eq_nil_iff.mpr h]
  rfl

namespace LocEngData

/-- No request is pending while the engine is not on. -/
def Settled (s : LocEngData) : Prop :=
  s.engineStatus ≠ GPS_STATUS_ENGINE_ON → s.aidingDataForDeletion = 0

/-- What was pending is passed, or it stays pending because the engine is on. -/
theorem updateAidingData_conserves (s : LocEngData) :
    passed s.updateAidingDataForDeletion.2 |||
        s.updateAidingDataForDeletion.1.aidingDataForDeletion = s.aidingDataForDeletion ∧
      s.updateAidingDataForDeletion.1.Settled ∧
      s.updateAidingDataForDeletion.1.engineStatus = s.engineStatus := by
  unfold updateAidingDataForDeletion
  split
  · refine ⟨?_, fun _ => rfl, rfl⟩
    simp [passed, Call.mask, orAll]
  · next hno =>
      refine ⟨?_, ?_, rfl⟩
      · simp [passed, orAll]
      · intro hoff
        rw [Decidable.not_and_iff_not_or_not] at hno
        rcases hno with hon | hzero
        · exact absurd hoff hon
        · simpa using hzero

/-- The messages that request or pass masks. -/
def touches : Msg → Bool
  | .reportStatus _ => true
  | .delAidData _ => true
  | .engineDown => true
  | _ => false

theorem aidingData_startHandler (s : LocEngData) (ret : LocApiAdapterErr) :
    (s.startHandler ret).1.aidingDataForDeletion = s.aidingDataForDeletion ∧
      (s.startHandler ret).1.engineStatus = s.engineStatus := by
  unfold startHandler
  split
  · exact ⟨rfl, rfl⟩
  · split <;> exact ⟨rfl, rfl⟩

/-- The pending mask stays, and the engine is as before or on. -/
theorem aidingData_of_not_touches (s : LocEngData) {msg : Msg} (hmsg : touches msg = false) :
    (proc s msg).1.aidingDataForDeletion = s.aidingDataForDeletion ∧
      ((proc s msg).1.engineStatus = s.engineStatus ∨
        (proc s msg).1.engineStatus = GPS_STATUS_ENGINE_ON) := by
  cases msg with
  | positionMode mPosMode => exact ⟨rfl, .inl rfl⟩
  | startFix ret =>
      obtain ⟨haiding, hengine⟩ := aidingData_startHandler s ret
      exact ⟨haiding, .inl hengine⟩
  | stopFix ret =>
      change (s.stopHandler ret).1.aidingDataForDeletion = _ ∧
        ((s.stopHandler ret).1.engineStatus = _ ∨ _)
      unfold stopHandler
      split <;> exact ⟨rfl, .inl rfl⟩
  | reportPosition mLocation mStatus mTechMask =>
      change (s.reportPosition mLocation mStatus mTechMask).1.aidingDataForDeletion = _ ∧
        ((s.reportPosition mLocation mStatus mTechMask).1.engineStatus = _ ∨ _)
      unfold reportPosition
      split
      · dsimp only
        split <;> exact ⟨rfl, .inl rfl⟩
      · exact ⟨rfl, .inl rfl⟩
  | reportStatus mStatus => cases hmsg
  | delAidData mType => cases hmsg
  | engineDown => cases hmsg
  | muteOneSession => exact ⟨rfl, .inl rfl⟩
  | engineUp ret =>
      change (s.handleEngineUp ret).1.aidingDataForDeletion = _ ∧
        (_ ∨ (s.handleEngineUp ret).1.engineStatus = _)
      unfold handleEngineUp
      dsimp only
      split
      · obtain ⟨haiding, hengine⟩ := aidingData_startHandler
          { (s.reportStatus GPS_STATUS_ENGINE_ON).1 with
            adapter := ((s.reportStatus GPS_STATUS_ENGINE_ON).1.adapter.setPositionMode
              none).1.setInSession false } ret
        exact ⟨haiding, .inr hengine⟩
      · exact ⟨rfl, .inr rfl⟩

theorem mask_of_not_touches {s : LocEngData} {msg : Msg} (hmsg : touches msg = false)
    {call : Call} (hmem : call ∈ (proc s msg).2) : call.mask = none := by
  cases makes_proc hmem with
  | reportStatus _ _ => cases hmsg
  | delAidData _ _ => cases hmsg
  | _ => rfl

theorem mask_reportStatus {s : LocEngData} {status : UInt16} {call : Call}
    (hmem : call ∈ (s.reportStatus status).2) : call.mask = none := by
  rw [calls_reportStatus hmem]
  rfl

theorem conserves_of_not_touches {s : LocEngData} (hs : s.Settled) {msg : Msg}
    (hmsg : touches msg = false) :
    passed (proc s msg).2 ||| (proc s msg).1.aidingDataForDeletion =
        s.aidingDataForDeletion ||| requested [msg] ∧ (proc s msg).1.Settled := by
  obtain ⟨haiding, hengine⟩ := aidingData_of_not_touches s hmsg
  have hmask : msg.mask = none := by
    cases msg with
    | delAidData mType => cases hmsg
    | _ => rfl
  constructor
  · rw [passed_eq_zero (fun call hmem => mask_of_not_touches hmsg hmem), haiding]
    simp [requested, hmask, orAll]
  · intro hoff
    rw [haiding]
    rcases hengine with hsame | hon
    · exact hs (hsame ▸ hoff)
    · exact absurd hon hoff

/-- What was pending or is requested is passed or pending after the message. -/
theorem proc_conserves (s : LocEngData) (msg : Msg) (hs : s.Settled)
    (hguard : aidingGuard s msg) :
    passed (proc s msg).2 ||| (proc s msg).1.aidingDataForDeletion =
        s.aidingDataForDeletion ||| requested [msg] ∧ (proc s msg).1.Settled := by
  cases msg with
  | reportStatus mStatus =>
      obtain ⟨hpassed, hsettled, -⟩ := updateAidingData_conserves (s.reportStatus mStatus).1
      refine ⟨?_, hsettled⟩
      change passed ((s.reportStatus mStatus).2 ++ _) ||| _ = _
      rw [passed_append, passed_eq_zero (fun call hmem => mask_reportStatus hmem), UInt16.zero_or]
      exact hpassed.trans (UInt16.or_zero).symm
  | delAidData mType =>
      obtain ⟨hpassed, hsettled, -⟩ :=
        updateAidingData_conserves { s with aidingDataForDeletion := mType }
      refine ⟨hpassed.trans ?_, hsettled⟩
      change mType = s.aidingDataForDeletion ||| (mType ||| 0)
      rw [UInt16.or_zero]
      by_cases hon : s.engineStatus = GPS_STATUS_ENGINE_ON
      · exact (hguard hon).symm
      · rw [hs hon, UInt16.zero_or]
  | engineDown =>
      have hzero : s.aidingDataForDeletion = 0 := hguard
      constructor
      · change passed (s.reportStatus GPS_STATUS_ENGINE_OFF).2 ||| s.aidingDataForDeletion =
          s.aidingDataForDeletion ||| 0
        rw [passed_eq_zero (fun call hmem => mask_reportStatus hmem), UInt16.zero_or,
          UInt16.or_zero]
      · intro _
        exact hzero
  | _ => exact conserves_of_not_touches hs rfl

/-- A mask is passed last, in a state in which the engine is not on. -/
theorem engineStatus_of_deleteAidingData (s : LocEngData) (msg : Msg) {mask : UInt16}
    (hmem : .deleteAidingData mask ∈ (proc s msg).2) :
    (proc s msg).1.engineStatus ≠ GPS_STATUS_ENGINE_ON := by
  have hupdate (s : LocEngData) (hmem : .deleteAidingData mask ∈ s.updateAidingDataForDeletion.2) :
      s.updateAidingDataForDeletion.1.engineStatus ≠ GPS_STATUS_ENGINE_ON := by
    unfold updateAidingDataForDeletion at hmem ⊢
    split at hmem
    · next hoff =>
        rw [if_pos hoff]
        exact hoff.1
    · cases hmem
  cases msg with
  | delAidData mType => exact hupdate _ hmem
  | reportStatus mStatus =>
      rcases List.mem_append.mp hmem with hmem | hmem
      · cases mask_reportStatus hmem
      · exact hupdate _ hmem
  | engineDown => cases mask_reportStatus hmem
  | _ => cases mask_of_not_touches rfl hmem

end LocEngData

theorem run_conserves {t : Engine} {msgs : List Msg} (hs : t.state.Settled)
    (h : Meets step (fun t => aidingGuard t.state) t msgs) :
    passed (run step t msgs).log ||| (run step t msgs).state.aidingDataForDeletion =
        passed t.log ||| t.state.aidingDataForDeletion ||| requested msgs ∧
      (run step t msgs).state.Settled := by
  induction msgs generalizing t with
  | nil => exact ⟨UInt16.or_zero.symm, hs⟩
  | cons msg rest ih =>
      obtain ⟨hguard, hrest⟩ := h
      obtain ⟨hconserves, hsettled⟩ := LocEngData.proc_conserves t.state msg hs hguard
      obtain ⟨hrun, hfinal⟩ := ih hsettled hrest
      refine ⟨?_, hfinal⟩
      calc passed (run step t (msg :: rest)).log |||
            (run step t (msg :: rest)).state.aidingDataForDeletion
          = passed (t.log ++ (proc t.state msg).2) |||
              (proc t.state msg).1.aidingDataForDeletion ||| requested rest := hrun
        _ = passed t.log ||| (passed (proc t.state msg).2 |||
              (proc t.state msg).1.aidingDataForDeletion) ||| requested rest := by
            rw [passed_append, UInt16.or_assoc (passed t.log)]
        _ = passed t.log ||| t.state.aidingDataForDeletion ||| requested (msg :: rest) := by
            rw [hconserves, ← UInt16.or_assoc, UInt16.or_assoc, ← requested_append]
            rfl

/-- In every run whose steps meet the guard, each state with the engine not on
has all masks passed that were requested; and no mask is passed while it is
on. -/
theorem aiding_data_deleted (locationCb statusCb : Bool) (intermediateFix : UInt8)
    (generateNmea : Bool) (accuracyThres : UInt32) (msgs : List Msg)
    (h : Meets step (fun t => aidingGuard t.state)
      (start locationCb statusCb intermediateFix generateNmea accuracyThres) msgs) :
    ((run step (start locationCb statusCb intermediateFix generateNmea accuracyThres)
        msgs).state.engineStatus ≠ GPS_STATUS_ENGINE_ON →
      passed (run step (start locationCb statusCb intermediateFix generateNmea accuracyThres)
        msgs).log = requested msgs) ∧
    ∀ msg mask, .deleteAidingData mask ∈ (proc (run step
        (start locationCb statusCb intermediateFix generateNmea accuracyThres) msgs).state msg).2 →
      (proc (run step (start locationCb statusCb intermediateFix generateNmea accuracyThres)
        msgs).state msg).1.engineStatus ≠ GPS_STATUS_ENGINE_ON := by
  constructor
  · intro hoff
    have hs :
        (start locationCb statusCb intermediateFix generateNmea accuracyThres).state.Settled :=
      fun _ => rfl
    obtain ⟨hconserves, hsettled⟩ := run_conserves hs h
    rw [hsettled hoff, UInt16.or_zero] at hconserves
    rw [hconserves]
    change 0 ||| 0 ||| requested msgs = requested msgs
    rw [UInt16.zero_or, UInt16.zero_or]
  · intro msg mask hmem
    exact LocEngData.engineStatus_of_deleteAidingData _ msg hmem

/-- Two requests while the engine is on, the second one with all bits, and one
after a restart. -/
theorem aiding_data_deleted_three :
    passed (run step (start true true 0 false 0)
      [.reportStatus GPS_STATUS_ENGINE_ON, .delAidData 1, .delAidData 0xFFFF,
        .reportStatus GPS_STATUS_ENGINE_OFF, .engineUp .success, .engineDown, .delAidData 2]).log =
      requested [.reportStatus GPS_STATUS_ENGINE_ON, .delAidData 1, .delAidData 0xFFFF,
        .reportStatus GPS_STATUS_ENGINE_OFF, .engineUp .success, .engineDown, .delAidData 2] :=
  (aiding_data_deleted true true 0 false 0 _ (by decide)).1 (by decide)

/-- The second request overwrites the first one. -/
theorem aiding_data_lost :
    ¬∀ msgs, (run step (start true true 0 false 0) msgs).state.engineStatus ≠
        GPS_STATUS_ENGINE_ON →
      passed (run step (start true true 0 false 0) msgs).log = requested msgs := by
  intro hall
  have hlost := hall [.reportStatus GPS_STATUS_ENGINE_ON, .delAidData 1, .delAidData 2,
    .reportStatus GPS_STATUS_ENGINE_OFF] (by decide)
  revert hlost
  decide

end G2Common.Eng
