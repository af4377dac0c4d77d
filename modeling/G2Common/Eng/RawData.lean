import G2Common.Eng.Session
import Mathlib.Data.List.Count

/-!
The raw data of a position report. `LocApiBase::reportPosition` hands one
location to every adapter, each makes a message of it with a copy of the
pointer, and each message releases the buffer in `LocEngReportPosition::proc`
if the session of its owner is not muted then. The messages may be in the queues
of several threads, so any of them may be next.
-/

namespace G2Common.Eng

open Transition

def MAX_ADAPTERS : Nat := 10

/-- The buffer that a message has a pointer to. -/
def Msg.rawData : Msg → Option Nat
  | .reportPosition mLocation _ _ => mLocation.rawData
  | _ => none

/-- `mLocAdapters` has the owner of each adapter; a message is queued with the
owner of its adapter. -/
structure LocApi where
  locEng : Nat → LocEngData
  mLocAdapters : List Nat
  msgs : List (Nat × Msg)
  calls : List Call

namespace LocApi

/-- `LocApiBase::reportPosition`, where `mUlp->reportPosition` returns false. -/
def reportPosition (s : LocApi) (mLocation : UlpLocation) (mStatus : LocSessStatus)
    (mTechMask : UInt32) : LocApi :=
  { s with
    msgs := s.msgs ++ (s.mLocAdapters.take MAX_ADAPTERS).map
      fun owner => (owner, .reportPosition mLocation mStatus mTechMask) }

def sendMsg (s : LocApi) (owner : Nat) (msg : Msg) : LocApi :=
  { s with msgs := s.msgs ++ [(owner, msg)] }

/-- A message thread takes a message. -/
def process (s : LocApi) (index : Nat) : LocApi :=
  match s.msgs[index]? with
  | some entry =>
      let result := proc (s.locEng entry.1) entry.2
      { s with
        locEng := Function.update s.locEng entry.1 result.1
        msgs := s.msgs.eraseIdx index
        calls := s.calls ++ result.2 }
  | none => s

inductive Input where
  | reportPosition (mLocation : UlpLocation) (mStatus : LocSessStatus) (mTechMask : UInt32)
  | sendMsg (owner : Nat) (msg : Msg)
  | process (index : Nat)
  deriving DecidableEq, Repr

def step (s : LocApi) : Input → LocApi
  | .reportPosition mLocation mStatus mTechMask => s.reportPosition mLocation mStatus mTechMask
  | .sendMsg owner msg => s.sendMsg owner msg
  | .process index => s.process index

/-- The input brings this buffer in. -/
def Input.brings (rawData : Nat) : Input → Bool
  | .reportPosition mLocation _ _ => mLocation.rawData = some rawData
  | .sendMsg _ msg => msg.rawData = some rawData
  | .process _ => false

/-- The entry has a pointer to this buffer. -/
def carries (rawData : Nat) (entry : Nat × Msg) : Bool :=
  entry.2.rawData = some rawData

/-- A message with this buffer is processed. -/
def processes (rawData : Nat) (s : LocApi) : Input → Bool
  | .process index => s.msgs[index]?.any (carries rawData)
  | _ => false

/-- A message with this buffer is processed while the session of its owner is not
muted. -/
def processesUnmuted (rawData : Nat) (s : LocApi) : Input → Bool
  | .process index => s.msgs[index]?.any fun entry =>
      carries rawData entry && (s.locEng entry.1).muteSessionState ≠ .inSession
  | _ => false

theorem count_reportPosition (s : LocEngData) (mLocation : UlpLocation)
    (mStatus : LocSessStatus) (mTechMask : UInt32) (rawData : Nat) :
    (s.reportPosition mLocation mStatus mTechMask).2.count (.deleteRawData rawData) =
      if mLocation.rawData = some rawData ∧ s.muteSessionState ≠ .inSession then 1 else 0 := by
  have hfix (fix : Option Bool) :
      (fix.toList.map Call.locationCb).count (.deleteRawData rawData) = 0 := by
    rw [List.count_eq_zero]
    simp
  have hother (c : Bool) (call : Call) (hcall : call ≠ .deleteRawData rawData) :
      (if c = true then [call] else []).count (.deleteRawData rawData) = 0 := by
    cases c <;> simp [hcall]
  unfold LocEngData.reportPosition
  by_cases hmuted : s.muteSessionState = .inSession
  · simp [hmuted]
  · rw [if_pos hmuted, List.count_append, List.count_append, List.count_append, hfix,
      hother _ _ (by simp), hother _ _ (by simp)]
    by_cases hraw : mLocation.rawData = some rawData
    · simp [hraw, hmuted]
    · rw [if_neg (fun h => hraw h.1), List.count_eq_zero.mpr]
      simpa using hraw

/-- The number of times that a message releases the buffer. -/
theorem count_deleteRawData (s : LocEngData) (msg : Msg) (rawData : Nat) :
    (proc s msg).2.count (.deleteRawData rawData) =
      if msg.rawData = some rawData ∧ s.muteSessionState ≠ .inSession then 1 else 0 := by
  by_cases hreport : ∃ mLocation mStatus mTechMask,
      msg = .reportPosition mLocation mStatus mTechMask
  · obtain ⟨mLocation, mStatus, mTechMask, rfl⟩ := hreport
    exact count_reportPosition s mLocation mStatus mTechMask rawData
  · have hraw : msg.rawData = none := by
      cases msg with
      | reportPosition mLocation mStatus mTechMask => exact absurd ⟨_, _, _, rfl⟩ hreport
      | _ => rfl
    rw [if_neg (by simp [hraw]), List.count_eq_zero]
    intro hmem
    cases makes_proc hmem with
    | rawData mLocation mStatus mTechMask rawData h => exact hreport ⟨_, _, _, rfl⟩

/-- The number of times that the buffer was released. -/
def released (rawData : Nat) (s : LocApi) : Nat :=
  s.calls.count (.deleteRawData rawData)

/-- The number of messages in the queues that have a pointer to the buffer. -/
def pending (rawData : Nat) (s : LocApi) : Nat :=
  s.msgs.countP (carries rawData)

theorem countP_eraseIdx {α : Type} {p : α → Bool} {l : List α} {index : Nat} {x : α}
    (h : l[index]? = some x) : (l.eraseIdx index).countP p + (p x).toNat = l.countP p := by
  induction l generalizing index with
  | nil => simp at h
  | cons y rest ih =>
      cases index with
      | zero =>
          obtain rfl : y = x := by simpa using h
          cases hy : p y <;> simp [hy]
      | succ index =>
          have hrest := @ih index (by simpa using h)
          rw [List.eraseIdx_cons_succ, List.countP_cons, List.countP_cons]
          omega

theorem released_step (rawData : Nat) (s : LocApi) (input : Input) :
    released rawData (s.step input) =
      released rawData s + (processesUnmuted rawData s input).toNat := by
  cases input with
  | reportPosition mLocation mStatus mTechMask => rfl
  | sendMsg owner msg => rfl
  | process index =>
      change (s.process index).calls.count _ = _ + (s.msgs[index]?.any _).toNat
      unfold process released
      cases hentry : s.msgs[index]? with
      | none => rfl
      | some entry =>
          simp only [List.count_append, count_deleteRawData, Option.any_some, carries]
          by_cases hraw : entry.2.rawData = some rawData
          · by_cases hmuted : (s.locEng entry.1).muteSessionState = .inSession
            · simp [hraw, hmuted]
            · simp [hraw, hmuted]
          · simp [hraw]

theorem pending_step (rawData : Nat) (s : LocApi) (input : Input)
    (hbrings : input.brings rawData = false) :
    pending rawData (s.step input) + (processes rawData s input).toNat = pending rawData s := by
  cases input with
  | reportPosition mLocation mStatus mTechMask =>
      have hraw : mLocation.rawData ≠ some rawData := by simpa [Input.brings] using hbrings
      have hnone : ((s.mLocAdapters.take MAX_ADAPTERS).map fun owner =>
          (owner, Msg.reportPosition mLocation mStatus mTechMask)).countP
            (carries rawData) = 0 := by
        rw [List.countP_eq_zero]
        intro entry hmem
        obtain ⟨owner, -, rfl⟩ := List.mem_map.mp hmem
        simp [carries, Msg.rawData, hraw]
      change (s.msgs ++ _).countP (carries rawData) + 0 = _
      rw [List.countP_append, hnone]
      rfl
  | sendMsg owner msg =>
      have hraw : msg.rawData ≠ some rawData := by simpa [Input.brings] using hbrings
      change (s.msgs ++ [(owner, msg)]).countP (carries rawData) + 0 = _
      rw [List.countP_append]
      simp [carries, hraw, pending]
  | process index =>
      change pending rawData (s.process index) + (s.msgs[index]?.any _).toNat = _
      unfold process
      cases hentry : s.msgs[index]? with
      | none => rfl
      | some entry => exact countP_eraseIdx hentry

/-- The messages that a report queues. -/
theorem pending_reportPosition {s : LocApi} {rawData : Nat} {mLocation : UlpLocation}
    (hraw : mLocation.rawData = some rawData) (mStatus : LocSessStatus) (mTechMask : UInt32)
    (hfresh : pending rawData s = 0) :
    pending rawData (s.reportPosition mLocation mStatus mTechMask) =
      (s.mLocAdapters.take MAX_ADAPTERS).length := by
  have hfresh : s.msgs.countP (carries rawData) = 0 := hfresh
  change (s.msgs ++ _).countP (carries rawData) = _
  rw [List.countP_append, hfresh, Nat.zero_add, List.countP_eq_length.mpr]
  · exact List.length_map _
  · intro entry hmem
    obtain ⟨owner, -, rfl⟩ := List.mem_map.mp hmem
    simp [carries, Msg.rawData, hraw]

/-- A fresh buffer is reported to the adapters. Once each message with it has
been processed, as many were as there are adapters; and the buffer was released
once if and only if the session of the owner was not muted for exactly one of
them. -/
theorem rawData_freed_once_iff (s : LocApi) (rawData : Nat) (mLocation : UlpLocation)
    (mStatus : LocSessStatus) (mTechMask : UInt32) (inputs : List Input)
    (hraw : mLocation.rawData = some rawData)
    (hfresh : pending rawData s = 0 ∧ released rawData s = 0)
    (honly : ∀ input ∈ inputs, input.brings rawData = false)
    (hdone : pending rawData (run step (s.reportPosition mLocation mStatus mTechMask) inputs) = 0) :
    steps step (processes rawData) (s.reportPosition mLocation mStatus mTechMask) inputs =
        (s.mLocAdapters.take MAX_ADAPTERS).length ∧
      (released rawData (run step (s.reportPosition mLocation mStatus mTechMask) inputs) = 1 ↔
        steps step (processesUnmuted rawData) (s.reportPosition mLocation mStatus mTechMask)
          inputs = 1) := by
  have hprocessed := run_counts_down (pending_step rawData)
    (s.reportPosition mLocation mStatus mTechMask) honly
  rw [hdone, pending_reportPosition hraw mStatus mTechMask hfresh.1, Nat.zero_add] at hprocessed
  have hreleased := run_counts_up (released_step rawData)
    (s.reportPosition mLocation mStatus mTechMask) inputs
  have hbefore : released rawData (s.reportPosition mLocation mStatus mTechMask) = 0 := hfresh.2
  rw [hbefore, Nat.zero_add] at hreleased
  refine ⟨hprocessed, ?_⟩
  rw [hreleased]

/-- Two adapters, one of them with its session muted. -/
def twoAdapters (muted : Bool) : LocApi where
  locEng owner :=
    { LocEngData.init true true 0 false 0 with
      muteSessionState := if owner = 1 ∧ muted then .inSession else .none }
  mLocAdapters := [0, 1]
  msgs := []
  calls := []

theorem rawData_freed_once_muted :
    released 7 (run step ((twoAdapters true).reportPosition ⟨0, false, 1, some 7⟩ .success 1)
      [.process 0, .process 0]) = 1 :=
  (rawData_freed_once_iff (twoAdapters true) 7 ⟨0, false, 1, some 7⟩ .success 1
    [.process 0, .process 0] rfl (by decide) (by decide) (by decide)).2.mpr (by decide)

/-- With no session muted, both messages release the buffer. -/
theorem rawData_freed_twice :
    ¬∀ (s : LocApi) (rawData : Nat) (mLocation : UlpLocation) (mStatus : LocSessStatus)
      (mTechMask : UInt32) (inputs : List Input), mLocation.rawData = some rawData →
      0 < s.mLocAdapters.length → pending rawData s = 0 → released rawData s = 0 →
      (∀ input ∈ inputs, input.brings rawData = false) →
      pending rawData (run step (s.reportPosition mLocation mStatus mTechMask) inputs) = 0 →
      released rawData (run step (s.reportPosition mLocation mStatus mTechMask) inputs) = 1 := by
  intro hall
  have honce := hall (twoAdapters false) 7 ⟨0, false, 1, some 7⟩ .success 1
    [.process 0, .process 0] rfl (by decide) (by decide) (by decide) (by decide) (by decide)
  revert honce
  decide

end LocApi

end G2Common.Eng
