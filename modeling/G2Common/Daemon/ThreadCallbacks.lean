import G2Common.Daemon.ThreadHelper

/-!
The callbacks of a thread helper: their order, and the end of the thread.
-/

namespace G2Common.Daemon

open Transition

def ThreadProc.rank : ThreadProc → Nat
  | init => 0
  | pre => 1
  | proc => 2
  | post => 3

/-- `init`, `pre` and `post` are called at most once and in this order, and after a failure
only that of the task is followed by a call, which is `post`. -/
def Follows (call : ProcCall) (callee : ThreadProc) : Prop :=
  (call.proc.rank < callee.rank ∨ call.proc = .proc ∧ callee = .proc) ∧
    (call.result < 0 → call.proc = .proc ∧ callee = .post)

/-- The task is not what failed, and so the thread ended without `post`. -/
def CutShort (log : List ProcCall) : Prop := ∃ call ∈ log, call.result < 0 ∧ call.proc ≠ .proc

namespace Main

/-- The callbacks that may still be called. -/
def future (threadExit : Bool) : Main → List ThreadProc
  | absent | init => [.init, .pre, .proc, .post]
  | ready | pre => [.pre, .proc, .post]
  | proc => [.proc, .post]
  | loop => if threadExit then [.post] else [.proc, .post]
  | procFailed | post => [.post]
  | refused | refusing | preFailed | ended => []

def aborted : Main → Bool
  | refused | refusing | preFailed => true
  | _ => false

section Future

variable {given : ThreadProc → Bool} {threadExit : Bool} {result : Int} {main : Main}
  {callee later : ThreadProc}

/-- With `thread_exit` the loop is not taken again. -/
theorem mem_future_mono {threadExit' : Bool} (hexit : threadExit = true → threadExit' = true)
    (h : later ∈ main.future threadExit') : later ∈ main.future threadExit := by
  cases main with
  | loop =>
      cases threadExit with
      | true => rwa [hexit rfl] at h
      | false =>
          cases threadExit' with
          | true => exact List.mem_cons_of_mem _ h
          | false => exact h
  | _ => exact h

theorem mem_future_loop (h : later ∈ loop.future threadExit) : later = .proc ∨ later = .post := by
  rw [future] at h
  split at h
  · exact .inr (List.mem_singleton.mp h)
  · simpa using h

theorem mem_future_of_next
    (h : later ∈ (main.next given threadExit result).future (threadExit || main.setsExit)) :
    later ∈ main.future threadExit := by
  cases main with
  | proc =>
      rw [next] at h
      split at h
      · exact List.mem_cons_of_mem _ h
      · rcases mem_future_loop h with rfl | rfl
        all_goals simp [future]
  | init | pre | loop =>
      rw [next] at h
      split at h
      all_goals revert h; simp_all [future]
  | _ => revert h; simp_all [future, next, setsExit]

theorem mem_future_of_calls (h : callee ∈ main.calls given) : callee ∈ main.future threadExit := by
  obtain ⟨h, -⟩ := List.mem_filter.mp h
  cases main with
  | init | pre | proc | post =>
      cases List.mem_singleton.mp h
      exact List.mem_cons_self
  | _ => cases h

/-- What a step calls may be followed by what may be called after it. -/
theorem follows_next (hcallee : callee ∈ main.calls given)
    (h : later ∈ (main.next given threadExit result).future (threadExit || main.setsExit)) :
    Follows ⟨callee, result⟩ later := by
  obtain ⟨hcallee, hgiven⟩ := List.mem_filter.mp hcallee
  cases main with
  | init | pre =>
      cases List.mem_singleton.mp hcallee
      rw [next, hgiven, Bool.true_and] at h
      split at h
      case isTrue => cases h
      case isFalse hresult =>
        rw [decide_eq_true_iff] at hresult
        refine ⟨.inl ?_, fun hneg => absurd hneg hresult⟩
        revert h
        simp only [future, List.mem_cons, List.not_mem_nil, or_false]
        rintro (rfl | rfl | rfl)
        all_goals decide
  | proc =>
      cases List.mem_singleton.mp hcallee
      rw [next, hgiven, Bool.true_and] at h
      split at h
      case isTrue =>
        cases List.mem_singleton.mp h
        exact ⟨.inl (Nat.lt_succ_self 2), fun _ => ⟨rfl, rfl⟩⟩
      case isFalse hresult =>
        rw [decide_eq_true_iff] at hresult
        refine ⟨?_, fun hneg => absurd hneg hresult⟩
        rcases mem_future_loop h with rfl | rfl
        · exact .inr ⟨rfl, rfl⟩
        · exact .inl (Nat.lt_succ_self 2)
  | post => cases h
  | _ => cases hcallee

end Future

end Main

namespace Helper

variable {given : ThreadProc → Bool} {t : Helper}

/-- The log is in order, and so are the calls that may come. -/
structure Ordered (given : ThreadProc → Bool) (t : Helper) : Prop where
  pairwise : t.log.Pairwise fun first second => Follows first second.proc
  future : ∀ call ∈ t.log, ∀ later ∈ t.state.main.future t.state.threadExit, Follows call later
  given : ∀ call ∈ t.log, given call.proc = true

theorem ordered_other (ht : Ordered given t) (hs : t.state.Sound) {input : ThelperInput}
    (hinput : input.isMain = false) : Ordered given (t.step given input) := by
  rw [step_other given t hinput]
  refine ⟨ht.pairwise, fun call hcall later hlater => ht.future call hcall later ?_, ht.given⟩
  have hold := Main.mem_future_mono (Thelper.threadExit_machine given t.state input) hlater
  rcases Thelper.main_other given hs hinput with hmain | ⟨habsent, hinit⟩
  · rwa [hmain] at hold
  · rw [hinit] at hold
    rw [habsent]
    exact hold

theorem ordered_main (ht : Ordered given t) (result : Int) :
    Ordered given (t.step given (.main result)) := by
  rw [step_main]
  refine ⟨?_, ?_, ?_⟩
  · refine List.pairwise_append.mpr ⟨ht.pairwise, ?_, ?_⟩
    · rw [Main.calls]
      cases t.state.main.callee with
      | none => exact List.Pairwise.nil
      | some callee =>
          rw [Option.toList_some, List.filter_singleton]
          cases given callee with
          | true => exact List.pairwise_singleton _ _
          | false => exact List.Pairwise.nil
    · intro call hcall new hnew
      obtain ⟨callee, hcallee, rfl⟩ := List.mem_map.mp hnew
      exact ht.future call hcall callee (Main.mem_future_of_calls hcallee)
  · intro call hcall later hlater
    rcases List.mem_append.mp hcall with hold | hnew
    · exact ht.future call hold later (Main.mem_future_of_next hlater)
    · obtain ⟨callee, hcallee, rfl⟩ := List.mem_map.mp hnew
      exact Main.follows_next hcallee hlater
  · intro call hcall
    rcases List.mem_append.mp hcall with hold | hnew
    · exact ht.given call hold
    · obtain ⟨callee, hcallee, rfl⟩ := List.mem_map.mp hnew
      exact (List.mem_filter.mp hcallee).2

/-- `post` ends the thread, unless the thread was cut short. -/
structure Completed (given : ThreadProc → Bool) (t : Helper) : Prop where
  aborted : t.state.main.aborted = true → CutShort t.log
  ended : t.state.main = .ended → given .post = true →
    (∃ call ∈ t.log, call.proc = .post) ∨ CutShort t.log

theorem completed_other (ht : Completed given t) (hs : t.state.Sound) {input : ThelperInput}
    (hinput : input.isMain = false) : Completed given (t.step given input) := by
  rw [step_other given t hinput]
  rcases Thelper.main_other given hs hinput with hmain | ⟨-, hinit⟩
  · exact ⟨fun h => ht.aborted (hmain ▸ h), fun h => ht.ended (hmain ▸ h)⟩
  · refine ⟨?_, ?_⟩
    all_goals simp [hinit, Main.aborted]

theorem cutShort_append {log more : List ProcCall} (h : CutShort log) : CutShort (log ++ more) :=
  h.imp fun _ hcall => ⟨List.mem_append_left _ hcall.1, hcall.2⟩

theorem mem_log_called {main : Main} {callee : ThreadProc} {result : Int} {log : List ProcCall}
    (hcallee : main.callee = some callee) (hgiven : given callee = true) :
    ⟨callee, result⟩ ∈ log ++ (main.calls given).map (⟨·, result⟩) := by
  apply List.mem_append_right
  apply List.mem_map_of_mem
  rw [Main.calls, hcallee]
  exact List.mem_filter.mpr ⟨List.mem_singleton_self callee, hgiven⟩

theorem completed_main (ht : Completed given t) (result : Int) :
    Completed given (t.step given (.main result)) := by
  rw [step_main]
  cases hmain : t.state.main with
  | init =>
      rw [Main.next]
      split
      case isTrue h =>
        rw [Bool.and_eq_true, decide_eq_true_iff] at h
        exact ⟨fun _ => ⟨⟨.init, result⟩, mem_log_called rfl h.1, h.2, by simp⟩, by simp⟩
      case isFalse => exact ⟨by simp [Main.aborted], by simp⟩
  | pre =>
      rw [Main.next]
      split
      case isTrue h =>
        rw [Bool.and_eq_true, decide_eq_true_iff] at h
        exact ⟨fun _ => ⟨⟨.pre, result⟩, mem_log_called rfl h.1, h.2, by simp⟩, by simp⟩
      case isFalse => exact ⟨by simp [Main.aborted], by simp⟩
  | proc | loop =>
      rw [Main.next]
      split
      all_goals exact ⟨by simp [Main.aborted], by simp⟩
  | refused => exact ⟨fun _ => cutShort_append (ht.aborted (hmain ▸ rfl)), by simp [Main.next]⟩
  | refusing | preFailed =>
      exact ⟨by simp [Main.next, Main.aborted],
        fun _ _ => .inr (cutShort_append (ht.aborted (hmain ▸ rfl)))⟩
  | post =>
      exact ⟨by simp [Main.next, Main.aborted],
        fun _ hgiven => .inl ⟨⟨.post, result⟩, mem_log_called rfl hgiven, rfl⟩⟩
  | ended =>
      refine ⟨by simp [Main.next, Main.aborted], fun _ hgiven => ?_⟩
      rcases ht.ended hmain hgiven with ⟨call, hcall, hpost⟩ | hcut
      · exact .inl ⟨call, List.mem_append_left _ hcall, hpost⟩
      · exact .inr (cutShort_append hcut)
  | _ => exact ⟨by simp [Main.next, Main.aborted], by simp [Main.next]⟩

end Helper

section Order

variable {given : ThreadProc → Bool}

/-- Both invariants, with what they rest on. -/
structure Helper.Orderly (given : ThreadProc → Bool) (t : Helper) : Prop where
  sound : t.state.Sound
  ordered : t.Ordered given
  completed : t.Completed given

theorem orderly_step (t : Helper) (input : ThelperInput) (ht : t.Orderly given) :
    (t.step given input).Orderly given := by
  have hsound := Helper.sound_step given t input ht.sound
  cases hinput : input.isMain with
  | false =>
      exact ⟨hsound, Helper.ordered_other ht.ordered ht.sound hinput,
        Helper.completed_other ht.completed ht.sound hinput⟩
  | true =>
      cases input with
      | main result =>
          exact ⟨hsound, Helper.ordered_main ht.ordered result,
            Helper.completed_main ht.completed result⟩
      | _ => cases hinput

theorem orderly_start : Helper.start.Orderly given := by
  refine ⟨Thelper.sound_init, ⟨List.Pairwise.nil, ?_, ?_⟩, ⟨?_, ?_⟩⟩
  all_goals simp [Helper.start, Thelper.init, Main.aborted]

/-- In every run only callbacks that are given are called, in their order, with no call after
a failed one but that of `post` after the task, and a thread that has ended has called
`post`, unless its start failed. -/
theorem callbacks_in_order (inputs : List ThelperInput) :
    let t := run (Helper.step given) .start inputs
    (t.log.Pairwise fun first second => Follows first second.proc) ∧
      (∀ call ∈ t.log, given call.proc = true) ∧
      (t.state.main = .ended → given .post = true →
        (∃ call ∈ t.log, call.proc = .post) ∨ CutShort t.log) := by
  have h : Helper.Orderly given _ := run_invariant_all orderly_step orderly_start inputs
  exact ⟨h.ordered.pairwise, h.ordered.given, h.completed.ended⟩

/-- The task fails at its first call. -/
theorem callbacks_in_order_failed :
    let t := run (Helper.step fun _ => true) .start
      [.create true true, .main 0, .main 0, .main 0, .main (-1), .main 0, .main 0, .main 0]
    (∃ call ∈ t.log, call.proc = .post) ∨ CutShort t.log :=
  (callbacks_in_order _).2.2 (by decide) rfl

end Order

namespace Helper

variable (given : ThreadProc → Bool)

/-- A helper that was unblocked, or that failed. -/
def Exiting (s : Thelper) : Prop := s.Sound ∧ s.threadExit = true

theorem exiting_machine (s : Thelper) (input : ThelperInput) (hs : Exiting s) :
    Exiting (Thelper.machine given s input).1 :=
  ⟨Thelper.sound_machine given s input hs.1, Thelper.threadExit_machine given s input hs.2⟩

def isTask (call : ProcCall) : Bool := call.proc = .proc

theorem countP_calls (result : Int) (main : Main) :
    ((main.calls given).map (⟨·, result⟩)).countP isTask ≤ if main = .proc then 1 else 0 := by
  rw [Main.calls]
  cases main with
  | init | pre | post =>
      rw [Main.callee, Option.toList_some, List.filter_singleton]
      split
      all_goals cases given _
      all_goals simp [isTask]
  | proc =>
      rw [Main.callee, Option.toList_some, List.filter_singleton]
      cases given .proc
      all_goals simp [isTask]
  | _ => simp [Main.callee]

theorem toTask_le (main : Main) : main.toTask ≤ 1 := by
  cases main with
  | _ => simp [Main.toTask]

/-- The one call of the task that may still come is paid for. -/
theorem toTask_next (result : Int) (main : Main) :
    (if main = .proc then 1 else 0) + (main.next given true result).toTask ≤ main.toTask := by
  cases main with
  | init | pre =>
      rw [if_neg (by simp), Nat.zero_add]
      exact toTask_le _
  | proc =>
      rw [if_pos rfl, Main.next]
      split
      all_goals exact Nat.le_refl 1
  | _ => simp [Main.next, Main.toTask]

theorem toTask_machine (s : Thelper) (input : ThelperInput) (hs : Exiting s) :
    (Thelper.machine given s input).2.countP isTask +
      (Thelper.machine given s input).1.main.toTask ≤ s.main.toTask := by
  cases hinput : input.isMain with
  | true =>
      cases input with
      | main result =>
          change (s.thelperMain given result).2.countP _ +
            (s.thelperMain given result).1.main.toTask ≤ _
          rw [Thelper.thelperMain_eq, hs.2]
          exact Nat.le_trans (Nat.add_le_add_right (countP_calls given result s.main) _)
            (toTask_next given result s.main)
      | _ => cases hinput
  | false =>
      have hnone : (Thelper.machine given s input).2 = [] := by
        cases input with
        | main result => cases hinput
        | _ => rfl
      rw [hnone, List.countP_nil, Nat.zero_add]
      rcases Thelper.main_other given hs.1 hinput with hmain | ⟨habsent, hinit⟩
      · exact Nat.le_of_eq (congrArg Main.toTask hmain)
      · exact Nat.le_of_eq ((congrArg Main.toTask hinit).trans (congrArg Main.toTask habsent).symm)

theorem ended_of_toEnd {main : Main} (hmade : main ≠ .absent) (h : main.toEnd = 0) :
    main = .ended := by
  cases main with
  | absent => exact absurd rfl hmade
  | ended => rfl
  | _ => cases h

theorem toEnd_le (main : Main) : main.toEnd ≤ 7 := by
  cases main with
  | _ => simp [Main.toEnd]

/-- A thread that is to end. -/
def Ending (t : Helper) : Prop := t.Made ∧ t.state.threadExit = true

theorem ending_step (t : Helper) (input : ThelperInput) (ht : t.Ending) :
    (t.step given input).Ending :=
  ⟨made_step given t input ht.1, Thelper.threadExit_machine given t.state input ht.2⟩

theorem toEnd_step (t : Helper) (input : ThelperInput) (ht : t.Ending) :
    (t.step given input).state.main.toEnd ≤ t.state.main.toEnd - input.isMain.toNat := by
  refine measure_step given Main.toEnd (fun result main => ?_) input ht.1
  exact Main.toEnd_next given t.state.threadExit result main ht.2

end Helper

/-- Behind `unblock` the task is called at most once more, and seven steps of the thread
end it, whatever the callbacks return and whatever else happens. -/
theorem unblock_ends (given : ThreadProc → Bool) (before after : List ThelperInput) :
    let t := run (Helper.step given) .start (before ++ [.unblock])
    let t' := run (Helper.step given) t after
    t'.log.countP Helper.isTask ≤ t.log.countP Helper.isTask + 1 ∧
      (t.state.main ≠ .absent → 7 ≤ after.countP ThelperInput.isMain →
        t'.state.main = .ended) := by
  intro t t'
  have hsound : t.state.Sound := Helper.sound_run given (before ++ [.unblock])
  have hexit : t.state.threadExit = true := by
    change (run (Helper.step given) .start (before ++ [.unblock])).state.threadExit = true
    rw [run_append]
    rfl
  constructor
  · have hcount : t'.log.countP Helper.isTask + t'.state.main.toTask ≤
        t.log.countP Helper.isTask + t.state.main.toTask :=
      run_countP_le Helper.isTask (fun s => s.main.toTask) (Helper.exiting_machine given)
        (Helper.toTask_machine given) ⟨hsound, hexit⟩ after
    have hle := Helper.toTask_le t.state.main
    omega
  · intro hmade hmain
    have ht : t.Ending := ⟨⟨hsound, hmade⟩, hexit⟩
    have hinv : t'.Ending := run_invariant_all (Helper.ending_step given) ht after
    have hend : t'.state.main.toEnd ≤ _ :=
      run_measure_le ThelperInput.isMain (fun t => t.state.main.toEnd)
        (Helper.ending_step given) (Helper.toEnd_step given) ht after
    have hle := Helper.toEnd_le t.state.main
    exact Helper.ended_of_toEnd hinv.1.2 (by omega)

/-- The thread is unblocked before it has called the task. -/
theorem unblock_ends_early :
    let t := run (Helper.step fun _ => true) .start ([.create true true, .main 0] ++ [.unblock])
    (run (Helper.step fun _ => true) t (List.replicate 7 (.main 0))).state.main = .ended :=
  (unblock_ends _ _ _).2 (by decide) (by decide)

end G2Common.Daemon
