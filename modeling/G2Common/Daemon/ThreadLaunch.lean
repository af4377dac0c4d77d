import G2Common.Daemon.ThreadHelper

/-!
The return of `loc_eng_dmn_conn_launch_thelper`: that it comes, and what its value says.
-/

namespace G2Common.Daemon

open Transition

/-- The steps of the launching thread up to its return, once the signal was given. -/
def Launcher.toReturn : Launcher → Nat
  | .created | .waiting | .woken => 2
  | .waited => 1
  | _ => 0

namespace Helper

variable (given : ThreadProc → Bool)

/-- After the signal. -/
def Ready (t : Helper) : Prop := t.Made ∧ t.state.threadReady = true

theorem ready_step (t : Helper) (input : ThelperInput) (ht : t.Ready) :
    (t.step given input).Ready := by
  refine ⟨made_step given t input ht.1, ?_⟩
  cases hinput : input.isMain with
  | true =>
      cases input with
      | main result =>
          rw [step_main]
          exact congrArg (· || t.state.main.signals) ht.2
      | _ => cases hinput
  | false =>
      rw [step_other given t hinput]
      exact (Thelper.threadReady_other given t.state hinput).trans ht.2

theorem toReturn_step (t : Helper) (input : ThelperInput) (ht : t.Ready) :
    (t.step given input).state.launcher.toReturn ≤
      t.state.launcher.toReturn - input.isLaunch.toNat := by
  have hwaiting : t.state.launcher ≠ .waiting := by
    intro hwaiting
    have hready := ht.1.1.waiting hwaiting
    rw [ht.2] at hready
    cases hready
  have hcreating : t.state.launcher ≠ .creating := fun h => ht.1.2 (ht.1.1.creating h)
  cases input with
  | create callback made =>
      change (t.state.create callback made).launcher.toReturn ≤ _
      rw [Thelper.create]
      split
      case h_1 hlauncher => exact absurd hlauncher hcreating
      case h_2 => exact Nat.le_refl _
  | launch =>
      change t.state.launch.launcher.toReturn ≤ _
      rw [Thelper.launch]
      split
      case h_1 hlauncher => simp [ht.2, hlauncher, Launcher.toReturn, ThelperInput.isLaunch]
      case h_2 hlauncher => simp [hlauncher, Launcher.toReturn, ThelperInput.isLaunch]
      case h_3 hlauncher => simp [Launcher.toReturn]
      case h_4 hcreated hwoken hwaited =>
        cases hlauncher : t.state.launcher with
        | created => exact absurd hlauncher hcreated
        | waiting => exact absurd hlauncher hwaiting
        | woken => exact absurd hlauncher hwoken
        | waited => exact absurd hlauncher hwaited
        | _ => simp [Launcher.toReturn]
  | main result =>
      rw [step_main]
      simp [hwaiting, ThelperInput.isLaunch]
  | wake =>
      change t.state.wake.launcher.toReturn ≤ _
      simp [Thelper.wake, hwaiting, ThelperInput.isLaunch]
  | unblock => exact Nat.le_refl _
  | join =>
      change t.state.join.launcher.toReturn ≤ _
      rw [Thelper.join]
      split
      case h_1 hlauncher hmain => simp [Launcher.toReturn]
      case h_2 => exact Nat.le_refl _

theorem toReturn_le (launcher : Launcher) : launcher.toReturn ≤ 2 := by
  cases launcher with
  | _ => simp [Launcher.toReturn]

theorem result_of_toReturn {t : Helper} (ht : t.Ready) (h : t.state.launcher.toReturn = 0) :
    t.state.launcher.result.isSome = true := by
  cases hlauncher : t.state.launcher with
  | creating => exact absurd (ht.1.1.creating hlauncher) ht.1.2
  | launched result => rfl
  | joined result => rfl
  | _ =>
      rw [hlauncher] at h
      cases h

end Helper

section Launch

variable {given : ThreadProc → Bool} {before mid after : List ThelperInput}

/-- No wake-up is lost: once a thread was made, three of its steps and then two of the
launching thread end the launch, whatever else happens and in whatever order. -/
theorem launch_returns
    (hmade : (run (Helper.step given) .start before).state.main ≠ .absent)
    (hmain : 3 ≤ mid.countP ThelperInput.isMain)
    (hlaunch : 2 ≤ after.countP ThelperInput.isLaunch) :
    (run (Helper.step given) .start (before ++ mid ++ after)).state.launcher.result.isSome := by
  rw [run_append, run_append]
  have hbefore : (run (Helper.step given) .start before).Made :=
    ⟨Helper.sound_run given before, hmade⟩
  generalize run (Helper.step given) .start before = t at hbefore
  have hmid := run_invariant_all (Helper.made_step given) hbefore mid
  have hsignal := run_measure_le ThelperInput.isMain (fun t => t.state.main.toSignal)
    (Helper.made_step given)
    (fun t => Helper.measure_step given Main.toSignal
      (Main.toSignal_next given t.state.threadExit)) hbefore mid
  generalize run (Helper.step given) t mid = t' at hmid hsignal
  have hready : t'.Ready := by
    have hle := t.state.main.toSignal_le
    have hsignalled := Main.signalled_of_toSignal hmid.2 (by omega)
    exact ⟨hmid, hmid.1.ready.trans hsignalled⟩
  have hafter := run_invariant_all (Helper.ready_step given) hready after
  have hreturn := run_measure_le ThelperInput.isLaunch (fun t => t.state.launcher.toReturn)
    (Helper.ready_step given) (Helper.toReturn_step given) hready after
  have hle := Helper.toReturn_le t'.state.launcher
  exact Helper.result_of_toReturn hafter (by omega)

/-- The launching thread waits, and is woken by the signal of `thelper_main`. -/
theorem launch_returns_waiting :
    (run (Helper.step fun _ => true) .start ([.create true true, .launch] ++
      [.main 0, .unblock, .main 0, .main (-1)] ++
        [.launch, .launch])).state.launcher.result.isSome :=
  launch_returns (by decide) (by decide) (by decide)

end Launch

/-- No thread is there, and none will be. -/
structure Thelper.Alone (s : Thelper) : Prop where
  main : s.main = .absent
  ready : s.threadReady = false
  exit : s.threadExit = false
  launcher : s.launcher = .created ∨ s.launcher = .waiting

theorem Thelper.alone_machine {given : ThreadProc → Bool} {s : Thelper} {input : ThelperInput}
    (hs : s.Alone) (hwake : input ≠ .wake) (hunblock : input ≠ .unblock) :
    (machine given s input).1.Alone := by
  obtain ⟨threadExit, threadReady, main, launcher⟩ := s
  obtain ⟨hmain, hready, hexit, hlauncher⟩ := hs
  cases hmain
  cases hready
  cases hexit
  cases input with
  | wake => exact absurd rfl hwake
  | unblock => exact absurd rfl hunblock
  | main result => exact ⟨rfl, rfl, rfl, hlauncher⟩
  | create callback made =>
      rcases hlauncher with hlauncher | hlauncher
      · cases hlauncher; exact ⟨rfl, rfl, rfl, .inl rfl⟩
      · cases hlauncher; exact ⟨rfl, rfl, rfl, .inr rfl⟩
  | launch =>
      rcases hlauncher with hlauncher | hlauncher
      · cases hlauncher; exact ⟨rfl, rfl, rfl, .inr rfl⟩
      · cases hlauncher; exact ⟨rfl, rfl, rfl, .inr rfl⟩
  | join =>
      rcases hlauncher with hlauncher | hlauncher
      · cases hlauncher; exact ⟨rfl, rfl, rfl, .inl rfl⟩
      · cases hlauncher; exact ⟨rfl, rfl, rfl, .inr rfl⟩

theorem alone_step (given : ThreadProc → Bool) (t : Helper) (input : ThelperInput)
    (ht : t.state.Alone) (hinput : input ≠ .wake ∧ input ≠ .unblock) :
    (t.step given input).state.Alone :=
  Thelper.alone_machine ht hinput.1 hinput.2

/-- That the callback made no thread is not noticed: the launch waits for its signal for
ever, unless the wait ends by itself or the helper is unblocked. -/
theorem launch_waits {given : ThreadProc → Bool} {inputs : List ThelperInput}
    (hwake : .wake ∉ inputs) (hunblock : .unblock ∉ inputs) :
    (run (Helper.step given) .start
      (.create true false :: inputs)).state.launcher.result = none := by
  have halone : (run (Helper.step given) .start
      (.create true false :: inputs)).state.Alone := by
    rw [run_cons]
    refine run_invariant (alone_step given) ⟨rfl, rfl, rfl, .inl rfl⟩ ?_
    rw [meets_iff_split]
    rintro before input after rfl
    constructor
    · rintro rfl
      exact hwake (by simp)
    · rintro rfl
      exact hunblock (by simp)
  rcases halone.launcher with hlauncher | hlauncher
  · rw [hlauncher]
    rfl
  · rw [hlauncher]
    rfl

theorem launch_waits_twice :
    (run (Helper.step fun _ => true) .start
      (.create true false :: [.launch, .main 0, .launch, .join])).state.launcher.result = none :=
  launch_waits (by decide) (by decide)

namespace Helper

/-- The initialization went well, where there is one. -/
def Initialized (given : ThreadProc → Bool) (log : List ProcCall) : Prop :=
  given .init = true → ∃ result, 0 ≤ result ∧ ⟨.init, result⟩ ∈ log

theorem Initialized.append {given : ThreadProc → Bool} {log more : List ProcCall}
    (h : Initialized given log) : Initialized given (log ++ more) := fun hgiven =>
  (h hgiven).imp fun _ hresult => ⟨hresult.1, List.mem_append_left _ hresult.2⟩

/-- How far `thelper_main` is, told by the log and by `thread_exit`. -/
structure Begun (given : ThreadProc → Bool) (t : Helper) : Prop where
  absent : t.state.main = .absent → t.log = []
  refusing : t.state.main = .refusing → t.state.threadExit = true
  passed : t.state.main = .ready ∨ t.state.main.signalled = true →
    Initialized given t.log ∨ t.state.main = .ended ∧ t.state.threadExit = true

/-- What a launch has seen that waits no longer. -/
structure Answers (given : ThreadProc → Bool) (t : Helper) : Prop where
  begun : Begun given t
  sound : t.state.Sound
  woken : t.state.launcher = .woken → t.state.threadReady = true
  waited : t.state.launcher = .waited → t.state.threadReady = true ∨ t.state.threadExit = true
  zero : t.state.launcher.result = some 0 → t.state.threadReady = true ∧ Initialized given t.log
  one : t.state.launcher.result = some 1 → t.state.threadExit = true
  minus : t.state.launcher.result = some (-1) → t.state.main = .absent

variable {given : ThreadProc → Bool} {t : Helper}

theorem Begun.initialized (ht : Begun given t)
    (h : t.state.main = .ready ∨ t.state.main.signalled = true)
    (hended : t.state.threadExit = false ∨ t.state.main ≠ .ended) : Initialized given t.log := by
  rcases ht.passed h with hinit | ⟨hmain, hexit⟩
  · exact hinit
  · rcases hended with hended | hended
    · rw [hended] at hexit
      cases hexit
    · exact absurd hmain hended

theorem begun_main (ht : Begun given t) (result : Int) :
    Begun given (t.step given (.main result)) := by
  rw [step_main]
  cases hmain : t.state.main with
  | absent =>
      refine ⟨fun _ => ?_, by simp [Main.next], by simp [Main.next, Main.signalled]⟩
      simp [ht.absent hmain, Main.calls, Main.callee]
  | init =>
      cases hgiven : given .init with
      | false =>
          refine ⟨by simp [Main.next, hgiven], by simp [Main.next, hgiven], fun _ => .inl ?_⟩
          intro htrue
          rw [hgiven] at htrue
          cases htrue
      | true =>
          rcases Int.lt_or_le result 0 with hneg | hpos
          · simp only [Main.next, hgiven, hneg, decide_true, Bool.and_self, if_true]
            exact ⟨by simp, by simp, by simp [Main.signalled]⟩
          · have hresult : ¬ result < 0 := by omega
            refine ⟨by simp [Main.next, hresult], by simp [Main.next, hresult],
              fun _ => .inl fun _ => ⟨result, hpos, ?_⟩⟩
            simp [Main.calls, Main.callee, hgiven]
  | refused =>
      exact ⟨by simp [Main.next], by simp [Main.setsExit], by simp [Main.next, Main.signalled]⟩
  | refusing =>
      refine ⟨by simp [Main.next], by simp [Main.next], fun _ => .inr ⟨rfl, ?_⟩⟩
      simp [ht.refusing hmain]
  | ended =>
      refine ⟨by simp [Main.next], by simp [Main.next], fun _ => ?_⟩
      rcases ht.passed (.inr (hmain ▸ rfl)) with hinit | ⟨-, hexit⟩
      · exact .inl hinit.append
      · exact .inr ⟨rfl, by simp [hexit]⟩
  | ready =>
      have hinit := ht.initialized (.inl hmain) (.inr (by simp [hmain]))
      exact ⟨by simp [Main.next], by simp [Main.next], fun _ => .inl hinit.append⟩
  | _ =>
      have hinit := ht.initialized (.inr (hmain ▸ rfl)) (.inr (by simp [hmain]))
      refine ⟨?_, ?_, fun _ => .inl hinit.append⟩
      all_goals
        simp only [Main.next]
        try split
        all_goals simp

theorem begun_step (ht : Begun given t) (hs : t.state.Sound) (input : ThelperInput) :
    Begun given (t.step given input) := by
  cases hinput : input.isMain with
  | true =>
      cases input with
      | main result => exact begun_main ht result
      | _ => cases hinput
  | false =>
      have hexit := Thelper.threadExit_machine given t.state input
      rw [step_other given t hinput]
      rcases Thelper.main_other given hs hinput with hmain | ⟨hmain, hinit⟩
      · refine ⟨fun h => ht.absent (hmain ▸ h), fun h => hexit (ht.refusing (hmain ▸ h)), ?_⟩
        intro h
        rcases ht.passed (hmain ▸ h) with hpassed | ⟨hended, hold⟩
        · exact .inl hpassed
        · exact .inr ⟨hmain.trans hended, hexit hold⟩
      · refine ⟨fun _ => ht.absent hmain, ?_, ?_⟩
        · rw [hinit]
          simp
        · rw [hinit]
          simp [Main.signalled]

theorem answers_main (ht : Answers given t) (result : Int) :
    Answers given (t.step given (.main result)) := by
  have hbegun := begun_step ht.begun ht.sound (.main result)
  have hsound := Thelper.sound_machine given t.state (.main result) ht.sound
  have hresult : (t.step given (.main result)).state.launcher.result = t.state.launcher.result ∨
      (t.step given (.main result)).state.launcher.result = none := by
    rw [step_main]
    change (if _ then Launcher.woken else t.state.launcher).result = _ ∨ _
    split
    · exact .inr rfl
    · exact .inl rfl
  refine ⟨hbegun, hsound, ?_, ?_, ?_, ?_, ?_⟩
  · rw [step_main]
    intro hwoken
    simp only at hwoken ⊢
    split at hwoken
    case isTrue h => rw [h.1, Bool.or_true]
    case isFalse => rw [ht.woken hwoken, Bool.true_or]
  · rw [step_main]
    intro hwaited
    simp only at hwaited ⊢
    split at hwaited
    case isTrue => cases hwaited
    case isFalse =>
      rcases ht.waited hwaited with hready | hexit
      · exact .inl (by rw [hready, Bool.true_or])
      · exact .inr (by rw [hexit, Bool.true_or])
  · intro hzero
    rcases hresult with hresult | hresult
    · obtain ⟨hready, hinit⟩ := ht.zero (hresult ▸ hzero)
      rw [step_main]
      exact ⟨congrArg (· || t.state.main.signals) hready, hinit.append⟩
    · rw [hresult] at hzero
      cases hzero
  · intro hone
    rcases hresult with hresult | hresult
    · rw [step_main]
      exact congrArg (· || t.state.main.setsExit) (ht.one (hresult ▸ hone))
    · rw [hresult] at hone
      cases hone
  · intro hminus
    rcases hresult with hresult | hresult
    · rw [step_main]
      exact (Main.next_eq_absent ..).mpr (ht.minus (hresult ▸ hminus))
    · rw [hresult] at hminus
      cases hminus

theorem answers_create (ht : Answers given t) (callback made : Bool) :
    Answers given (t.step given (.create callback made)) := by
  have hbegun := begun_step ht.begun ht.sound (.create callback made)
  have hsound := Thelper.sound_machine given t.state (.create callback made) ht.sound
  rw [step_other given t rfl] at hbegun ⊢
  change Thelper.Sound (t.state.create callback made) at hsound
  change Begun given ⟨t.state.create callback made, t.log⟩ at hbegun
  change Answers given ⟨t.state.create callback made, t.log⟩
  rw [Thelper.create] at hbegun hsound ⊢
  split at hbegun
  case h_1 hlauncher =>
    rw [hlauncher] at hsound
    cases callback
    all_goals cases made
    all_goals exact ⟨hbegun, hsound, by simp, by simp, by simp [Launcher.result],
      by simp [Launcher.result], by simp [Launcher.result]⟩
  case h_2 => exact ht

theorem answers_launch (ht : Answers given t) : Answers given (t.step given .launch) := by
  have hbegun := begun_step ht.begun ht.sound .launch
  have hsound := Thelper.sound_machine given t.state .launch ht.sound
  rw [step_other given t rfl] at hbegun ⊢
  change Thelper.Sound t.state.launch at hsound
  change Begun given ⟨t.state.launch, t.log⟩ at hbegun
  change Answers given ⟨t.state.launch, t.log⟩
  rw [Thelper.launch] at hbegun hsound ⊢
  split at hbegun
  case h_1 hlauncher =>
    rw [hlauncher] at hsound
    simp only at hsound ⊢
    split at hbegun
    case isTrue h =>
      rw [if_pos h] at hsound ⊢
      refine ⟨hbegun, hsound, by simp, by simp, ?_, ?_, ?_⟩
      all_goals simp [Launcher.result]
    case isFalse h =>
      rw [if_neg h] at hsound ⊢
      have hflags : t.state.threadReady = true ∨ t.state.threadExit = true := by
        rcases Bool.eq_false_or_eq_true t.state.threadReady with hready | hready
        · exact .inl hready
        · rw [hready] at h
          exact .inr (by simpa using h)
      refine ⟨hbegun, hsound, by simp, fun _ => hflags, ?_, ?_, ?_⟩
      all_goals simp [Launcher.result]
  case h_2 hlauncher =>
    rw [hlauncher] at hsound
    refine ⟨hbegun, hsound, by simp, fun _ => .inl (ht.woken hlauncher), ?_, ?_, ?_⟩
    all_goals simp [Launcher.result]
  case h_3 hlauncher =>
    rw [hlauncher] at hsound
    simp only at hsound ⊢
    split at hbegun
    case isTrue hexit =>
      rw [if_pos hexit] at hsound ⊢
      refine ⟨hbegun, hsound, by simp, by simp, ?_, fun _ => hexit, ?_⟩
      all_goals simp [Launcher.result]
    case isFalse hexit =>
      rw [if_neg hexit] at hsound ⊢
      have hready := (ht.waited hlauncher).resolve_right hexit
      have hsignalled := ht.sound.ready.symm.trans hready
      have hinit := ht.begun.initialized (.inr hsignalled) (.inl (Bool.eq_false_iff.mpr hexit))
      refine ⟨hbegun, hsound, by simp, by simp, fun _ => ⟨hready, hinit⟩, ?_, ?_⟩
      all_goals simp [Launcher.result]
  case h_4 => exact ht

theorem answers_join (ht : Answers given t) : Answers given (t.step given .join) := by
  have hbegun := begun_step ht.begun ht.sound .join
  rw [step_other given t rfl] at hbegun ⊢
  change Begun given ⟨t.state.join, t.log⟩ at hbegun
  change Answers given ⟨t.state.join, t.log⟩
  rw [Thelper.join] at hbegun ⊢
  split at hbegun
  case h_1 result hlauncher hmain =>
    have hresult : t.state.launcher.result = some result := by rw [hlauncher]; rfl
    have hsound' : Thelper.Sound { t.state with launcher := .joined result } :=
      ⟨ht.sound.ready, by simp, by simp⟩
    exact ⟨hbegun, hsound', by simp, by simp, fun h => ht.zero (hresult.trans h),
      fun h => ht.one (hresult.trans h), fun h => ht.minus (hresult.trans h)⟩
  case h_2 => exact ht

theorem answers_step (t : Helper) (input : ThelperInput) (ht : Answers given t)
    (hwake : input ≠ .wake) : Answers given (t.step given input) := by
  cases input with
  | create callback made => exact answers_create ht callback made
  | launch => exact answers_launch ht
  | main result => exact answers_main ht result
  | wake => exact absurd rfl hwake
  | unblock =>
      have hbegun := begun_step ht.begun ht.sound .unblock
      have hsound := Thelper.sound_machine given t.state .unblock ht.sound
      rw [step_other given t rfl] at hbegun ⊢
      exact ⟨hbegun, hsound, ht.woken, fun _ => .inr rfl, ht.zero, fun _ => rfl, ht.minus⟩
  | join => exact answers_join ht

/-- A failed call is behind `thread_exit`, where nobody unblocked the helper. -/
def Blamed (t : Helper) : Prop :=
  t.state.threadExit = true ∨ t.state.main.setsExit = true → ∃ call ∈ t.log, call.result < 0

theorem blamed_step (given : ThreadProc → Bool) (t : Helper) (input : ThelperInput)
    (ht : t.Blamed ∧ t.state.Sound) (hunblock : input ≠ .unblock) :
    (t.step given input).Blamed ∧ (t.step given input).state.Sound := by
  refine ⟨?_, sound_step given t input ht.2⟩
  cases hinput : input.isMain with
  | false =>
      rw [step_other given t hinput]
      intro h
      apply ht.1
      rcases h with h | h
      · left
        rw [← h]
        exact (Thelper.threadExit_other given t.state hinput hunblock).symm
      · rcases Thelper.main_other given ht.2 hinput with hmain | ⟨-, hinit⟩
        · rw [← hmain]
          exact .inr h
        · rw [hinit] at h
          cases h
  | true =>
      cases input with
      | main result =>
          rw [step_main]
          rintro (hexit | hnext)
          · obtain ⟨call, hcall, hneg⟩ := ht.1 ((Bool.or_eq_true _ _).mp hexit)
            exact ⟨call, List.mem_append_left _ hcall, hneg⟩
          · obtain ⟨hneg, callee, hcallee⟩ := Main.setsExit_next hnext
            exact ⟨⟨callee, result⟩,
              List.mem_append_right _ (List.mem_map_of_mem hcallee), hneg⟩
      | _ => cases hinput

end Helper

section Answer

variable {given : ThreadProc → Bool} {inputs : List ThelperInput}

theorem answers_run (hwake : ThelperInput.wake ∉ inputs) :
    Helper.Answers given (run (Helper.step given) .start inputs) := by
  refine run_invariant Helper.answers_step ?_ ?_
  · refine ⟨⟨fun _ => rfl, ?_, ?_⟩, Thelper.sound_init, ?_, ?_, ?_, ?_, ?_⟩
    all_goals simp [Helper.start, Thelper.init, Main.signalled, Launcher.result]
  · rw [meets_iff_split]
    rintro before input after rfl rfl
    exact hwake (by simp)

theorem blamed_run (hunblock : ThelperInput.unblock ∉ inputs) :
    Helper.Blamed (run (Helper.step given) .start inputs) := by
  refine (run_invariant (Helper.blamed_step given) ⟨?_, Thelper.sound_init⟩ ?_).1
  · simp [Helper.Blamed, Helper.start, Thelper.init, Main.setsExit]
  · rw [meets_iff_split]
    rintro before input after rfl rfl
    exact hunblock (by simp)

/-- What the launch returns, in every run where its wait ends by a signal only: 0 after an
initialization that went well, 1 after a failed callback or `unblock`, and -1 where no
callback was called. -/
theorem launch_answer (hwake : ThelperInput.wake ∉ inputs) :
    let t := run (Helper.step given) .start inputs
    (t.state.launcher.result = some 0 →
      t.state.threadReady = true ∧ Helper.Initialized given t.log) ∧
    (t.state.launcher.result = some 1 →
      (∃ call ∈ t.log, call.result < 0) ∨ .unblock ∈ inputs) ∧
    (t.state.launcher.result = some (-1) → t.log = []) := by
  have hanswers : Helper.Answers given _ := answers_run hwake
  refine ⟨hanswers.zero, fun hone => ?_, fun hminus => ?_⟩
  · rcases Decidable.em (ThelperInput.unblock ∈ inputs) with hunblock | hunblock
    · exact .inr hunblock
    · exact .inl (blamed_run hunblock (.inl (hanswers.one hone)))
  · exact hanswers.begun.absent (hanswers.minus hminus)

def refusedRun : List ThelperInput :=
  [.create false true, .launch, .main (-1), .main 0, .main 0, .launch, .launch]

theorem launch_answer_refused :
    let t := run (Helper.step fun _ => true) .start refusedRun
    (t.state.launcher.result = some 0 →
      t.state.threadReady = true ∧ Helper.Initialized (fun _ => true) t.log) ∧
    (t.state.launcher.result = some 1 →
      (∃ call ∈ t.log, call.result < 0) ∨ .unblock ∈ refusedRun) ∧
    (t.state.launcher.result = some (-1) → t.log = []) :=
  launch_answer (by decide)

/-- A wait that ends by itself is not repeated: the launch returns 0 before the
initialization, which fails. -/
example :
    let t := run (Helper.step fun _ => true) .start
      [.create false true, .launch, .wake, .launch, .launch, .main (-1)]
    t.state.launcher.result = some 0 ∧ t.log = [⟨.init, -1⟩] := by decide

end Answer

end G2Common.Daemon
