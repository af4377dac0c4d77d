import G2Common.Progress

/-!
The thread helper of `loc_eng_dmn_conn_thread_helper.c`: the thread that launches and joins,
and the one in `thelper_main`. A critical section is one step, and so is a callback. The wait
of the launching thread may also end without a signal, as waits on a condition do.
-/

namespace G2Common.Daemon

open Transition

/-- The callbacks of a helper. -/
inductive ThreadProc where
  | init | pre | proc | post
  deriving DecidableEq, Repr

/-- A call of a callback that is given, with what it returned. -/
structure ProcCall where
  proc : ThreadProc
  result : Int
  deriving DecidableEq, Repr

/-- Where `thelper_main` is. -/
inductive Main where
  /-- No thread was made yet. -/
  | absent
  | init
  /-- The initialization failed. -/
  | refused
  | refusing
  | ready
  | pre
  | preFailed
  | proc
  | procFailed
  /-- The condition of the loop. -/
  | loop
  | post
  | ended
  deriving DecidableEq, Repr

/-- Where the launching thread is. -/
inductive Launcher where
  | creating
  /-- About to take the mutex in `thelper_signal_wait`. -/
  | created
  | waiting
  /-- The wait has ended, and the mutex is not taken again yet. -/
  | woken
  /-- Behind `thelper_signal_wait`. -/
  | waited
  | launched (result : Int)
  | joined (result : Int)
  deriving DecidableEq, Repr

/-- `loc_eng_dmn_conn_thelper`, and its two threads. -/
structure Thelper where
  threadExit : Bool
  threadReady : Bool
  main : Main
  launcher : Launcher
  deriving DecidableEq, Repr

namespace Thelper

/-- After `thelper_signal_init`. -/
def init : Thelper := ⟨false, false, .absent, .creating⟩

/-- `thelper_signal_ready`, whose signal ends the wait of a thread that waits. -/
def signalReady (s : Thelper) : Thelper :=
  { s with
    threadReady := true
    launcher := if s.launcher = .waiting then .woken else s.launcher }

/-- The thread is made by the callback, whose failure is not noticed, or by
`pthread_create`. -/
def create (s : Thelper) (callback made : Bool) : Thelper :=
  match s.launcher with
  | .creating =>
      { s with
        main := if made then .init else .absent
        launcher := if callback || made then .created else .launched (-1) }
  | _ => s

/-- The next step of the launching thread up to its return. -/
def launch (s : Thelper) : Thelper :=
  match s.launcher with
  | .created =>
      { s with
        launcher := if !s.threadReady && !s.threadExit then .waiting else .waited }
  | .woken => { s with launcher := .waited }
  | .waited => { s with launcher := .launched (if s.threadExit then 1 else 0) }
  | _ => s

/-- The wait ends without a signal. -/
def wake (s : Thelper) : Thelper :=
  { s with launcher := if s.launcher = .waiting then .woken else s.launcher }

/-- `loc_eng_dmn_conn_unblock_thelper`. -/
def unblock (s : Thelper) : Thelper := { s with threadExit := true }

/-- `loc_eng_dmn_conn_join_thelper` returns once the thread has ended. -/
def join (s : Thelper) : Thelper :=
  match s.launcher, s.main with
  | .launched result, .ended => { s with launcher := .joined result }
  | _, _ => s

/-- A callback is called where it is given. -/
def call (s : Thelper) (given : Bool) (callee : ThreadProc) (result : Int)
    (failed next : Main) : Thelper × List ProcCall :=
  if given then
    ({ s with main := if result < 0 then failed else next }, [⟨callee, result⟩])
  else ({ s with main := next }, [])

/-- The next step of `thelper_main`, with the result of the callback if it calls one. -/
def thelperMain (given : ThreadProc → Bool) (s : Thelper) (result : Int) :
    Thelper × List ProcCall :=
  match s.main with
  | .absent => (s, [])
  | .init => s.call (given .init) .init result .refused .ready
  | .refused => ({ s with threadExit := true, main := .refusing }, [])
  | .refusing => ({ s with main := .ended }.signalReady, [])
  | .ready => ({ s with main := .pre }.signalReady, [])
  | .pre => s.call (given .pre) .pre result .preFailed .proc
  | .preFailed => ({ s with threadExit := true, main := .ended }, [])
  | .proc => s.call (given .proc) .proc result .procFailed .loop
  | .procFailed => ({ s with threadExit := true, main := .loop }, [])
  | .loop => ({ s with main := if s.threadExit then .post else .proc }, [])
  | .post => s.call (given .post) .post result .ended .ended
  | .ended => (s, [])

end Thelper

inductive ThelperInput where
  | create (callback made : Bool)
  | launch
  | main (result : Int)
  | wake
  | unblock
  | join
  deriving DecidableEq, Repr

namespace ThelperInput

def isMain : ThelperInput → Bool
  | main _ => true
  | _ => false

def isLaunch : ThelperInput → Bool
  | launch => true
  | _ => false

end ThelperInput

namespace Thelper

def machine (given : ThreadProc → Bool) (s : Thelper) :
    ThelperInput → Thelper × List ProcCall
  | .create callback made => (s.create callback made, [])
  | .launch => (s.launch, [])
  | .main result => s.thelperMain given result
  | .wake => (s.wake, [])
  | .unblock => (s.unblock, [])
  | .join => (s.join, [])

end Thelper

/-- What `loc_eng_dmn_conn_launch_thelper` returned. -/
def Launcher.result : Launcher → Option Int
  | launched result | joined result => some result
  | _ => none

/-- A helper and the calls of its callbacks. -/
abbrev Helper := Traced Thelper ProcCall

def Helper.start : Helper := ⟨.init, []⟩

def Helper.step (given : ThreadProc → Bool) : Helper → ThelperInput → Helper :=
  Traced.step (Thelper.machine given)

namespace Main

/-- The callback that is next, where one is. -/
def callee : Main → Option ThreadProc
  | init => some .init
  | pre => some .pre
  | proc => some .proc
  | post => some .post
  | _ => none

def setsExit : Main → Bool
  | refused | preFailed | procFailed => true
  | _ => false

def signals : Main → Bool
  | refusing | ready => true
  | _ => false

/-- The signal was given. -/
def signalled : Main → Bool
  | absent | init | refused | refusing | ready => false
  | _ => true

/-- Where the next step leads, with the result of the callback if it calls one. -/
def next (given : ThreadProc → Bool) (threadExit : Bool) (result : Int) : Main → Main
  | absent => absent
  | init => if given .init && result < 0 then refused else ready
  | refused => refusing
  | refusing => ended
  | ready => pre
  | pre => if given .pre && result < 0 then preFailed else proc
  | preFailed => ended
  | proc => if given .proc && result < 0 then procFailed else loop
  | procFailed => loop
  | loop => if threadExit then post else proc
  | post => ended
  | ended => ended

/-- The callbacks that the next step calls. -/
def calls (given : ThreadProc → Bool) (main : Main) : List ThreadProc :=
  main.callee.toList.filter given

/-- The steps that are left up to the signal. -/
def toSignal : Main → Nat
  | init => 3
  | refused => 2
  | refusing | ready => 1
  | _ => 0

/-- The steps that are left when the loop is not taken again. -/
def toEnd : Main → Nat
  | init => 7
  | ready => 6
  | pre => 5
  | proc => 4
  | procFailed => 3
  | refused | loop => 2
  | refusing | preFailed | post => 1
  | absent | ended => 0

/-- The calls of the task that are left when the loop is not taken again. -/
def toTask : Main → Nat
  | absent | init | ready | pre | proc => 1
  | _ => 0

section Next

variable (given : ThreadProc → Bool) (threadExit : Bool) (result : Int) (main : Main)

theorem signalled_next :
    (main.next given threadExit result).signalled = (main.signalled || main.signals) := by
  cases main with
  | init | pre | proc | loop => rw [next]; split <;> rfl
  | _ => rfl

theorem next_eq_absent : main.next given threadExit result = .absent ↔ main = .absent := by
  cases main with
  | init | pre | proc | loop => rw [next]; split <;> simp
  | _ => simp [next]

theorem toSignal_le : main.toSignal ≤ 3 := by
  cases main with
  | _ => simp [toSignal]

variable {main} in
theorem signalled_of_toSignal (hmade : main ≠ .absent) (h : main.toSignal = 0) :
    main.signalled = true := by
  cases main with
  | absent => exact absurd rfl hmade
  | init | refused | refusing | ready => cases h
  | _ => rfl

theorem toSignal_next :
    (main.next given threadExit result).toSignal ≤ main.toSignal - 1 := by
  cases main with
  | init | pre | proc | loop => rw [next]; split <;> simp [toSignal]
  | _ => simp [next, toSignal]

/-- A failed call is what leads to `thread_exit`. -/
theorem setsExit_next {given : ThreadProc → Bool} {threadExit : Bool} {result : Int}
    {main : Main} (h : (main.next given threadExit result).setsExit = true) :
    result < 0 ∧ ∃ callee, callee ∈ main.calls given := by
  cases main with
  | init | pre | proc =>
      rw [next] at h
      split at h
      case isTrue hfailed =>
        rw [Bool.and_eq_true, decide_eq_true_iff] at hfailed
        exact ⟨hfailed.2, by simp [calls, callee, hfailed.1]⟩
      case isFalse => cases h
  | loop =>
      rw [next] at h
      split at h
      all_goals cases h
  | _ => cases h

theorem toEnd_next (hexit : threadExit = true) :
    (main.next given threadExit result).toEnd ≤ main.toEnd - 1 := by
  cases main with
  | init | pre | proc | loop => rw [next]; split <;> simp_all [toEnd]
  | _ => simp [next, toEnd]

end Next

end Main

namespace Thelper

variable (given : ThreadProc → Bool) {s : Thelper} {input : ThelperInput}

theorem thelperMain_eq (s : Thelper) (result : Int) :
    s.thelperMain given result =
      (⟨s.threadExit || s.main.setsExit, s.threadReady || s.main.signals,
          s.main.next given s.threadExit result,
          if s.main.signals ∧ s.launcher = .waiting then .woken else s.launcher⟩,
        (s.main.calls given).map (⟨·, result⟩)) := by
  obtain ⟨threadExit, threadReady, main, launcher⟩ := s
  cases main with
  | init | pre | proc | post =>
      simp only [thelperMain, call, Main.calls, Main.callee, Main.next, Main.setsExit,
        Main.signals, Option.toList_some, List.filter_singleton]
      split
      case isTrue h => simp [h]
      case isFalse h => simp [h]
  | refusing | ready =>
      simp [thelperMain, signalReady, Main.calls, Main.callee, Main.next, Main.setsExit,
        Main.signals]
  | _ =>
      simp [thelperMain, Main.calls, Main.callee, Main.next, Main.setsExit, Main.signals]

/-- The flag says what `thelper_main` has done, and no signal came before the wait. -/
structure Sound (s : Thelper) : Prop where
  ready : s.threadReady = s.main.signalled
  waiting : s.launcher = .waiting → s.threadReady = false
  creating : s.launcher = .creating → s.main = .absent

theorem sound_init : Sound init := ⟨rfl, fun _ => rfl, fun _ => rfl⟩

theorem sound_create (hs : Sound s) (callback made : Bool) : Sound (s.create callback made) := by
  rw [create]
  split
  case h_1 hlauncher =>
    have hready : s.threadReady = false := by rw [hs.ready, hs.creating hlauncher]; rfl
    refine ⟨?_, fun _ => hready, ?_⟩
    · cases made
      all_goals exact hready
    · cases callback
      all_goals cases made
      all_goals simp
  case h_2 => exact hs

theorem sound_launch (hs : Sound s) : Sound s.launch := by
  rw [launch]
  split
  case h_1 hlauncher =>
    refine ⟨hs.ready, ?_, ?_⟩
    · cases hready : s.threadReady with
      | false => exact fun _ => rfl
      | true => simp
    · split
      all_goals simp
  case h_2 | h_3 => exact ⟨hs.ready, by simp, by simp⟩
  case h_4 => exact hs

theorem sound_main (hs : Sound s) (result : Int) : Sound (s.thelperMain given result).1 := by
  rw [thelperMain_eq]
  refine ⟨?_, ?_, ?_⟩
  · change (s.threadReady || s.main.signals) = _
    rw [Main.signalled_next, hs.ready]
  · intro hwaiting
    simp only at hwaiting ⊢
    split at hwaiting
    case isTrue => cases hwaiting
    case isFalse h =>
      rw [hs.waiting hwaiting, Bool.false_or]
      exact Bool.eq_false_iff.mpr fun hsignals => h ⟨hsignals, hwaiting⟩
  · intro hcreating
    simp only at hcreating ⊢
    split at hcreating
    case isTrue => cases hcreating
    case isFalse => exact (Main.next_eq_absent ..).mpr (hs.creating hcreating)

theorem sound_machine (s : Thelper) (input : ThelperInput) (hs : Sound s) :
    Sound (machine given s input).1 := by
  cases input with
  | create callback made => exact sound_create hs callback made
  | launch => exact sound_launch hs
  | main result => exact sound_main given hs result
  | wake =>
      change Sound s.wake
      rw [wake]
      split
      case isTrue => exact ⟨hs.ready, by simp, by simp⟩
      case isFalse => exact hs
  | unblock => exact ⟨hs.ready, hs.waiting, hs.creating⟩
  | join =>
      change Sound s.join
      rw [join]
      split
      · exact ⟨hs.ready, by simp, by simp⟩
      · exact hs

theorem main_launch (s : Thelper) : s.launch.main = s.main := by
  rw [launch]
  split
  all_goals rfl

theorem main_join (s : Thelper) : s.join.main = s.main := by
  rw [join]
  split
  all_goals rfl

theorem threadReady_other (s : Thelper) (hinput : input.isMain = false) :
    (machine given s input).1.threadReady = s.threadReady := by
  cases input with
  | create callback made =>
      change (s.create callback made).threadReady = _
      rw [create]
      split
      all_goals rfl
  | launch =>
      change s.launch.threadReady = _
      rw [launch]
      split
      all_goals rfl
  | main result => cases hinput
  | wake => rfl
  | unblock => rfl
  | join =>
      change s.join.threadReady = _
      rw [join]
      split
      all_goals rfl

theorem threadExit_other (s : Thelper) (hinput : input.isMain = false)
    (hunblock : input ≠ .unblock) :
    (machine given s input).1.threadExit = s.threadExit := by
  cases input with
  | create callback made =>
      change (s.create callback made).threadExit = _
      rw [create]
      split
      all_goals rfl
  | launch =>
      change s.launch.threadExit = _
      rw [launch]
      split
      all_goals rfl
  | main result => cases hinput
  | wake => rfl
  | unblock => exact absurd rfl hunblock
  | join =>
      change s.join.threadExit = _
      rw [join]
      split
      all_goals rfl

/-- No step takes `thread_exit` back. -/
theorem threadExit_machine (s : Thelper) (input : ThelperInput) (hexit : s.threadExit = true) :
    (machine given s input).1.threadExit = true := by
  cases input with
  | main result =>
      change (s.thelperMain given result).1.threadExit = true
      rw [thelperMain_eq]
      exact congrArg (· || s.main.setsExit) hexit
  | unblock => rfl
  | _ => exact (threadExit_other given s rfl (by simp)).trans hexit

/-- Only `thelper_main` goes on in it, once the thread is there. -/
theorem main_other (hs : Sound s) (hinput : input.isMain = false) :
    (machine given s input).1.main = s.main ∨
      s.main = .absent ∧ (machine given s input).1.main = .init := by
  cases input with
  | create callback made =>
      change (s.create callback made).main = _ ∨ _ ∧ (s.create callback made).main = _
      rw [create]
      split
      case h_1 hlauncher =>
        have habsent := hs.creating hlauncher
        cases made with
        | true => exact .inr ⟨habsent, rfl⟩
        | false => exact .inl habsent.symm
      case h_2 => exact .inl rfl
  | launch => exact .inl (main_launch s)
  | main result => cases hinput
  | wake => exact .inl rfl
  | unblock => exact .inl rfl
  | join => exact .inl (main_join s)

end Thelper

namespace Helper

variable (given : ThreadProc → Bool)

theorem step_other (t : Helper) {input : ThelperInput} (hinput : input.isMain = false) :
    t.step given input = ⟨(Thelper.machine given t.state input).1, t.log⟩ := by
  cases input with
  | main result => cases hinput
  | _ => exact congrArg (Traced.mk _) (List.append_nil t.log)

theorem step_main (t : Helper) (result : Int) :
    t.step given (.main result) =
      ⟨⟨t.state.threadExit || t.state.main.setsExit,
          t.state.threadReady || t.state.main.signals,
          t.state.main.next given t.state.threadExit result,
          if t.state.main.signals ∧ t.state.launcher = .waiting then .woken
            else t.state.launcher⟩,
        t.log ++ (t.state.main.calls given).map (⟨·, result⟩)⟩ := by
  have heq := Thelper.thelperMain_eq given t.state result
  exact congrArg₂ Traced.mk (congrArg Prod.fst heq) (congrArg (t.log ++ ·.2) heq)

theorem sound_step (t : Helper) (input : ThelperInput) (ht : t.state.Sound) :
    (t.step given input).state.Sound :=
  Thelper.sound_machine given t.state input ht

theorem sound_run (inputs : List ThelperInput) : (run (step given) start inputs).state.Sound :=
  run_invariant_all (sound_step given) Thelper.sound_init inputs

/-- With a thread in `thelper_main`. -/
def Made (t : Helper) : Prop := t.state.Sound ∧ t.state.main ≠ .absent

theorem made_step (t : Helper) (input : ThelperInput) (ht : t.Made) :
    (t.step given input).Made := by
  refine ⟨sound_step given t input ht.1, ?_⟩
  cases hinput : input.isMain with
  | true =>
      cases input with
      | main result =>
          rw [step_main]
          exact fun habsent => ht.2 ((Main.next_eq_absent ..).mp habsent)
      | _ => cases hinput
  | false =>
      rw [step_other given t hinput]
      rcases Thelper.main_other given ht.1 hinput with hmain | ⟨habsent, -⟩
      · exact hmain.symm ▸ ht.2
      · exact absurd habsent ht.2

/-- A number that `thelper_main` lowers with each of its steps. -/
theorem measure_step (measure : Main → Nat) {t : Helper}
    (hnext : ∀ result main,
      measure (main.next given t.state.threadExit result) ≤ measure main - 1)
    (input : ThelperInput) (ht : t.Made) :
    measure (t.step given input).state.main ≤ measure t.state.main - input.isMain.toNat := by
  cases hinput : input.isMain with
  | true =>
      cases input with
      | main result =>
          rw [step_main]
          exact hnext ..
      | _ => cases hinput
  | false =>
      rw [step_other given t hinput]
      rcases Thelper.main_other given ht.1 hinput with hmain | ⟨habsent, -⟩
      · exact Nat.le_of_eq (congrArg measure hmain)
      · exact absurd habsent ht.2

end Helper

end G2Common.Daemon
