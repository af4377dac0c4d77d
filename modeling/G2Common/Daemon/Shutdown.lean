import G2Common.Daemon.Responses
import G2Common.Daemon.ThreadCallbacks

/-!
The end of the server. Its thread runs under the thread helper and waits in a read of the pipe
most of the time. `loc_eng_dmn_conn_loc_api_server_unblock` sets `thread_exit` and then sends
a message on that pipe, which ends a wait, whatever else is on the pipe.
-/

namespace G2Common.Daemon

open Transition

def GPSONE_UNBLOCK : UInt8 := 0xF3

/-- The helper of the thread, and what the thread does in `loc_api_server_proc`. -/
structure LocApiServer where
  helper : Helper
  server : Server

/-- A step of the thread, a step of another thread on the helper, and the writes to the pipe.
`block` and `cmsgbuf` are what was in the memory. -/
inductive LocApiServerInput where
  | thread (block : List UInt8)
  | helper (input : ThelperInput)
  | write (frame : Frame)
  | unblockProc (cmsgbuf : CtrlMsgbuf) (written : Bool)
  deriving DecidableEq, Repr

def LocApiServerInput.isThread : LocApiServerInput → Bool
  | thread _ => true
  | _ => false

/-- `loc_eng_dmn_conn_loc_api_server_launch` gives all four callbacks. -/
def callbacks : ThreadProc → Bool := fun _ => true

/-- What `loc_api_server_proc` returns after a read, unless it goes on. -/
def procReturned (s s' : Server) : Option Int :=
  if s'.threadExit then some (-1)
  else if s.served.length < s'.served.length then some 0
  else none

namespace LocApiServer

def start : LocApiServer := ⟨Helper.start, Daemon.start⟩

/-- The next step of the thread. `loc_api_server_proc_init`, `loc_api_server_proc_pre` and
`loc_api_server_proc_post` return 0. -/
def thread (s : LocApiServer) (block : List UInt8) : LocApiServer :=
  match s.helper.state.main with
  | .proc =>
      let server := Daemon.step s.server (.read block)
      match procReturned s.server server with
      | some result => ⟨s.helper.step callbacks (.main result), server⟩
      | none => ⟨s.helper, server⟩
  | _ => ⟨s.helper.step callbacks (.main 0), s.server⟩

/-- `loc_eng_dmn_conn_unblock_proc` -/
def unblockProc (s : LocApiServer) (cmsgbuf : CtrlMsgbuf) (written : Bool) : LocApiServer :=
  let cmsgbuf := { cmsgbuf with ctrl_type := GPSONE_UNBLOCK }
  if written then ⟨s.helper, Daemon.step s.server (.write cmsgbuf.msgsnd)⟩ else s

def step (s : LocApiServer) : LocApiServerInput → LocApiServer
  | .thread block => s.thread block
  | .helper input => if input.isMain then s else ⟨s.helper.step callbacks input, s.server⟩
  | .write frame => ⟨s.helper, Daemon.step s.server (.write frame)⟩
  | .unblockProc cmsgbuf written => s.unblockProc cmsgbuf written

end LocApiServer

/-- What a read can come to, with what the task returns then. -/
inductive TaskRead (s : Server) : Server → Option Int → Prop
  | blocked (hblocked : Blocked s) : TaskRead s s none
  | failed {s'} (hexit : s'.threadExit = true) (hserved : s'.served = s.served) :
      TaskRead s s' (some (-1))
  | sized {s'} (hrunning : s'.threadExit = false) (hserved : s'.served = s.served)
      (hphase : s.phase = .size) (hphase' : s'.phase ≠ .size)
      (htaken : s'.phase.taken ++ s'.pipe = s.phase.taken ++ s.pipe) : TaskRead s s' none
  | served {s'} (hrunning : s'.threadExit = false)
      (hserved : s'.served.length = s.served.length + 1) : TaskRead s s' (some 0)

theorem taskRead {s : Server} (hs : Sized s) (hrunning : s.threadExit = false)
    (block : List UInt8) :
    TaskRead s (step s (.read block)) (procReturned s (step s (.read block))) := by
  have hreads := reads hs block
  have hnot : ¬s.threadExit = true := by
    rw [hrunning]
    exact Bool.false_ne_true
  generalize step s (.read block) = s' at hreads
  cases hreads with
  | blocked hblocked =>
      rw [procReturned, if_neg hnot, if_neg (Nat.lt_irrefl _)]
      exact .blocked hblocked
  | failed => exact .failed rfl rfl
  | sized hphase hpipe hsize =>
      rw [procReturned, if_neg hnot, if_neg (Nat.lt_irrefl _)]
      refine .sized hrunning rfl hphase (by simp) ?_
      rw [hphase, ← hpipe]
      rfl
  | @served block size bytes pipe x hphase =>
      have hlength : (s.served ++ [x]).length = s.served.length + 1 := by
        rw [List.length_append, List.length_singleton]
      rw [procReturned, if_neg hnot, if_pos (hlength ▸ Nat.lt_succ_self _)]
      exact .served hrunning hlength

/-- A read with bytes in the pipe comes back. -/
theorem not_blocked {s : Server} (hs : Sized s) (hrunning : s.threadExit = false)
    (hbytes : sizeofMsgsz < (s.phase.taken ++ s.pipe).length) : ¬Blocked s := by
  intro hblocked
  cases hphase : s.phase with
  | size =>
      rw [hphase, pipe_of_blocked hblocked hrunning hphase] at hbytes
      exact Nat.not_lt_zero _ hbytes
  | rest block size =>
      obtain ⟨-, hpipe⟩ := rest_of_blocked hblocked hrunning hphase
      rw [hphase, hpipe, Phase.taken, List.append_nil, (hs block size hphase).1] at hbytes
      exact Nat.lt_irrefl _ hbytes

def ProcCall.isPost (call : ProcCall) : Bool := call.proc = .post

/-- The step of `thelper_main` that leads to its end, as the only one that calls `post`. -/
theorem countP_post (main : Main) (threadExit : Bool) {result : Int}
    (hresult : main = .proc ∨ result = 0) (haborted : main.aborted = false) :
    ((main.calls callbacks).map (⟨·, result⟩)).countP ProcCall.isPost +
        (if main = .ended then 1 else 0) =
      (if main.next callbacks threadExit result = .ended then 1 else 0) := by
  cases main with
  | init | pre =>
      cases hresult.resolve_left (by simp)
      rfl
  | proc =>
      rw [Main.next]
      cases callbacks .proc && decide (result < 0)
      all_goals rfl
  | loop =>
      cases threadExit
      all_goals rfl
  | refused | refusing | preFailed => cases haborted
  | _ => rfl

theorem aborted_next (main : Main) (threadExit : Bool) {result : Int}
    (hresult : main = .proc ∨ result = 0) (haborted : main.aborted = false) :
    (main.next callbacks threadExit result).aborted = false := by
  cases main with
  | init | pre =>
      cases hresult.resolve_left (by simp)
      rfl
  | proc | loop =>
      rw [Main.next]
      split
      all_goals rfl
  | refused | refusing | preFailed => cases haborted
  | _ => rfl

namespace LocApiServer

/-- What all steps of the helper keep. -/
theorem step_helper (keeps : Helper → Prop)
    (hkeeps : ∀ helper input, keeps helper → keeps (helper.step callbacks input))
    (s : LocApiServer) (input : LocApiServerInput) (hs : keeps s.helper) :
    keeps (s.step input).helper := by
  cases input with
  | thread block =>
      rw [step, thread]
      split
      case h_1 =>
        dsimp only
        split
        · exact hkeeps s.helper _ hs
        · exact hs
      case h_2 => exact hkeeps s.helper _ hs
  | helper input =>
      rw [step]
      split
      · exact hs
      · exact hkeeps s.helper input hs
  | write frame => exact hs
  | unblockProc cmsgbuf written =>
      cases written with
      | true => exact hs
      | false => exact hs

/-- The thread called `post` at its end, and it has left the loop where a call of the task has
failed. -/
structure Consistent (s : LocApiServer) : Prop where
  sound : s.helper.state.Sound
  conserved : Conserved s.server
  aborted : s.helper.state.main.aborted = false
  posted : s.helper.log.countP ProcCall.isPost = if s.helper.state.main = .ended then 1 else 0
  failed : s.server.threadExit = true → s.helper.state.main.toTask = 0 ∧
    (s.helper.state.main = .procFailed ∨ s.helper.state.threadExit = true)

theorem consistent_start : Consistent start :=
  ⟨Thelper.sound_init, conserved_start, rfl, rfl, fun h => by cases h⟩

section Step

variable {s : LocApiServer}

theorem thread_other (h : s.helper.state.main ≠ .proc) (block : List UInt8) :
    s.thread block = ⟨s.helper.step callbacks (.main 0), s.server⟩ := by
  rw [thread]
  split
  case h_1 hproc => exact absurd hproc h
  case h_2 => rfl

theorem Consistent.running (hs : s.Consistent) (hproc : s.helper.state.main.toTask = 1) :
    s.server.threadExit = false := by
  cases hexit : s.server.threadExit with
  | false => rfl
  | true =>
      rw [(hs.failed hexit).1] at hproc
      cases hproc

/-- What the thread can do in the task. -/
inductive Turn (s : LocApiServer) : LocApiServer → Prop
  | blocked (hblocked : Blocked s.server) : Turn s s
  | failed {server} (hexit : server.threadExit = true)
      (hserved : server.served = s.server.served) :
      Turn s ⟨s.helper.step callbacks (.main (-1)), server⟩
  | sized {server} (hrunning : server.threadExit = false)
      (hserved : server.served = s.server.served) (hphase : s.server.phase = .size)
      (hphase' : server.phase ≠ .size)
      (htaken : server.phase.taken ++ server.pipe = s.server.phase.taken ++ s.server.pipe) :
      Turn s ⟨s.helper, server⟩
  | served {server} (hrunning : server.threadExit = false)
      (hserved : server.served.length = s.server.served.length + 1) :
      Turn s ⟨s.helper.step callbacks (.main 0), server⟩

theorem turn (hs : s.Consistent) (hproc : s.helper.state.main = .proc) (block : List UInt8) :
    Turn s (s.thread block) ∧ Conserved (s.thread block).server := by
  have hrunning : s.server.threadExit = false := hs.running (by rw [hproc]; rfl)
  have hread := taskRead hs.conserved.sized hrunning block
  have hconserved := conserved_step s.server (.read block) hs.conserved
  have hthread : s.thread block =
      match procReturned s.server (Daemon.step s.server (.read block)) with
      | some result =>
          ⟨s.helper.step callbacks (.main result), Daemon.step s.server (.read block)⟩
      | none => ⟨s.helper, Daemon.step s.server (.read block)⟩ := by
    rw [thread, hproc]
  rw [hthread]
  generalize procReturned s.server (Daemon.step s.server (.read block)) = result at hread
  generalize Daemon.step s.server (.read block) = server at hread hconserved
  cases hread with
  | blocked hblocked => exact ⟨.blocked hblocked, hconserved⟩
  | failed hexit hserved => exact ⟨.failed hexit hserved, hconserved⟩
  | sized hrunning hserved hphase hphase' htaken =>
      exact ⟨.sized hrunning hserved hphase hphase' htaken, hconserved⟩
  | served hrunning hserved => exact ⟨.served hrunning hserved, hconserved⟩

theorem Consistent.main (hs : s.Consistent) {result : Int} {server : Server}
    (hresult : s.helper.state.main = .proc ∨ result = 0) (hserver : Conserved server)
    (hfailed : server.threadExit = true →
      (s.helper.state.main.next callbacks s.helper.state.threadExit result).toTask = 0 ∧
        (s.helper.state.main.next callbacks s.helper.state.threadExit result = .procFailed ∨
          (s.helper.state.threadExit || s.helper.state.main.setsExit) = true)) :
    Consistent ⟨s.helper.step callbacks (.main result), server⟩ := by
  have hsound := Helper.sound_step callbacks s.helper (.main result) hs.sound
  rw [Helper.step_main] at hsound ⊢
  refine ⟨hsound, hserver, aborted_next _ _ hresult hs.aborted, ?_, hfailed⟩
  rw [← countP_post _ s.helper.state.threadExit hresult hs.aborted, List.countP_append, hs.posted,
    Nat.add_comm]

theorem consistent_thread (hs : s.Consistent) (block : List UInt8) :
    (s.thread block).Consistent := by
  by_cases hproc : s.helper.state.main = .proc
  · obtain ⟨hturn, hconserved⟩ := turn hs hproc block
    generalize s.thread block = s' at hturn hconserved
    cases hturn with
    | blocked => exact hs
    | failed hexit =>
        refine hs.main (.inl hproc) hconserved fun _ => ?_
        rw [hproc]
        exact ⟨rfl, .inl rfl⟩
    | sized hrunning =>
        exact ⟨hs.sound, hconserved, hs.aborted, hs.posted, fun h => by simp [hrunning] at h⟩
    | served hrunning =>
        exact hs.main (.inl hproc) hconserved fun h => by simp [hrunning] at h
  · rw [thread_other hproc]
    refine hs.main (.inr rfl) hs.conserved fun hexit => ?_
    obtain ⟨htask, hmain | hstopped⟩ := hs.failed hexit
    · rw [hmain]
      exact ⟨rfl, .inr (Bool.or_true _)⟩
    · have hnext := Helper.toTask_next callbacks 0 s.helper.state.main
      rw [htask] at hnext
      rw [hstopped]
      exact ⟨by omega, .inr rfl⟩

theorem consistent_helper (hs : s.Consistent) {input : ThelperInput}
    (hinput : input.isMain = false) :
    Consistent ⟨s.helper.step callbacks input, s.server⟩ := by
  have hsound := Helper.sound_step callbacks s.helper input hs.sound
  have hmain := Thelper.main_other callbacks hs.sound hinput
  have hexit := Thelper.threadExit_machine callbacks s.helper.state input
  rw [Helper.step_other callbacks s.helper hinput] at hsound ⊢
  rcases hmain with hmain | ⟨habsent, hinit⟩
  · refine ⟨hsound, hs.conserved, hmain ▸ hs.aborted, hmain ▸ hs.posted, fun h => ?_⟩
    obtain ⟨htask, hfailed⟩ := hs.failed h
    exact ⟨hmain ▸ htask, hfailed.imp (hmain ▸ ·) hexit⟩
  · refine ⟨hsound, hs.conserved, by simp only [hinit]; rfl, ?_, fun h => ?_⟩
    · have hposted := hs.posted
      rw [habsent] at hposted
      simp only [hinit]
      exact hposted
    · have htask := (hs.failed h).1
      rw [habsent] at htask
      cases htask

theorem consistent_write (hs : s.Consistent) (frame : Frame) :
    Consistent ⟨s.helper, Daemon.step s.server (.write frame)⟩ :=
  ⟨hs.sound, conserved_step s.server (.write frame) hs.conserved, hs.aborted, hs.posted, hs.failed⟩

end Step

theorem consistent_step (s : LocApiServer) (input : LocApiServerInput) (hs : s.Consistent) :
    (s.step input).Consistent := by
  cases input with
  | thread block => exact consistent_thread hs block
  | helper input =>
      rw [step]
      cases hinput : input.isMain with
      | true => exact hs
      | false => exact consistent_helper hs hinput
  | write frame => exact consistent_write hs frame
  | unblockProc cmsgbuf written =>
      cases written with
      | true => exact consistent_write hs _
      | false => exact hs

/-- The messages that the thread has received, and the one that it may still receive. -/
def servedAtMost (s : LocApiServer) : Nat := s.server.served.length + s.helper.state.main.toTask

structure Exiting (s : LocApiServer) : Prop where
  consistent : s.Consistent
  exit : s.helper.state.threadExit = true

/-- The steps of the thread that are left, with one more where it has not begun to read. -/
def toStop (s : LocApiServer) : Nat :=
  s.helper.state.main.toEnd +
    if s.helper.state.main.toTask = 1 ∧ s.server.phase = .size then 1 else 0

theorem toStop_le (s : LocApiServer) : s.toStop ≤ 8 := by
  have hend := Helper.toEnd_le s.helper.state.main
  rw [toStop]
  split
  all_goals omega

/-- The thread is there and is to end, and where its task is still to come there are bytes for
it. -/
structure Stopping (s : LocApiServer) : Prop where
  exiting : s.Exiting
  made : s.helper.state.main ≠ .absent
  bytes : s.helper.state.main.toTask = 1 →
    sizeofMsgsz < (s.server.phase.taken ++ s.server.pipe).length

section Exiting

variable {s : LocApiServer}

theorem exit_step (s : LocApiServer) (input : LocApiServerInput)
    (hexit : s.helper.state.threadExit = true) :
    (s.step input).helper.state.threadExit = true :=
  step_helper (fun helper => helper.state.threadExit = true)
    (fun helper => Thelper.threadExit_machine callbacks helper.state) s input hexit

theorem exiting_step (s : LocApiServer) (input : LocApiServerInput) (hs : s.Exiting) :
    (s.step input).Exiting :=
  ⟨consistent_step s input hs.consistent, exit_step s input hs.exit⟩

theorem main_step (hs : s.Exiting) (result : Int) :
    (s.helper.step callbacks (.main result)).state.main =
      s.helper.state.main.next callbacks true result := by
  rw [Helper.step_main, hs.exit]

/-- A step of another thread on the helper. -/
theorem main_helper (hs : s.Exiting) {input : ThelperInput} (hinput : input.isMain = false) :
    (s.helper.step callbacks input).state.main = s.helper.state.main ∨
      s.helper.state.main = .absent ∧ (s.helper.step callbacks input).state.main = .init := by
  rw [Helper.step_other callbacks s.helper hinput]
  exact Thelper.main_other callbacks hs.consistent.sound hinput

theorem servedAtMost_step (s : LocApiServer) (input : LocApiServerInput) (hs : s.Exiting) :
    (s.step input).servedAtMost ≤ s.servedAtMost := by
  have hnext (result : Int) := Helper.toTask_next callbacks result s.helper.state.main
  cases input with
  | thread block =>
      change (s.thread block).servedAtMost ≤ _
      by_cases hproc : s.helper.state.main = .proc
      · obtain ⟨hturn, -⟩ := turn hs.consistent hproc block
        generalize s.thread block = s' at hturn
        cases hturn with
        | blocked => exact Nat.le_refl _
        | failed hexit hserved =>
            have := hnext (-1)
            rw [servedAtMost, servedAtMost, main_step hs, hserved]
            omega
        | sized hrunning hserved =>
            rw [servedAtMost, hserved]
            exact Nat.le_refl _
        | served hrunning hserved =>
            have := hnext 0
            rw [if_pos hproc] at this
            rw [servedAtMost, servedAtMost, main_step hs, hserved]
            omega
      · have := hnext 0
        rw [thread_other hproc, servedAtMost, servedAtMost, main_step hs]
        dsimp only
        omega
  | helper input =>
      rw [step]
      cases hinput : input.isMain with
      | true => exact Nat.le_refl _
      | false =>
          rw [servedAtMost, servedAtMost]
          rcases main_helper hs hinput with hmain | ⟨habsent, hinit⟩
          · exact Nat.le_of_eq (congrArg (_ + ·.toTask) hmain)
          · rw [habsent]
            exact Nat.le_of_eq (congrArg (_ + ·.toTask) hinit)
  | write frame => exact Nat.le_refl _
  | unblockProc cmsgbuf written =>
      cases written with
      | true => exact Nat.le_refl _
      | false => exact Nat.le_refl _

end Exiting

section Stopping

variable {s : LocApiServer}

/-- A step of `thelper_main` with what is left of the pipe. -/
theorem Stopping.main (hs : s.Stopping) (result : Int) {server : Server}
    (hstep : (s.helper.step callbacks (.main result)).state.main.toTask = 1 →
      s.helper.state.main.toTask = 1 ∧ server = s.server)
    (hexiting : Exiting ⟨s.helper.step callbacks (.main result), server⟩)
    (hmain : s.helper.state.main ≠ .ended) :
    Stopping ⟨s.helper.step callbacks (.main result), server⟩ ∧
      toStop ⟨s.helper.step callbacks (.main result), server⟩ ≤ s.toStop - 1 := by
  have hend := Main.toEnd_next callbacks true result s.helper.state.main rfl
  have hpositive : s.helper.state.main.toEnd ≠ 0 := fun h =>
    hmain (Helper.ended_of_toEnd hs.made h)
  rw [← main_step hs.exiting] at hend
  refine ⟨⟨hexiting, ?_, fun htask => ?_⟩, ?_⟩
  · change (s.helper.step callbacks (.main result)).state.main ≠ .absent
    rw [main_step hs.exiting]
    exact fun habsent => hs.made ((Main.next_eq_absent ..).mp habsent)
  · obtain ⟨hbefore, rfl⟩ := hstep htask
    exact hs.bytes hbefore
  · rw [toStop, toStop]
    dsimp only
    split
    case isTrue h =>
      obtain ⟨hbefore, rfl⟩ := hstep h.1
      rw [if_pos ⟨hbefore, h.2⟩]
      omega
    case isFalse => omega

theorem stopping_thread (hs : s.Stopping) (block : List UInt8) :
    (s.thread block).Stopping ∧ (s.thread block).toStop ≤ s.toStop - 1 := by
  have hexiting : (s.thread block).Exiting := exiting_step s (.thread block) hs.exiting
  by_cases hproc : s.helper.state.main = .proc
  · have htask : s.helper.state.main.toTask = 1 := by rw [hproc]; rfl
    have hne : s.helper.state.main ≠ .ended := by simp [hproc]
    obtain ⟨hturn, -⟩ := turn hs.exiting.consistent hproc block
    generalize s.thread block = s' at hturn hexiting
    cases hturn with
    | blocked hblocked =>
        exact absurd hblocked (not_blocked hs.exiting.consistent.conserved.sized
          (hs.exiting.consistent.running htask) (hs.bytes htask))
    | failed =>
        refine hs.main (-1) (fun h => ?_) hexiting hne
        rw [main_step hs.exiting, hproc] at h
        cases h
    | sized hrunning hserved hphase hphase' htaken =>
        refine ⟨⟨hexiting, hs.made, fun _ => htaken ▸ hs.bytes htask⟩, ?_⟩
        rw [toStop, toStop, if_neg fun h => hphase' h.2, if_pos ⟨htask, hphase⟩]
        exact Nat.le_refl _
    | served =>
        refine hs.main 0 (fun h => ?_) hexiting hne
        rw [main_step hs.exiting, hproc] at h
        cases h
  · rw [thread_other hproc] at hexiting ⊢
    by_cases hended : s.helper.state.main = .ended
    · have hstep : (s.helper.step callbacks (.main 0)).state.main = s.helper.state.main := by
        rw [main_step hs.exiting, hended]
        rfl
      refine ⟨⟨hexiting, hstep ▸ hs.made, hstep ▸ hs.bytes⟩, ?_⟩
      rw [toStop, hstep, hended]
      exact Nat.zero_le _
    · refine hs.main 0 (fun h => ⟨?_, rfl⟩) hexiting hended
      have hnext := Helper.toTask_next callbacks 0 s.helper.state.main
      have hle := Helper.toTask_le s.helper.state.main
      rw [main_step hs.exiting] at h
      omega

theorem stopping_write (hs : s.Stopping) (frame : Frame) :
    Stopping ⟨s.helper, Daemon.step s.server (.write frame)⟩ ∧
      toStop ⟨s.helper, Daemon.step s.server (.write frame)⟩ = s.toStop := by
  refine ⟨⟨exiting_step s (.write frame) hs.exiting, hs.made, fun htask => ?_⟩, rfl⟩
  have hbytes := hs.bytes htask
  change _ < (s.server.phase.taken ++ (s.server.pipe ++ frame.bytes)).length
  rw [← List.append_assoc, List.length_append]
  omega

theorem stopping_step (s : LocApiServer) (input : LocApiServerInput) (hs : s.Stopping) :
    (s.step input).Stopping ∧ (s.step input).toStop ≤ s.toStop - input.isThread.toNat := by
  cases input with
  | thread block => exact stopping_thread hs block
  | helper input =>
      have hexiting := exiting_step s (.helper input) hs.exiting
      rw [step] at hexiting ⊢
      cases hinput : input.isMain with
      | true => exact ⟨hs, Nat.le_refl _⟩
      | false =>
          have hmain := (main_helper hs.exiting hinput).resolve_right fun h => hs.made h.1
          rw [hinput, if_neg Bool.false_ne_true] at hexiting
          rw [if_neg Bool.false_ne_true]
          refine ⟨⟨hexiting, hmain ▸ hs.made, hmain ▸ hs.bytes⟩, ?_⟩
          rw [toStop, toStop, hmain]
          exact Nat.le_refl _
  | write frame =>
      obtain ⟨hstopping, hstop⟩ := stopping_write hs frame
      exact ⟨hstopping, Nat.le_of_eq hstop⟩
  | unblockProc cmsgbuf written =>
      cases written with
      | true =>
          obtain ⟨hstopping, hstop⟩ := stopping_write hs
            { cmsgbuf with ctrl_type := GPSONE_UNBLOCK }.msgsnd
          exact ⟨hstopping, Nat.le_of_eq hstop⟩
      | false => exact ⟨hs, Nat.le_refl _⟩

end Stopping

section Runs

/-- The message is long enough for both reads. -/
theorem stopping_unblockProc {s : LocApiServer} (hs : s.Exiting)
    (hmade : s.helper.state.main ≠ .absent) (cmsgbuf : CtrlMsgbuf) :
    (s.unblockProc cmsgbuf true).Stopping := by
  refine ⟨exiting_step s (.unblockProc cmsgbuf true) hs, hmade, fun _ => ?_⟩
  change _ < (s.server.phase.taken ++ (s.server.pipe ++ (CtrlMsgbuf.bytes _))).length
  rw [List.length_append, List.length_append, CtrlMsgbuf.length_bytes]
  simp only [sizeofMsgsz, sizeofCtrlMsgbuf]
  omega

theorem made_step (s : LocApiServer) (input : LocApiServerInput)
    (hs : s.Exiting ∧ s.helper.state.main ≠ .absent) :
    (s.step input).Exiting ∧ (s.step input).helper.state.main ≠ .absent := by
  have hmade := step_helper (fun helper => helper.state.Sound ∧ helper.state.main ≠ .absent)
    (Helper.made_step callbacks) s input ⟨hs.1.consistent.sound, hs.2⟩
  exact ⟨exiting_step s input hs.1, hmade.2⟩

end Runs

end LocApiServer

open LocApiServer in
/-- Once `thread_exit` is set and the message is on the pipe, eight steps of the thread end it,
wherever it is and whatever else is written and done. It receives one message more at most, and
it calls `loc_api_server_proc_post` exactly once. -/
theorem unblock_stops {before middle after : List LocApiServerInput} (cmsgbuf : CtrlMsgbuf)
    (hmade : (run LocApiServer.step .start before).helper.state.main ≠ .absent)
    (hthread : 8 ≤ after.countP LocApiServerInput.isThread) :
    let s := run LocApiServer.step .start (before ++ [.helper .unblock])
    let t := run LocApiServer.step s (middle ++ .unblockProc cmsgbuf true :: after)
    t.helper.state.main = .ended ∧
      t.helper.log.countP ProcCall.isPost = 1 ∧
      t.server.served.length ≤ s.server.served.length + 1 := by
  intro s t
  have hs : s.Exiting ∧ s.helper.state.main ≠ .absent := by
    have hconsistent : (run LocApiServer.step .start before).Consistent :=
      run_invariant_all consistent_step consistent_start before
    have hunblock : s = (run LocApiServer.step .start before).step (.helper .unblock) :=
      run_append ..
    rw [hunblock]
    exact ⟨⟨consistent_step _ (.helper .unblock) hconsistent, rfl⟩, hmade⟩
  have hmiddle : (run LocApiServer.step s middle).Exiting ∧ _ :=
    run_invariant_all made_step hs middle
  have hsent := stopping_unblockProc hmiddle.1 hmiddle.2 cmsgbuf
  have hrun : t = run LocApiServer.step
      ((run LocApiServer.step s middle).unblockProc cmsgbuf true) after :=
    run_append ..
  have hstop : t.Stopping := hrun ▸
    run_invariant_all (fun s input hs => (stopping_step s input hs).1) hsent after
  have hleft : t.toStop ≤ _ := hrun ▸ run_measure_le LocApiServerInput.isThread toStop
    (fun s input hs => (stopping_step s input hs).1)
    (fun s input hs => (stopping_step s input hs).2) hsent after
  have hserved : t.servedAtMost ≤ s.servedAtMost - 0 :=
    (run_measure_le (fun _ => false) servedAtMost exiting_step servedAtMost_step hs.1 _).trans
      (Nat.sub_le_sub_left (Nat.zero_le _) _)
  have hle := toStop_le ((run LocApiServer.step s middle).unblockProc cmsgbuf true)
  have htask := Helper.toTask_le s.helper.state.main
  have hended : t.helper.state.main = .ended := by
    apply Helper.ended_of_toEnd hstop.made
    rw [toStop] at hleft
    omega
  refine ⟨hended, ?_, ?_⟩
  · rw [hstop.exiting.consistent.posted, if_pos hended]
  · rw [servedAtMost, servedAtMost] at hserved
    omega

/-- The thread waits with the size of a message read when it is unblocked. -/
theorem unblock_stops_short :
    let cmsgbuf : CtrlMsgbuf := ⟨0, .replicate 8 1, 2, .replicate 3 3, 4, .replicate 92 5⟩
    let before : List LocApiServerInput :=
      [.helper (.create true true), .thread [], .thread [], .write requestFrame, .thread []]
    let s := run LocApiServer.step .start (before ++ [.helper .unblock])
    let t := run LocApiServer.step s
      ([.thread []] ++ .unblockProc cmsgbuf true :: List.replicate 8 (.thread []))
    t.helper.state.main = .ended ∧
      t.helper.log.countP ProcCall.isPost = 1 ∧
      t.server.served.length ≤ s.server.served.length + 1 :=
  unblock_stops _ (by decide) (by decide)

end G2Common.Daemon
