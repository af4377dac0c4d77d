import G2Common.Eng.Resume
import G2Common.Progress
import G2Common.Utils.LocTarget

/-!
The commands of the framework, on their way from `loc.cpp` through the ULP proxy of the
adapter and the queue of the message thread to the handlers of a session. The framework's
thread and the message thread share the proxy without a lock: the framework's thread fetches
it, calls it, and then sends its message, in three steps.
-/

namespace G2Common.Eng

open Transition Utils

def GPS_POSITION_MODE_MS_BASED : UInt32 := 1

def GPS_POSITION_MODE_MS_ASSISTED : UInt32 := 2

def LOC_POSITION_MODE_STANDALONE : Int := 0

def LOC_POSITION_MODE_MS_BASED : Int := 1

def LOC_POSITION_MODE_MS_ASSISTED : Int := 2

def GPS_POSITION_RECURRENCE_PERIODIC : UInt32 := 0

def MIN_POSSIBLE_FIX_INTERVAL : UInt32 := 1000

def getTargetGnssType (target : UInt32) : UInt32 := target >>> 1

/-- The constructor of `LocPosMode`, without credentials and a provider. -/
def LocPosMode.make (m : Int) (recr gap accu time : UInt32) : LocPosMode where
  mode := m
  recurrence := recr
  minInterval := if gap < MIN_POSSIBLE_FIX_INTERVAL then MIN_POSSIBLE_FIX_INTERVAL else gap
  preferredAccuracy := accu
  preferredTime := time
  credentials := Vector.replicate 14 0
  provider := Vector.replicate 8 0

/-- The calls of `sLocEngInterface` that are about the session. -/
inductive HalCall where
  | start
  | stop
  | cleanup
  | setPositionMode (mode recurrence minInterval preferredAccuracy preferredTime : UInt32)
  deriving DecidableEq, Repr

/-- What the adapter's proxy is asked for. -/
inductive Command where
  | startFix
  | stopFix
  | fixMode (params : LocPosMode)
  deriving DecidableEq, Repr

/-- The mode of `loc_set_position_mode`. -/
def locMode (mode : UInt32) : Int :=
  if mode = GPS_POSITION_MODE_MS_BASED then LOC_POSITION_MODE_MS_BASED
  else if mode = GPS_POSITION_MODE_MS_ASSISTED then LOC_POSITION_MODE_MS_ASSISTED
  else LOC_POSITION_MODE_STANDALONE

/-- The mode of `loc_eng_set_position_mode`: two kinds of targets are always standalone. -/
def targetMode (target : UInt32) (mode : Int) : Int :=
  let gnssType := getTargetGnssType target
  if (gnssType = GNSS_GSS ∨ gnssType = GNSS_QCA1530) ∧ mode ≠ LOC_POSITION_MODE_STANDALONE then
    LOC_POSITION_MODE_STANDALONE
  else mode

/-- `loc_start`, `loc_stop`, `loc_cleanup` and `loc_set_position_mode` up to the call of the
proxy. What `loc_eng_cleanup` does depends on whether the adapter is navigating. -/
def HalCall.command (target : UInt32) (navigating : Bool) : HalCall → Option Command
  | start => some .startFix
  | stop => some .stopFix
  | cleanup => if navigating then some .stopFix else none
  | setPositionMode mode recurrence minInterval preferredAccuracy preferredTime =>
      let params := LocPosMode.make (locMode mode) recurrence minInterval preferredAccuracy
        preferredTime
      some (.fixMode { params with mode := targetMode target params.mode })

/-- The state of an `UlpProxyBase`. Its functions return false, so that the engine gets the
message. -/
structure UlpProxyBase where
  mPosMode : LocPosMode
  mFixSet : Bool
  deriving DecidableEq, Repr

namespace UlpProxyBase

/-- The constructor, over that of `LocPosMode`. -/
def new : UlpProxyBase where
  mPosMode := LocPosMode.make LOC_POSITION_MODE_INVALID GPS_POSITION_RECURRENCE_PERIODIC
    MIN_POSSIBLE_FIX_INTERVAL 50 120000
  mFixSet := false

/-- `sendStartFix`, `sendStopFix` and `sendFixMode`. -/
def send (ulp : UlpProxyBase) : Command → UlpProxyBase
  | .startFix => { ulp with mFixSet := true }
  | .stopFix => { ulp with mFixSet := false }
  | .fixMode params => { ulp with mPosMode := params }

/-- What `LocEngAdapter::setUlpProxy` hands over to the new proxy. -/
def handOver (mUlp ulp : UlpProxyBase) : UlpProxyBase :=
  let ulp :=
    if mUlp.mPosMode.mode ≠ LOC_POSITION_MODE_INVALID then ulp.send (.fixMode mUlp.mPosMode)
    else ulp
  if mUlp.mFixSet then ulp.send .startFix else ulp

end UlpProxyBase

/-- The reports and requests of the modem that reach the session as messages. -/
inductive EngineEvent where
  | reportPosition (mLocation : UlpLocation) (mStatus : LocSessStatus) (mTechMask : UInt32)
  | reportStatus (mStatus : UInt16)
  | delAidData (mType : UInt16)
  | muteOneSession
  | engineDown
  | engineUp
  deriving DecidableEq, Repr

/-- A message in the queue. -/
inductive Pending where
  | command (command : Command)
  | event (event : EngineEvent)
  /-- `LocSetUlpProxy`, with the address that a `new` in it gets. -/
  | setUlpProxy (mUlp : Option Nat) (fresh : Nat)
  deriving DecidableEq, Repr

/-- Where the framework's thread is. -/
inductive Client where
  | idle
  | entered (command : Command)
  /-- It has the address of the proxy. -/
  | fetched (mUlp : Nat) (command : Command)
  /-- It has called the proxy, and is to send the message. -/
  | called (command : Command)
  deriving DecidableEq, Repr

/-- The adapter with its proxy, the queue, and the two threads. `dangling` says that the
framework's thread has called a proxy that was deleted before. -/
structure Hal where
  mUlp : Nat
  ulp : UlpProxyBase
  client : Client
  dangling : Bool
  queue : List Pending
  engine : LocEngData
  deriving DecidableEq, Repr

inductive HalInput where
  | call (call : HalCall)
  | client
  | report (event : EngineEvent)
  | setUlpProxy (mUlp : Option Nat) (fresh : Nat)
  /-- The message thread takes a message, with what the modem returns to its handler. -/
  | msgTask (ret : LocApiAdapterErr)
  deriving DecidableEq, Repr

/-- The message of a command, with the answer of the modem. -/
def Command.msg (ret : LocApiAdapterErr) : Command → Msg
  | startFix => .startFix ret
  | stopFix => .stopFix ret
  | fixMode params => .positionMode params

def EngineEvent.msg (ret : LocApiAdapterErr) : EngineEvent → Msg
  | reportPosition mLocation mStatus mTechMask => .reportPosition mLocation mStatus mTechMask
  | reportStatus mStatus => .reportStatus mStatus
  | delAidData mType => .delAidData mType
  | muteOneSession => .muteOneSession
  | engineDown => .engineDown
  | engineUp => .engineUp ret

namespace Hal

/-- The next step of the framework's thread inside of a call. -/
def clientStep (s : Hal) : Hal :=
  match s.client with
  | .idle => s
  | .entered command => { s with client := .fetched s.mUlp command }
  | .fetched mUlp command =>
      if mUlp = s.mUlp then { s with ulp := s.ulp.send command, client := .called command }
      else { s with dangling := true, client := .called command }
  | .called command => { s with client := .idle, queue := s.queue ++ [.command command] }

/-- `LocEngAdapter::setUlpProxy`. A proxy that is set is new. -/
def setUlpProxy (s : Hal) (ulp : Option Nat) (fresh : Nat) : Hal :=
  if ulp = some s.mUlp then s
  else { s with mUlp := ulp.getD fresh, ulp := s.ulp.handOver .new }

/-- The message thread. -/
def msgTask (s : Hal) (ret : LocApiAdapterErr) : Hal × List Call :=
  match s.queue with
  | [] => (s, [])
  | .command command :: queue =>
      ({ s with queue := queue, engine := (proc s.engine (command.msg ret)).1 },
        (proc s.engine (command.msg ret)).2)
  | .event event :: queue =>
      ({ s with queue := queue, engine := (proc s.engine (event.msg ret)).1 },
        (proc s.engine (event.msg ret)).2)
  | .setUlpProxy ulp fresh :: queue => ({ s with queue := queue }.setUlpProxy ulp fresh, [])

/-- The command of a call that the framework makes now. -/
def taken (s : Hal) (target : UInt32) (call : HalCall) : Option Command :=
  match s.client with
  | .idle => call.command target s.engine.adapter.mNavigating
  | _ => none

/-- A call of the framework, on a target. -/
def call (s : Hal) (target : UInt32) (call : HalCall) : Hal :=
  match s.taken target call with
  | some command => { s with client := .entered command }
  | none => s

def machine (target : UInt32) (s : Hal) : HalInput → Hal × List Call
  | .call call => (s.call target call, [])
  | .client => (s.clientStep, [])
  | .report event => ({ s with queue := s.queue ++ [.event event] }, [])
  | .setUlpProxy mUlp fresh => ({ s with queue := s.queue ++ [.setUlpProxy mUlp fresh] }, [])
  | .msgTask ret => s.msgTask ret

end Hal

/-- The location engine with the framework, and the calls that were made. -/
abbrev HalEngine := Traced Hal Call

def halStep (target : UInt32) : HalEngine → HalInput → HalEngine :=
  Traced.step (Hal.machine target)

/-- After `loc_eng_init`, as `start` has it. -/
def halStart (locationCb statusCb : Bool) (intermediateFix : UInt8) (generateNmea : Bool)
    (accuracyThres : UInt32) : HalEngine :=
  ⟨⟨0, .new, .idle, false, [],
    .init locationCb statusCb intermediateFix generateNmea accuracyThres⟩, []⟩

/-- The command that a call of the framework starts. -/
def taken (target : UInt32) (t : HalEngine) : HalInput → List Command
  | .call call => (t.state.taken target call).toList
  | _ => []

/-- All commands of a run, in their order. -/
def commands (target : UInt32) : HalEngine → List HalInput → List Command :=
  contributions (halStep target) (taken target)

/-- Whether a fix is set, after a command. -/
def Command.fixSet (set : Bool) : Command → Bool
  | startFix => true
  | stopFix => false
  | fixMode _ => set

/-- The command of a message. -/
def Pending.command? : Pending → Option Command
  | command c => some c
  | _ => none

/-- The command inside of a call. -/
def Client.commands : Client → List Command
  | idle => []
  | entered c | fetched _ c | called c => [c]

/-- The commands that did not reach the session yet. -/
def Hal.commands (s : Hal) : List Command :=
  s.queue.filterMap Pending.command? ++ s.client.commands

/-- The answers to a start with which the session begins. -/
def Begins (ret : LocApiAdapterErr) : Prop :=
  ret = .success ∨ ret = .phoneOffline ∨ ret = .internal

instance (ret : LocApiAdapterErr) : Decidable (Begins ret) :=
  inferInstanceAs (Decidable (_ ∨ _))

namespace LocEngData

variable {s : LocEngData} {ret : LocApiAdapterErr}

theorem adapter_reportStatus (s : LocEngData) (status : UInt16) :
    (s.reportStatus status).1.adapter = s.adapter := rfl

theorem mNavigating_startHandler (hret : Begins ret) :
    (s.startHandler ret).1.adapter.mNavigating = true := by
  rw [startHandler]
  split
  case isTrue h => exact h
  case isFalse =>
    split
    case isTrue => rfl
    case isFalse hrefused => exact absurd hret hrefused

theorem mFixCriteria_startHandler (s : LocEngData) (ret : LocApiAdapterErr) :
    (s.startHandler ret).1.adapter.mFixCriteria = s.adapter.mFixCriteria := by
  rw [startHandler]
  split
  case isTrue => rfl
  case isFalse =>
    split
    all_goals rfl

theorem mNavigating_stopHandler (s : LocEngData) (ret : LocApiAdapterErr) :
    (s.stopHandler ret).1.adapter.mNavigating = false := by
  rw [stopHandler]
  split
  case isTrue => rfl
  case isFalse h => exact Bool.eq_false_iff.mpr h

/-- A report ends no session but one of a single fix. -/
theorem adapter_reportPosition (hrecurrence : s.adapter.mFixCriteria.recurrence ≠
    GPS_POSITION_RECURRENCE_SINGLE) (mLocation : UlpLocation) (mStatus : LocSessStatus)
    (mTechMask : UInt32) :
    (s.reportPosition mLocation mStatus mTechMask).1.adapter = s.adapter := by
  rw [reportPosition]
  split
  case isTrue => simp [hrecurrence]
  case isFalse => rfl

theorem mNavigating_handleEngineUp (hret : Begins ret) :
    (s.handleEngineUp ret).1.adapter.mNavigating = s.adapter.mNavigating := by
  unfold handleEngineUp
  dsimp only
  split
  case isTrue hnavigating =>
    rw [adapter_reportStatus] at hnavigating
    exact (mNavigating_startHandler hret).trans hnavigating.symm
  case isFalse => rfl

theorem recurrence_proc (s : LocEngData) {msg : Msg} (hmsg : msg.isPositionMode = false) :
    (proc s msg).1.adapter.mFixCriteria.recurrence = s.adapter.mFixCriteria.recurrence := by
  have hkept := congrArg LocPosMode.recurrence (withoutMode_proc s hmsg)
  exact hkept

end LocEngData

/-- The messages that are not commands leave the session as it is. -/
theorem mNavigating_event {s : LocEngData} {ret : LocApiAdapterErr} (hret : Begins ret)
    (hrecurrence : s.adapter.mFixCriteria.recurrence ≠ GPS_POSITION_RECURRENCE_SINGLE)
    (event : EngineEvent) :
    (proc s (event.msg ret)).1.adapter.mNavigating = s.adapter.mNavigating := by
  cases event with
  | reportPosition mLocation mStatus mTechMask =>
      have hadapter := LocEngData.adapter_reportPosition hrecurrence mLocation mStatus mTechMask
      exact congrArg LocEngAdapter.mNavigating hadapter
  | reportStatus mStatus =>
      have hadapter : (proc s (.reportStatus mStatus)).1.adapter = s.adapter :=
        LocEngData.adapter_updateAidingDataForDeletion _
      exact congrArg LocEngAdapter.mNavigating hadapter
  | delAidData mType =>
      have hadapter : (proc s (.delAidData mType)).1.adapter = s.adapter :=
        LocEngData.adapter_updateAidingDataForDeletion _
      exact congrArg LocEngAdapter.mNavigating hadapter
  | muteOneSession | engineDown => rfl
  | engineUp => exact LocEngData.mNavigating_handleEngineUp hret

theorem recurrence_event (s : LocEngData) (ret : LocApiAdapterErr) (event : EngineEvent) :
    (proc s (event.msg ret)).1.adapter.mFixCriteria.recurrence =
      s.adapter.mFixCriteria.recurrence := by
  apply LocEngData.recurrence_proc
  cases event
  all_goals rfl

/-- A command that reaches the session leaves it as the command says. -/
theorem mNavigating_command {ret : LocApiAdapterErr} (hret : Begins ret) (s : LocEngData)
    (command : Command) :
    (proc s (command.msg ret)).1.adapter.mNavigating =
      command.fixSet s.adapter.mNavigating := by
  cases command with
  | startFix => exact LocEngData.mNavigating_startHandler hret
  | stopFix => exact LocEngData.mNavigating_stopHandler s ret
  | fixMode params => rfl

/-- No command that asks for a single fix. -/
def Periodic : Command → Prop
  | .fixMode params => params.recurrence ≠ GPS_POSITION_RECURRENCE_SINGLE
  | _ => True

theorem recurrence_command {s : LocEngData} {command : Command} (hperiodic : Periodic command)
    (hrecurrence : s.adapter.mFixCriteria.recurrence ≠ GPS_POSITION_RECURRENCE_SINGLE)
    (ret : LocApiAdapterErr) :
    (proc s (command.msg ret)).1.adapter.mFixCriteria.recurrence ≠
      GPS_POSITION_RECURRENCE_SINGLE := by
  cases command with
  | startFix =>
      rw [LocEngData.recurrence_proc s rfl]
      exact hrecurrence
  | stopFix =>
      rw [LocEngData.recurrence_proc s rfl]
      exact hrecurrence
  | fixMode params => exact hperiodic

/-- The commands on their way are what is missing between the session and all commands. -/
structure Follows (t : HalEngine) (given : List Command) : Prop where
  session : t.state.commands.foldl Command.fixSet t.state.engine.adapter.mNavigating =
    given.foldl Command.fixSet false
  pending : ∀ command ∈ t.state.commands, Periodic command
  recurrence : t.state.engine.adapter.mFixCriteria.recurrence ≠ GPS_POSITION_RECURRENCE_SINGLE

/-- The inputs of a run that no refusal and no single fix disturbs. -/
def Undisturbed : HalInput → Prop
  | .call (.setPositionMode _ recurrence _ _ _) => recurrence ≠ GPS_POSITION_RECURRENCE_SINGLE
  | .msgTask ret => Begins ret
  | _ => True

/-- The inputs that are no calls of the framework. -/
def Uncalled : HalInput → Prop
  | .call _ => False
  | _ => True

section Session

variable {target : UInt32} {t : HalEngine} {given : List Command}

theorem engine_setUlpProxy (s : Hal) (ulp : Option Nat) (fresh : Nat) :
    (s.setUlpProxy ulp fresh).engine = s.engine := by
  rw [Hal.setUlpProxy]
  split
  all_goals rfl

theorem commands_setUlpProxy (s : Hal) (ulp : Option Nat) (fresh : Nat) :
    (s.setUlpProxy ulp fresh).commands = s.commands := by
  rw [Hal.setUlpProxy]
  split
  all_goals rfl

/-- A step that leaves the session and the commands on their way. -/
theorem Follows.frame {t' : HalEngine} (ht : Follows t given)
    (hengine : t'.state.engine = t.state.engine)
    (hcommands : t'.state.commands = t.state.commands) :
    Follows t' given := by
  constructor
  · rw [hengine, hcommands]
    exact ht.session
  · rw [hcommands]
    exact ht.pending
  · rw [hengine]
    exact ht.recurrence

theorem follows_msgTask (ht : Follows t given) {ret : LocApiAdapterErr} (hret : Begins ret) :
    Follows (halStep target t (.msgTask ret)) given := by
  obtain ⟨⟨mUlp, ulp, client, dangling, queue, engine⟩, log⟩ := t
  cases queue with
  | nil => exact ht.frame rfl rfl
  | cons message queue =>
      cases message with
      | command command =>
          refine ⟨?_, fun c hc => ht.pending c (List.mem_cons_of_mem _ hc), ?_⟩
          · have hsession := ht.session
            change (command :: _).foldl _ _ = _ at hsession
            rw [List.foldl_cons, ← mNavigating_command hret] at hsession
            exact hsession
          · exact recurrence_command (ht.pending command List.mem_cons_self) ht.recurrence ret
      | event event =>
          have hnavigating := mNavigating_event hret ht.recurrence event
          refine ⟨?_, ht.pending, ?_⟩
          · have hsession := ht.session
            change List.foldl _ engine.adapter.mNavigating _ = _ at hsession
            rw [← hnavigating] at hsession
            exact hsession
          · exact (recurrence_event engine ret event).symm ▸ ht.recurrence
      | setUlpProxy ulp fresh =>
          apply ht.frame
          · exact engine_setUlpProxy _ ulp fresh
          · exact commands_setUlpProxy _ ulp fresh

theorem periodic_command {call : HalCall} {navigating : Bool} {command : Command}
    (hcall : Undisturbed (.call call)) (hcommand : call.command target navigating = some command) :
    Periodic command := by
  cases call with
  | start | stop =>
      cases hcommand
      trivial
  | cleanup =>
      cases navigating
      all_goals cases hcommand
      trivial
  | setPositionMode mode recurrence minInterval preferredAccuracy preferredTime =>
      cases hcommand
      exact hcall

/-- A call starts from an idle thread. -/
theorem Hal.of_taken {s : Hal} {call : HalCall} {command : Command}
    (hcommand : s.taken target call = some command) :
    s.client = .idle ∧ call.command target s.engine.adapter.mNavigating = some command := by
  rw [Hal.taken] at hcommand
  split at hcommand
  case h_1 hidle => exact ⟨hidle, hcommand⟩
  case h_2 => cases hcommand

/-- The queue may take what is no command. -/
theorem commands_append (s : Hal) (message : Pending) (hmessage : message.command? = none) :
    { s with queue := s.queue ++ [message] }.commands = s.commands := by
  unfold Hal.commands
  rw [List.filterMap_append, List.filterMap_cons_none hmessage, List.filterMap_nil,
    List.append_nil]

theorem commands_clientStep (s : Hal) : s.clientStep.commands = s.commands := by
  obtain ⟨mUlp, ulp, client, dangling, queue, engine⟩ := s
  cases client with
  | idle | entered _ => rfl
  | fetched mUlp' command =>
      rw [Hal.clientStep]
      dsimp only
      split
      all_goals rfl
  | called command =>
      change (queue ++ [Pending.command command]).filterMap Pending.command? ++ [] = _
      rw [List.filterMap_append, List.append_nil]
      rfl

theorem engine_clientStep (s : Hal) : s.clientStep.engine = s.engine := by
  rw [Hal.clientStep]
  split
  case h_3 =>
      split
      all_goals rfl
  all_goals rfl

theorem follows_call (ht : Follows t given) {call : HalCall}
    (hcall : Undisturbed (.call call)) :
    Follows (halStep target t (.call call)) (given ++ taken target t (.call call)) := by
  cases hcommand : t.state.taken target call with
  | none =>
      have hstate : (halStep target t (.call call)).state = t.state := by
        change Hal.call _ _ _ = _
        rw [Hal.call, hcommand]
      rw [taken, hcommand, Option.toList_none, List.append_nil]
      exact ht.frame (congrArg Hal.engine hstate) (congrArg Hal.commands hstate)
  | some command =>
      obtain ⟨hidle, hcalled⟩ := Hal.of_taken hcommand
      have hstate : (halStep target t (.call call)).state =
          { t.state with client := .entered command } := by
        change Hal.call _ _ _ = _
        rw [Hal.call, hcommand]
      have hcommands : (halStep target t (.call call)).state.commands =
          t.state.commands ++ [command] := by
        rw [hstate, Hal.commands, Hal.commands, hidle, List.append_assoc]
        rfl
      rw [taken, hcommand, Option.toList_some]
      constructor
      · rw [hcommands, hstate, List.foldl_append, List.foldl_append]
        exact congrArg (Command.fixSet · command) ht.session
      · intro other hother
        rw [hcommands] at hother
        rcases List.mem_append.mp hother with hearlier | hnew
        · exact ht.pending other hearlier
        · obtain rfl := List.mem_singleton.mp hnew
          exact periodic_command hcall hcalled
      · rw [hstate]
        exact ht.recurrence

theorem follows_step (t : HalEngine) (input : HalInput) (given : List Command)
    (ht : Follows t given) (hinput : Undisturbed input) :
    Follows (halStep target t input) (given ++ taken target t input) := by
  cases input with
  | call call => exact follows_call ht hinput
  | client =>
      simp only [taken, List.append_nil]
      exact ht.frame (engine_clientStep t.state) (commands_clientStep t.state)
  | report event =>
      simp only [taken, List.append_nil]
      exact ht.frame rfl (commands_append t.state _ rfl)
  | setUlpProxy ulp fresh =>
      simp only [taken, List.append_nil]
      exact ht.frame rfl (commands_append t.state _ rfl)
  | msgTask ret =>
      simp only [taken, List.append_nil]
      exact follows_msgTask ht hinput

theorem follows_halStart {locationCb statusCb : Bool} {intermediateFix : UInt8}
    {generateNmea : Bool} {accuracyThres : UInt32} :
    Follows (halStart locationCb statusCb intermediateFix generateNmea accuracyThres) [] := by
  refine ⟨rfl, List.forall_mem_nil _, ?_⟩
  change LocPosMode.invalid.recurrence ≠ _
  decide

/-- Whenever the threads have caught up, the session is where the commands put it, the last
start or stop, whatever reports, restarts of the modem and new proxies came in between. -/
theorem session_follows_commands (target : UInt32) (locationCb statusCb : Bool)
    (intermediateFix : UInt8) (generateNmea : Bool) (accuracyThres : UInt32)
    (inputs : List HalInput) (hinputs : ∀ input ∈ inputs, Undisturbed input) :
    let start := halStart locationCb statusCb intermediateFix generateNmea accuracyThres
    let s := (run (halStep target) start inputs).state
    s.client = .idle → s.queue = [] →
      s.engine.adapter.mNavigating =
        (commands target start inputs).foldl Command.fixSet false := by
  intro start s hidle hqueue
  have hstart : Follows start [] := follows_halStart
  have hend := run_contributions (@follows_step target) hstart
    (meets_of_forall (halStep target) start hinputs)
  have hsession := hend.session
  change s.commands.foldl _ _ = _ at hsession
  rw [Hal.commands, hidle, hqueue] at hsession
  exact hsession

/-- Inputs that are no calls add no commands. -/
theorem commands_uncalled (t : HalEngine) {inputs : List HalInput}
    (hinputs : ∀ input ∈ inputs, Uncalled input) : commands target t inputs = [] := by
  induction inputs generalizing t with
  | nil => rfl
  | cons input rest ih =>
      have hrest := ih (halStep target t input)
        fun other hother => hinputs other (List.mem_cons_of_mem _ hother)
      have hinput := hinputs input List.mem_cons_self
      cases input with
      | call call => cases hinput
      | client | report _ | setUlpProxy _ _ | msgTask _ => exact hrest

/-- A cleanup ends the session, once the threads have caught up and without another call, in
all cases but one: where the session had not begun yet, and its start was on its way, it goes on
after the cleanup. -/
theorem cleanup_leaves_session_iff (target : UInt32) (locationCb statusCb : Bool)
    (intermediateFix : UInt8) (generateNmea : Bool) (accuracyThres : UInt32)
    (before after : List HalInput) (hbefore : ∀ input ∈ before, Undisturbed input)
    (hafter : ∀ input ∈ after, Undisturbed input ∧ Uncalled input) :
    let start := halStart locationCb statusCb intermediateFix generateNmea accuracyThres
    let t := (run (halStep target) start before).state
    let s := (run (halStep target) start (before ++ .call .cleanup :: after)).state
    t.client = .idle → s.client = .idle → s.queue = [] →
      (s.engine.adapter.mNavigating = true ↔ t.engine.adapter.mNavigating = false ∧
        t.commands.foldl Command.fixSet false = true) := by
  intro start t s hcalled hidle hqueue
  have hstart : Follows start [] := follows_halStart
  have hcleanup := run_contributions (@follows_step target) hstart
    (meets_of_forall (halStep target) start hbefore)
  have hinputs : ∀ input ∈ .call .cleanup :: after, Undisturbed input :=
    List.forall_mem_cons.mpr ⟨trivial, fun input hinput => (hafter input hinput).1⟩
  have hend := run_contributions (@follows_step target) hcleanup
    (meets_of_forall (halStep target) (run (halStep target) start before) hinputs)
  have htaken : taken target (run (halStep target) start before) (.call .cleanup) =
      if t.engine.adapter.mNavigating then [.stopFix] else [] := by
    change (Hal.taken t target .cleanup).toList = _
    rw [Hal.taken, hcalled]
    dsimp only [HalCall.command]
    split
    all_goals rfl
  have hafter' : contributions (halStep target) (taken target)
      (halStep target (run (halStep target) start before) (.call .cleanup)) after = [] :=
    commands_uncalled _ fun input hinput => (hafter input hinput).2
  have hsession := hend.session
  rw [← run_append, contributions, htaken, hafter', List.append_nil, List.foldl_append,
    ← hcleanup.session] at hsession
  change s.commands.foldl _ s.engine.adapter.mNavigating =
    List.foldl _ (t.commands.foldl _ t.engine.adapter.mNavigating) _ at hsession
  have hquiet : s.commands = [] := by
    rw [Hal.commands, hidle, hqueue]
    rfl
  rw [hquiet] at hsession
  change s.engine.adapter.mNavigating = _ at hsession
  rw [hsession]
  cases t.engine.adapter.mNavigating with
  | true => exact iff_of_false Bool.false_ne_true fun h => Bool.noConfusion h.1
  | false => exact (and_iff_right rfl).symm

end Session

/-- A session that is started, gets a new proxy on the way, and sees the modem restart. -/
def restartedSession : List HalInput :=
  [.call (.setPositionMode 1 0 500 0 0), .client, .client, .client, .call .start, .client,
    .client, .setUlpProxy none 7, .client, .report .engineDown, .report .engineUp,
    .msgTask .success, .msgTask .success, .msgTask .success, .msgTask .success,
    .msgTask .internal]

theorem session_follows_commands_restarted :
    (run (halStep 0) (halStart true true 0 true 0)
      restartedSession).state.engine.adapter.mNavigating = true :=
  session_follows_commands 0 true true 0 true 0 restartedSession
    (by simp [restartedSession, Undisturbed, Begins, GPS_POSITION_RECURRENCE_SINGLE])
    (by decide) (by decide)

/-- A cleanup before the message thread has begun the session. -/
theorem cleanup_leaves_session_early :
    (run (halStep 0) (halStart true true 0 true 0)
      ([.call .start, .client, .client, .client] ++ .call .cleanup ::
        [.msgTask .success])).state.engine.adapter.mNavigating = true := by
  apply (cleanup_leaves_session_iff 0 true true 0 true 0
    [.call .start, .client, .client, .client] [.msgTask .success] (by simp [Undisturbed])
    (by simp [Undisturbed, Uncalled, Begins]) (by decide) (by decide) (by decide)).mpr
  decide

end G2Common.Eng
