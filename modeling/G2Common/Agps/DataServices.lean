import G2Common.Transition
import G2Common.Agps.Notify

/-!
`DSStateMachine`, the machine of the emergency data call, and the runs it is
put through: requests and releases of modem handles, data call events, and the
retry timer, whose firing posts a message that requests the handle again. The
adapter supports AGPS requests, as no request reaches the machine otherwise.
-/

namespace G2Common.Agps

open Transition AgpsStateMachine

/-- What `loc_timer_start` comes to: a timer thread, a handle that was freed on
the way out, or `NULL`. -/
inductive TimerStart where
  | started | freed | noMemory
  deriving DecidableEq, Repr

/-- What the environment answers in a step: the value of `openAndStartDataCall`
and the outcome of `loc_timer_start`, for where they are called. -/
structure Answers where
  ret : Int
  timer : TimerStart
  deriving DecidableEq, Repr

namespace DSStateMachine

/-! `loc_api_adapter_err` -/

def LOC_API_ADAPTER_ERR_SUCCESS : Int := 0

def LOC_API_ADAPTER_ERR_UNSUPPORTED : Int := 2

def LOC_API_ADAPTER_ERR_ENGINE_BUSY : Int := 6

def MAX_START_DATA_CALL_RETRIES : UInt8 := 4

/-- The connection handle where no subscriber is active, `(uint32_t)-1`. -/
def noHandle : UInt32 := 0xFFFFFFFF

def new : AgpsStateMachine := .new .invalid false

/-- `dataCallCb`, which the servicer calls. -/
def dataCallCb (answers : Answers) : SendRsrcRequest
  | .requestAgpsDataConn, m => (answers.ret, m.did (.openAndStartDataCall answers.ret))
  | .releaseAgpsDataConn, m => (LOC_API_ADAPTER_ERR_SUCCESS, m.did .stopDataCall)

/-- `loc_timer_start` as it is used here: a handle that is not `NULL` counts as
an error, with a timer running or not. -/
def startRetryTimer (ret : Int) (timer : TimerStart) (m : AgpsStateMachine) :
    Int × AgpsStateMachine :=
  match timer with
  | .started => (-1, m.did (.locTimerStart true))
  | .freed => (-1, m.did (.locTimerStart false))
  | .noMemory => (ret, m.did (.locTimerStart false))

def sendRsrcRequest (answers : Answers) : SendRsrcRequest := fun action m =>
  let connHandle := ((m.search (.matchGroup .active)).map (·.ID)).getD noHandle
  let (ret, m) := dataCallCb answers action m
  if ret = LOC_API_ADAPTER_ERR_ENGINE_BUSY then
    let m := { m with mRetries := m.mRetries + 1 }
    if m.mRetries > MAX_START_DATA_CALL_RETRIES then
      (ret, m.informStatus .denied connHandle)
    else
      startRetryTimer ret answers.timer m
  else if ret = LOC_API_ADAPTER_ERR_UNSUPPORTED then
    (ret, m.informStatus .denied connHandle)
  else if ret = LOC_API_ADAPTER_ERR_SUCCESS then
    (ret, m)
  else if ret = -1 then
    (ret, m.informStatus .denied connHandle)
  else
    (ret, m)

/-- The override: a RELEASED that changes no state is processed again as a
DENIED. -/
def onRsrcEvent (answers : Answers) (event : AgpsRsrcStatus) (m : AgpsStateMachine) :
    AgpsStateMachine :=
  match event with
  | .granted => m.stateEvent (sendRsrcRequest answers) .granted
  | .released =>
      let next := m.stateEvent (sendRsrcRequest answers) .released
      if next.mStatePtr ≠ m.mStatePtr then next
      else next.stateEvent (sendRsrcRequest answers) .denied
  | .denied => m.stateEvent (sendRsrcRequest answers) .denied
  | _ => m

/-- The handle that `retryCallback` passes to `requestSuplES`. -/
def retryCallback (m : AgpsStateMachine) : Option UInt32 :=
  (m.search (.matchGroup .active)).map (·.ID)

end DSStateMachine

namespace DataCall

open DSStateMachine

/-- `requestSuplEs` is a request of the modem, `retrySuplEs` the processing of
the oldest request that the retry timer posted. -/
inductive Input where
  | requestSuplEs (handle : UInt32) (answers : Answers)
  | retrySuplEs (answers : Answers)
  | releaseATL (handle : UInt32) (answers : Answers)
  | onRsrcEvent (event : AgpsRsrcStatus) (answers : Answers)
  | timerFires
  deriving DecidableEq, Repr

inductive Entry where
  | input (input : Input)
  | effect (e : Effect)
  deriving DecidableEq, Repr

/-- The machine, the number of retry timers that run, the retry requests that
were posted and not processed yet, and what happened so far. -/
structure System where
  machine : AgpsStateMachine
  timers : Nat
  posted : List UInt32
  log : List Entry
  deriving DecidableEq, Repr

def start : System := ⟨DSStateMachine.new, 0, [], []⟩

/-- Timers that were started by the effects. -/
def timersIn (effects : List Effect) : Nat := effects.count (.locTimerStart true)

/-- `LocEngRequestSuplEs::proc` -/
def request (handle : UInt32) (answers : Answers) (m : AgpsStateMachine) :
    AgpsStateMachine :=
  m.subscribeRsrc (sendRsrcRequest answers) (DSSubscriber handle)

def release (handle : UInt32) (answers : Answers) (m : AgpsStateMachine) :
    AgpsStateMachine :=
  (m.unsubscribeRsrc (sendRsrcRequest answers) (DSSubscriber handle)).2

/-- The system after the machine was called. -/
def System.call (s : System) (input : Input) (f : AgpsStateMachine → AgpsStateMachine) :
    System :=
  let machine := f { s.machine with effects := [] }
  { s with
    machine := machine
    timers := s.timers + timersIn machine.effects
    log := s.log ++ .input input :: machine.effects.map .effect }

def step (s : System) (input : Input) : System :=
  match input with
  | .requestSuplEs handle answers => s.call input (request handle answers)
  | .retrySuplEs answers =>
      match s.posted with
      | [] => s
      | handle :: rest => { s with posted := rest }.call input (request handle answers)
  | .releaseATL handle answers => s.call input (release handle answers)
  | .onRsrcEvent event answers => s.call input (DSStateMachine.onRsrcEvent answers event)
  | .timerFires =>
      match s.timers with
      | 0 => s
      | timers + 1 =>
          match retryCallback s.machine with
          | none => { s with timers := timers, log := s.log ++ [.input input] }
          | some handle =>
              { s with
                timers := timers
                posted := s.posted ++ [handle]
                log := s.log ++ [.input input, .effect (.requestSuplES handle)] }

end DataCall

end G2Common.Agps
