import G2Common.Eng.Commands

/-!
The lifetime of the engine under `loc.cpp`. The framework may call `loc_init` and `loc_cleanup`
as often as it likes; the engine and its adapter are made once and never cleaned up. Two of the
callbacks are kept by `loc.cpp` itself, the others by the engine. With every `loc_init` and
`loc_cleanup` goes a vote for the power of the modem, which the modem loses in a restart.
-/

namespace G2Common.Eng

open Transition Utils

def POWER_VOTE_RIGHT : UInt32 := 0x20

def POWER_VOTE_VALUE : UInt32 := 0x10

def NMEA_PROVIDER_AP : UInt32 := 0

/-- The callbacks of the framework, each by a name, or NULL. -/
structure GpsCallbacks where
  locationCb : Option Nat
  svStatusCb : Option Nat
  statusCb : Option Nat
  nmeaCb : Option Nat
  setCapabilitiesCb : Option Nat
  deriving DecidableEq, Repr

/-- What is read of `gps_conf`, at the time of a call. -/
structure GpsConf where
  CAPABILITIES : UInt32
  INTERMEDIATE_POS : UInt8
  ACCURACY_THRES : UInt32
  NMEA_PROVIDER : UInt32
  GPS_LOCK : UInt32
  deriving DecidableEq, Repr

/-- `loc_afw_data` with its adapter. -/
structure AfwData where
  engine : LocEngData
  statusCb : Option Nat
  nmeaCb : Option Nat
  mPowerVote : UInt32
  deriving DecidableEq, Repr

inductive LifeMsg where
  | command (command : Command)
  | event (event : EngineEvent)
  | reportSv
  | reportNmea
  | gpsLock (lockMask : UInt32)
  deriving DecidableEq, Repr

/-- What leaves the engine. `engineUp` stands for the restart of the modem of which a message
told. -/
inductive Effect where
  | locationCb (cb : Nat)
  | svStatusCb (cb : Nat)
  | statusCb (cb : Nat) (status : UInt16)
  | nmeaCb (cb : Nat)
  | setCapabilitiesCb (cb : Nat) (capabilities : UInt32)
  | setGpsLock (lock : UInt32)
  | engineUp
  | call (call : Call)
  deriving DecidableEq, Repr

/-- The globals of `loc.cpp` and the queue of the message thread. `fault` is the use of an
adapter that is NULL. -/
structure Loc where
  gpsLocCb : Option Nat
  gpsSvCb : Option Nat
  afwData : Option AfwData
  queue : List LifeMsg
  fault : Bool
  deriving DecidableEq, Repr

inductive LifeInput where
  | init (callbacks : Option GpsCallbacks) (conf : GpsConf)
  | cleanup (conf : GpsConf)
  /-- A command, a report or a request that gets to the queue. -/
  | send (msg : LifeMsg)
  | msgTask (ret : LocApiAdapterErr)
  deriving DecidableEq, Repr

namespace AfwData

def getPowerVoteRight (data : AfwData) : Bool := data.mPowerVote &&& POWER_VOTE_RIGHT ≠ 0

def getPowerVote (data : AfwData) : Bool := data.mPowerVote &&& POWER_VOTE_VALUE ≠ 0

def setPowerVoteRight (data : AfwData) (powerVoteRight : Bool) : AfwData :=
  { data with
    mPowerVote :=
      if powerVoteRight then data.mPowerVote ||| POWER_VOTE_RIGHT
      else data.mPowerVote &&& ~~~POWER_VOTE_RIGHT }

/-- The votes are 101 for down and 103 for up. -/
def requestPowerVote (data : AfwData) : List Effect :=
  if data.getPowerVoteRight then [.setGpsLock (if data.getPowerVote then 103 else 101)] else []

def setPowerVote (data : AfwData) (powerOn : Bool) : AfwData × List Effect :=
  let data := { data with
    mPowerVote :=
      if powerOn then data.mPowerVote ||| POWER_VOTE_VALUE
      else data.mPowerVote &&& ~~~POWER_VOTE_VALUE }
  (data, data.requestPowerVote)

/-- After `loc_eng_init` with the callbacks of `loc_init`, which has `local_loc_cb` and
`local_sv_cb` in the places of two of them. -/
def new (callbacks : GpsCallbacks) (conf : GpsConf) : AfwData where
  engine := .init true callbacks.statusCb.isSome conf.INTERMEDIATE_POS
    (conf.NMEA_PROVIDER = NMEA_PROVIDER_AP) conf.ACCURACY_THRES
  statusCb := callbacks.statusCb
  nmeaCb := callbacks.nmeaCb
  mPowerVote := 0

end AfwData

namespace Loc

/-- A call that a handler makes, out of the engine. `local_loc_cb` drops a failed fix, which
comes without a location. -/
def deliver (s : Loc) (data : AfwData) : Call → List Effect
  | .locationCb true => s.gpsLocCb.toList.map .locationCb
  | .locationCb false => []
  | .statusCb status => data.statusCb.toList.map (Effect.statusCb · status)
  | .nmeaGeneratePos _ => data.nmeaCb.toList.map .nmeaCb
  | call => [.call call]

/-- `loc_init` -/
def init (s : Loc) (target : UInt32) (callbacks : GpsCallbacks) (conf : GpsConf) :
    Loc × List Effect :=
  let s := { s with gpsLocCb := callbacks.locationCb, gpsSvCb := callbacks.svStatusCb }
  -- `loc_eng_init` returns at once where there is an adapter
  let (data, effects) := match s.afwData with
    | some data => (data, [])
    | none => (AfwData.new callbacks conf,
        callbacks.setCapabilitiesCb.toList.map (Effect.setCapabilitiesCb · conf.CAPABILITIES))
  let (data, vote) := (data.setPowerVoteRight (target = TARGET_QCA1530)).setPowerVote true
  ({ s with afwData := some data, queue := s.queue ++ [LifeMsg.gpsLock 0] },
    effects ++ vote)

/-- `loc_cleanup` -/
def cleanup (s : Loc) (conf : GpsConf) : Loc × List Effect :=
  match s.afwData with
  | none => ({ s with fault := true }, [])
  | some data =>
      let (data, vote) := data.setPowerVote false
      let stop := if data.engine.adapter.mNavigating then [.command .stopFix] else []
      ({ s with
          afwData := some data
          queue := s.queue ++ .gpsLock conf.GPS_LOCK :: stop
          gpsLocCb := none
          gpsSvCb := none },
        vote)

/-- A message is handled. -/
def proc (s : Loc) (data : AfwData) (ret : LocApiAdapterErr) : LifeMsg → AfwData × List Effect
  | .command command =>
      let (engine, calls) := Eng.proc data.engine (command.msg ret)
      ({ data with engine := engine }, calls.flatMap (s.deliver data))
  | .event event =>
      let (engine, calls) := Eng.proc data.engine (event.msg ret)
      let up := if event = .engineUp then .engineUp :: data.requestPowerVote else []
      ({ data with engine := engine }, up ++ calls.flatMap (s.deliver data))
  | .reportSv =>
      (data,
        if data.engine.muteSessionState ≠ .inSession then
          s.gpsSvCb.toList.map .svStatusCb ++
            if data.engine.generateNmea then data.nmeaCb.toList.map .nmeaCb else []
        else [])
  | .reportNmea => (data, data.nmeaCb.toList.map .nmeaCb)
  | .gpsLock lockMask => (data, [.setGpsLock lockMask])

def msgTask (s : Loc) (ret : LocApiAdapterErr) : Loc × List Effect :=
  match s.afwData, s.queue with
  | some data, msg :: queue =>
      let (data, effects) := s.proc data ret msg
      ({ s with afwData := some data, queue := queue }, effects)
  | _, _ => (s, [])

/-- Without an adapter there are no messages. -/
def send (s : Loc) (msg : LifeMsg) : Loc :=
  if s.afwData.isSome then { s with queue := s.queue ++ [msg] } else s

def machine (target : UInt32) (s : Loc) (input : LifeInput) : Loc × List Effect :=
  if s.fault then (s, [])
  else
    match input with
    | .init none _ => (s, [])
    | .init (some callbacks) conf => s.init target callbacks conf
    | .cleanup conf => s.cleanup conf
    | .send msg => (s.send msg, [])
    | .msgTask ret => s.msgTask ret

end Loc

abbrev Lifetime := Traced Loc Effect

def lifeStep (target : UInt32) : Lifetime → LifeInput → Lifetime :=
  Traced.step (Loc.machine target)

def lifeStart : Lifetime := ⟨⟨none, none, none, [], false⟩, []⟩

/-- The callbacks that the framework has set, and `none` where it has cleaned up. -/
def LifeInput.requests : LifeInput → List (Option GpsCallbacks)
  | init (some callbacks) _ => [some callbacks]
  | cleanup _ => [none]
  | _ => []

/-- The callbacks of the last `loc_init`, unless there was a `loc_cleanup` after it. -/
def current (inputs : List LifeInput) : Option GpsCallbacks :=
  (inputs.flatMap LifeInput.requests).getLast?.join

/-- The callbacks of the first `loc_init`. -/
def first (inputs : List LifeInput) : Option GpsCallbacks :=
  (inputs.flatMap LifeInput.requests).head?.join

/-- Whom an effect may reach, where these callbacks are the current ones and the first ones. -/
def Effect.Reaches (current first : Option GpsCallbacks) : Effect → Prop
  | locationCb cb => current.bind (·.locationCb) = some cb
  | svStatusCb cb => current.bind (·.svStatusCb) = some cb
  | statusCb cb _ => first.bind (·.statusCb) = some cb
  | nmeaCb cb => first.bind (·.nmeaCb) = some cb
  | setCapabilitiesCb cb _ => first.bind (·.setCapabilitiesCb) = some cb
  | _ => True

/-- The vote of the modem after an effect. A restart takes it away. -/
def Effect.vote (vote : Option Bool) : Effect → Option Bool
  | setGpsLock lock => if lock = 103 then some true else if lock = 101 then some false else vote
  | engineUp => none
  | _ => vote

def modemVote (log : List Effect) : Option Bool := log.foldl Effect.vote none

/-- A lock of the engine that is none of the codes for votes. -/
def LifeMsg.Plain : LifeMsg → Prop
  | gpsLock lockMask => lockMask ≠ 101 ∧ lockMask ≠ 103
  | _ => True

def LifeInput.Plain : LifeInput → Prop
  | cleanup conf => conf.GPS_LOCK ≠ 101 ∧ conf.GPS_LOCK ≠ 103
  | send msg => msg.Plain
  | _ => True

/-- The two bits of `mPowerVote`. -/
def voteBits (right powerOn : Bool) : UInt32 :=
  (if right then POWER_VOTE_RIGHT else 0) ||| (if powerOn then POWER_VOTE_VALUE else 0)

/-- What the framework has asked for, in the globals and in the engine. -/
structure Kept (target : UInt32) (s : Loc) (given : List (Option GpsCallbacks)) : Prop where
  gpsLocCb : s.gpsLocCb = given.getLast?.join.bind (·.locationCb)
  gpsSvCb : s.gpsSvCb = given.getLast?.join.bind (·.svStatusCb)
  adapter : s.afwData = none ↔ given = []
  statusCb : ∀ data ∈ s.afwData, data.statusCb = given.head?.join.bind (·.statusCb)
  nmeaCb : ∀ data ∈ s.afwData, data.nmeaCb = given.head?.join.bind (·.nmeaCb)
  vote : ∀ data ∈ s.afwData,
    data.mPowerVote = voteBits (target = TARGET_QCA1530) given.getLast?.join.isSome

namespace AfwData

variable {data : AfwData} {right powerOn : Bool}

theorem setPowerVoteRight_bits (h : data.mPowerVote = voteBits right powerOn) (right' : Bool) :
    (data.setPowerVoteRight right').mPowerVote = voteBits right' powerOn := by
  rw [setPowerVoteRight, h]
  cases right <;> cases powerOn <;> cases right' <;> rfl

theorem setPowerVote_bits (h : data.mPowerVote = voteBits right powerOn) (powerOn' : Bool) :
    (data.setPowerVote powerOn').1.mPowerVote = voteBits right powerOn' := by
  rw [setPowerVote, h]
  cases right <;> cases powerOn <;> cases powerOn' <;> rfl

theorem requestPowerVote_bits (h : data.mPowerVote = voteBits right powerOn) :
    data.requestPowerVote =
      if right then [.setGpsLock (if powerOn then 103 else 101)] else [] := by
  rw [requestPowerVote, getPowerVoteRight, getPowerVote, h]
  cases right <;> cases powerOn <;> rfl

/-- The vote that the modem has after a request. -/
theorem vote_requestPowerVote (h : data.mPowerVote = voteBits right powerOn)
    (vote : Option Bool) :
    data.requestPowerVote.foldl Effect.vote vote = if right then some powerOn else vote := by
  rw [requestPowerVote_bits h]
  cases right <;> cases powerOn <;> rfl

end AfwData

namespace Loc

variable {target : UInt32} {s : Loc} {given : List (Option GpsCallbacks)} {data : AfwData}
  {effect : Effect}

/-- The calls of a handler go to the callbacks that the framework means. -/
theorem reaches_deliver (hs : Kept target s given) (hdata : s.afwData = some data) {call : Call}
    (heffect : effect ∈ s.deliver data call) :
    effect.Reaches given.getLast?.join given.head?.join := by
  unfold deliver at heffect
  split at heffect
  case h_1 =>
    obtain ⟨cb, hcb, rfl⟩ := List.mem_map.mp heffect
    exact hs.gpsLocCb.symm.trans (Option.mem_toList.mp hcb)
  case h_2 => cases heffect
  case h_3 status =>
    obtain ⟨cb, hcb, rfl⟩ := List.mem_map.mp heffect
    exact (hs.statusCb data hdata).symm.trans (Option.mem_toList.mp hcb)
  case h_4 =>
    obtain ⟨cb, hcb, rfl⟩ := List.mem_map.mp heffect
    exact (hs.nmeaCb data hdata).symm.trans (Option.mem_toList.mp hcb)
  case h_5 =>
    obtain rfl := List.mem_singleton.mp heffect
    trivial

theorem reaches_requestPowerVote {current first : Option GpsCallbacks}
    (heffect : effect ∈ data.requestPowerVote) : effect.Reaches current first := by
  rw [AfwData.requestPowerVote] at heffect
  split at heffect
  case isTrue =>
    obtain rfl := List.mem_singleton.mp heffect
    trivial
  case isFalse => cases heffect

theorem reaches_proc (hs : Kept target s given) (hdata : s.afwData = some data)
    {ret : LocApiAdapterErr} {msg : LifeMsg} (heffect : effect ∈ (s.proc data ret msg).2) :
    effect.Reaches given.getLast?.join given.head?.join := by
  have hnmea (cb : Nat) (hcb : cb ∈ data.nmeaCb.toList) :
      (Effect.nmeaCb cb).Reaches given.getLast?.join given.head?.join :=
    (hs.nmeaCb data hdata).symm.trans (Option.mem_toList.mp hcb)
  cases msg with
  | command command =>
      obtain ⟨call, -, hcall⟩ := List.mem_flatMap.mp heffect
      exact reaches_deliver hs hdata hcall
  | event event =>
      rcases List.mem_append.mp heffect with hup | hcalls
      · split at hup
        · rcases List.mem_cons.mp hup with rfl | hvote
          · trivial
          · exact reaches_requestPowerVote hvote
        · cases hup
      · obtain ⟨call, -, hcall⟩ := List.mem_flatMap.mp hcalls
        exact reaches_deliver hs hdata hcall
  | reportSv =>
      change effect ∈ ite _ _ _ at heffect
      split at heffect
      case isFalse => cases heffect
      case isTrue =>
        rcases List.mem_append.mp heffect with hsv | hsentences
        · obtain ⟨cb, hcb, rfl⟩ := List.mem_map.mp hsv
          exact hs.gpsSvCb.symm.trans (Option.mem_toList.mp hcb)
        · split at hsentences
          case isFalse => cases hsentences
          case isTrue =>
            obtain ⟨cb, hcb, rfl⟩ := List.mem_map.mp hsentences
            exact hnmea cb hcb
  | reportNmea =>
      obtain ⟨cb, hcb, rfl⟩ := List.mem_map.mp heffect
      exact hnmea cb hcb
  | gpsLock lockMask =>
      obtain rfl := List.mem_singleton.mp heffect
      trivial

/-- What a handler leaves. -/
theorem kept_of_data {s' : Loc} {data' : AfwData} (hs : Kept target s given)
    (hdata : s.afwData = some data) (hdata' : s'.afwData = some data')
    (hgpsLocCb : s'.gpsLocCb = s.gpsLocCb) (hgpsSvCb : s'.gpsSvCb = s.gpsSvCb)
    (hstatusCb : data'.statusCb = data.statusCb) (hnmeaCb : data'.nmeaCb = data.nmeaCb)
    (hvote : data'.mPowerVote = data.mPowerVote) : Kept target s' given := by
  constructor
  · exact hgpsLocCb.trans hs.gpsLocCb
  · exact hgpsSvCb.trans hs.gpsSvCb
  · rw [hdata']
    rw [← hs.adapter, hdata]
    exact iff_of_false (Option.some_ne_none _) (Option.some_ne_none _)
  · intro other hother
    obtain rfl := Option.some.inj (hdata'.symm.trans hother)
    exact hstatusCb.trans (hs.statusCb data hdata)
  · intro other hother
    obtain rfl := Option.some.inj (hdata'.symm.trans hother)
    exact hnmeaCb.trans (hs.nmeaCb data hdata)
  · intro other hother
    obtain rfl := Option.some.inj (hdata'.symm.trans hother)
    exact hvote.trans (hs.vote data hdata)

/-- No message changes a callback or the vote. -/
theorem proc_data (s : Loc) (data : AfwData) (ret : LocApiAdapterErr) (msg : LifeMsg) :
    (s.proc data ret msg).1.statusCb = data.statusCb ∧
      (s.proc data ret msg).1.nmeaCb = data.nmeaCb ∧
      (s.proc data ret msg).1.mPowerVote = data.mPowerVote := by
  cases msg
  all_goals exact ⟨rfl, rfl, rfl⟩

theorem kept_msgTask (hs : Kept target s given) (ret : LocApiAdapterErr) :
    Kept target (s.msgTask ret).1 given := by
  rw [msgTask]
  split
  case h_2 => exact hs
  case h_1 data msg queue hdata hqueue =>
    have hproc := proc_data s data ret msg
    change Kept target { s with afwData := some (s.proc data ret msg).1, queue := queue } given
    exact kept_of_data hs hdata rfl rfl rfl hproc.1 hproc.2.1 hproc.2.2

theorem kept_send (hs : Kept target s given) (msg : LifeMsg) : Kept target (s.send msg) given := by
  rw [send]
  split
  all_goals exact ⟨hs.gpsLocCb, hs.gpsSvCb, hs.adapter, hs.statusCb, hs.nmeaCb, hs.vote⟩

/-- The data after `loc_init`. -/
theorem afwData_init (s : Loc) (target : UInt32) (callbacks : GpsCallbacks) (conf : GpsConf) :
    (s.init target callbacks conf).1.afwData = some (((s.afwData.getD (.new callbacks conf)
      ).setPowerVoteRight (target = TARGET_QCA1530)).setPowerVote true).1 := by
  rw [init]
  cases s.afwData
  all_goals rfl

theorem effects_init (s : Loc) (target : UInt32) (callbacks : GpsCallbacks) (conf : GpsConf) :
    ∃ cbs : List Nat, (s.init target callbacks conf).2 =
      cbs.map (Effect.setCapabilitiesCb · conf.CAPABILITIES) ++
        (((s.afwData.getD (.new callbacks conf)).setPowerVoteRight
          (target = TARGET_QCA1530)).setPowerVote true).1.requestPowerVote := by
  rw [init]
  cases s.afwData with
  | none => exact ⟨callbacks.setCapabilitiesCb.toList, rfl⟩
  | some data => exact ⟨[], rfl⟩

theorem kept_init (hs : Kept target s given) (callbacks : GpsCallbacks) (conf : GpsConf) :
    Kept target (s.init target callbacks conf).1 (given ++ [some callbacks]) := by
  have hlast : (given ++ [some callbacks]).getLast?.join = some callbacks := by
    rw [List.getLast?_concat]
    rfl
  obtain ⟨right, powerOn, hbits⟩ : ∃ right powerOn,
      (s.afwData.getD (.new callbacks conf)).mPowerVote = voteBits right powerOn := by
    cases hdata : s.afwData with
    | none => exact ⟨false, false, rfl⟩
    | some data => exact ⟨_, _, hs.vote data hdata⟩
  have hfirst : (given ++ [some callbacks]).head?.join =
      if s.afwData = none then some callbacks else given.head?.join := by
    split
    case isTrue hnone =>
      rw [hs.adapter.mp hnone]
      rfl
    case isFalse hsome => rw [List.head?_append_of_ne_nil _ (mt hs.adapter.mpr hsome)]
  constructor
  · rw [hlast, init]
    cases s.afwData
    all_goals rfl
  · rw [hlast, init]
    cases s.afwData
    all_goals rfl
  · rw [afwData_init]
    exact iff_of_false (Option.some_ne_none _) (List.concat_ne_nil _ _)
  · intro data hmem
    obtain rfl := Option.some.inj ((afwData_init s target callbacks conf).symm.trans hmem)
    rw [hfirst]
    cases hdata : s.afwData with
    | none => rfl
    | some data => exact hs.statusCb data hdata
  · intro data hmem
    obtain rfl := Option.some.inj ((afwData_init s target callbacks conf).symm.trans hmem)
    rw [hfirst]
    cases hdata : s.afwData with
    | none => rfl
    | some data => exact hs.nmeaCb data hdata
  · intro data hmem
    obtain rfl := Option.some.inj ((afwData_init s target callbacks conf).symm.trans hmem)
    rw [hlast]
    exact AfwData.setPowerVote_bits (AfwData.setPowerVoteRight_bits hbits _) true

theorem kept_cleanup (hs : Kept target s given) (hdata : s.afwData = some data)
    (conf : GpsConf) : Kept target (s.cleanup conf).1 (given ++ [none]) := by
  have hgiven : given ≠ [] := by
    intro hgiven
    rw [hs.adapter.mpr hgiven] at hdata
    cases hdata
  have hlast : (given ++ [none]).getLast?.join = none := by
    rw [List.getLast?_concat]
    rfl
  have hfirst : (given ++ [none]).head?.join = given.head?.join := by
    rw [List.head?_append_of_ne_nil _ hgiven]
  rw [cleanup, hdata]
  constructor
  · rw [hlast]
    rfl
  · rw [hlast]
    rfl
  · exact iff_of_false (Option.some_ne_none _) (List.concat_ne_nil _ _)
  · rintro _ ⟨⟩
    rw [hfirst]
    exact hs.statusCb data hdata
  · rintro _ ⟨⟩
    rw [hfirst]
    exact hs.nmeaCb data hdata
  · rintro _ ⟨⟩
    rw [hlast]
    exact AfwData.setPowerVote_bits (hs.vote data hdata) false

theorem reaches_init (hs : Kept target s given) {callbacks : GpsCallbacks} {conf : GpsConf}
    (heffect : effect ∈ (s.init target callbacks conf).2) :
    effect.Reaches (given ++ [some callbacks]).getLast?.join
      (given ++ [some callbacks]).head?.join := by
  rw [init] at heffect
  cases hdata : s.afwData with
  | none =>
      rw [hdata] at heffect
      rcases List.mem_append.mp heffect with hcapabilities | hvote
      · obtain ⟨cb, hcb, rfl⟩ := List.mem_map.mp hcapabilities
        rw [hs.adapter.mp hdata]
        exact Option.mem_toList.mp hcb
      · exact reaches_requestPowerVote hvote
  | some data =>
      rw [hdata] at heffect
      exact reaches_requestPowerVote heffect

/-- Every effect of a step reaches the callbacks that are meant after it. -/
theorem reaches_machine (hs : s.fault = false → Kept target s given) (input : LifeInput)
    (heffect : effect ∈ (machine target s input).2) :
    effect.Reaches (given ++ input.requests).getLast?.join
      (given ++ input.requests).head?.join := by
  unfold machine at heffect
  split at heffect
  case isTrue => cases heffect
  case isFalse hfault =>
    have hkept := hs (Bool.eq_false_iff.mpr hfault)
    cases input with
    | init callbacks conf =>
        cases callbacks with
        | none => cases heffect
        | some callbacks => exact reaches_init hkept heffect
    | cleanup conf =>
        change effect ∈ (s.cleanup conf).2 at heffect
        rw [cleanup] at heffect
        split at heffect
        case h_1 => cases heffect
        case h_2 => exact reaches_requestPowerVote heffect
    | send msg => cases heffect
    | msgTask ret =>
        change effect ∈ (s.msgTask ret).2 at heffect
        rw [msgTask] at heffect
        split at heffect
        case h_1 data msg queue hdata hqueue =>
          change effect.Reaches (given ++ []).getLast?.join (given ++ []).head?.join
          rw [List.append_nil]
          exact reaches_proc hkept hdata heffect
        case h_2 => cases heffect

theorem machine_of_fault (input : LifeInput) (hfault : s.fault = true) :
    (machine target s input).1 = s := by
  unfold machine
  rw [if_pos hfault]

/-- While there is no fault, all that the framework has asked for is kept. -/
theorem kept_machine (hs : s.fault = false → Kept target s given) (input : LifeInput)
    (hfault' : (machine target s input).1.fault = false) :
    Kept target (machine target s input).1 (given ++ input.requests) := by
  unfold machine at hfault' ⊢
  split at hfault'
  case isTrue hfault => exact absurd (hfault.symm.trans hfault') Bool.noConfusion
  case isFalse hfault =>
    rw [if_neg hfault]
    have hkept := hs (Bool.eq_false_iff.mpr hfault)
    cases input with
    | init callbacks conf =>
        cases callbacks with
        | none => exact (List.append_nil given).symm ▸ hkept
        | some callbacks => exact kept_init hkept callbacks conf
    | cleanup conf =>
        cases hdata : s.afwData with
        | none =>
            change (s.cleanup conf).1.fault = false at hfault'
            rw [cleanup, hdata] at hfault'
            cases hfault'
        | some data => exact kept_cleanup hkept hdata conf
    | send msg => exact (List.append_nil given).symm ▸ kept_send hkept msg
    | msgTask ret => exact (List.append_nil given).symm ▸ kept_msgTask hkept ret

end Loc

/-- In every run all that the framework has asked for is kept, until there is a fault. -/
theorem kept_run (target : UInt32) (inputs : List LifeInput) :
    (run (lifeStep target) lifeStart inputs).state.fault = false →
      Kept target (run (lifeStep target) lifeStart inputs).state
        (inputs.flatMap LifeInput.requests) := by
  have hstart : lifeStart.state.fault = false → Kept target lifeStart.state [] := by
    intro _
    constructor
    · rfl
    · rfl
    · exact iff_of_true rfl rfl
    all_goals
      intro _ hmem
      cases hmem
  have hstep (t : Lifetime) (input : LifeInput) (given : List (Option GpsCallbacks))
      (ht : t.state.fault = false → Kept target t.state given) (_ : True) :
      (lifeStep target t input).state.fault = false →
        Kept target (lifeStep target t input).state (given ++ input.requests) :=
    Loc.kept_machine ht input
  have hrun := run_contributions hstep hstart (meets_true (lifeStep target) lifeStart inputs)
  rwa [contributions_eq_flatMap] at hrun

/-- Fixes and satellites go to the callbacks of the last `loc_init`, and nowhere after a
`loc_cleanup`. The status, the sentences and the capabilities go to the callbacks of the first
`loc_init`, for ever. -/
theorem effects_reach (target : UInt32) (inputs : List LifeInput) (input : LifeInput) :
    ∀ effect ∈ (Loc.machine target (run (lifeStep target) lifeStart inputs).state input).2,
      effect.Reaches (current (inputs ++ [input])) (first (inputs ++ [input])) := by
  intro effect heffect
  rw [current, first, List.flatMap_append, List.flatMap_singleton]
  exact Loc.reaches_machine (kept_run target inputs) input heffect

/-- A second `loc_init` with other callbacks, and a session. -/
def secondInit : List LifeInput :=
  [.init (some ⟨some 1, some 2, some 3, some 4, some 5⟩) ⟨0, 0, 0, 0, 0⟩, .cleanup ⟨0, 0, 0, 0, 2⟩,
    .init (some ⟨some 6, some 7, some 8, some 9, some 10⟩) ⟨0, 0, 0, 0, 0⟩,
    .send (.command .startFix), .msgTask .success, .msgTask .success, .msgTask .success]

/-- The status of the session is told to the first callback. -/
theorem effects_reach_second :
    (Effect.statusCb 3 GPS_STATUS_SESSION_BEGIN).Reaches
      (current (secondInit ++ [.msgTask .success])) (first (secondInit ++ [.msgTask .success])) :=
  effects_reach 0 secondInit (.msgTask .success) _ (by decide)

/-- The vote that the framework has asked for, on a target with the right to vote. -/
def wanted (target : UInt32) (given : List (Option GpsCallbacks)) : Option Bool :=
  if target = TARGET_QCA1530 then given.getLast?.map Option.isSome else none

structure Voted (target : UInt32) (t : Lifetime) (given : List (Option GpsCallbacks)) : Prop where
  kept : Kept target t.state given
  queue : ∀ msg ∈ t.state.queue, msg.Plain
  vote : modemVote t.log = wanted target given

section Vote

variable {target : UInt32} {s : Loc} {t : Lifetime} {given : List (Option GpsCallbacks)}
  {data : AfwData}

theorem vote_silent {effects : List Effect}
    (h : ∀ effect ∈ effects, ∀ vote, Effect.vote vote effect = vote) (vote : Option Bool) :
    effects.foldl Effect.vote vote = vote := by
  induction effects generalizing vote with
  | nil => rfl
  | cons effect rest ih =>
      rw [List.foldl_cons, h effect List.mem_cons_self]
      exact ih (fun other hother => h other (List.mem_cons_of_mem _ hother)) vote

theorem vote_map {cbs : List Nat} {f : Nat → Effect}
    (h : ∀ cb vote, Effect.vote vote (f cb) = vote)
    (vote : Option Bool) : (cbs.map f).foldl Effect.vote vote = vote := by
  apply vote_silent
  intro effect heffect
  obtain ⟨cb, -, rfl⟩ := List.mem_map.mp heffect
  exact h cb

/-- The handlers of the session do not vote. -/
theorem vote_deliver (s : Loc) (data : AfwData) (calls : List Call) (vote : Option Bool) :
    (calls.flatMap (s.deliver data)).foldl Effect.vote vote = vote := by
  induction calls with
  | nil => rfl
  | cons call rest ih =>
      have hcall : (s.deliver data call).foldl Effect.vote vote = vote := by
        unfold Loc.deliver
        split
        case h_2 | h_5 => rfl
        all_goals exact vote_map (fun _ _ => rfl) vote
      rw [List.flatMap_cons, List.foldl_append, hcall, ih]

/-- What is asked for is asked for again, or was not touched. -/
theorem vote_again (hs : Kept target s given) (hdata : s.afwData = some data)
    (vote : Option Bool) (hvote : target ≠ TARGET_QCA1530 → vote = none) :
    data.requestPowerVote.foldl Effect.vote vote = wanted target given := by
  have hgiven : given ≠ [] := by
    intro hgiven
    rw [hs.adapter.mpr hgiven] at hdata
    cases hdata
  rw [AfwData.vote_requestPowerVote (hs.vote data hdata), wanted,
    List.getLast?_eq_some_getLast hgiven]
  split
  case isTrue hright =>
    rw [if_pos (of_decide_eq_true hright)]
    rfl
  case isFalse hright =>
    have htarget : target ≠ TARGET_QCA1530 := fun htarget => hright (decide_eq_true htarget)
    rw [if_neg htarget, hvote htarget]

theorem vote_proc (hs : Kept target s given) (hdata : s.afwData = some data)
    {ret : LocApiAdapterErr} {msg : LifeMsg} (hmsg : msg.Plain) :
    (s.proc data ret msg).2.foldl Effect.vote (wanted target given) = wanted target given := by
  cases msg with
  | command command => exact vote_deliver s data _ _
  | event event =>
      change List.foldl _ _ (_ ++ _) = _
      rw [List.foldl_append, vote_deliver]
      split
      case isTrue =>
        rw [List.foldl_cons]
        exact vote_again hs hdata none fun _ => rfl
      case isFalse => rfl
  | reportSv =>
      change List.foldl _ _ (ite _ _ _) = _
      split
      case isFalse => rfl
      case isTrue =>
        rw [List.foldl_append, vote_map fun _ _ => rfl]
        split
        case isFalse => rfl
        case isTrue => exact vote_map (fun _ _ => rfl) _
  | reportNmea => exact vote_map (fun _ _ => rfl) _
  | gpsLock lockMask =>
      change ite _ _ (ite _ _ _) = _
      rw [if_neg hmsg.2, if_neg hmsg.1]

theorem wanted_none (htarget : target ≠ TARGET_QCA1530) : wanted target given = none :=
  if_neg htarget

/-- The effects of a step make the vote that is wanted after it. -/
theorem vote_machine (hs : Kept target s given) (hqueue : ∀ msg ∈ s.queue, msg.Plain)
    (input : LifeInput) (hfault : s.fault = false)
    (hfault' : (Loc.machine target s input).1.fault = false) :
    (Loc.machine target s input).2.foldl Effect.vote (wanted target given) =
      wanted target (given ++ input.requests) := by
  have hkept := Loc.kept_machine (fun _ => hs) input hfault'
  have hstay (hnone : input.requests = []) :
      wanted target (given ++ input.requests) = wanted target given := by
    rw [hnone, List.append_nil]
  unfold Loc.machine at hfault' hkept ⊢
  rw [if_neg (Bool.eq_false_iff.mp hfault)] at hfault' hkept ⊢
  cases input with
  | init callbacks conf =>
      cases callbacks with
      | none => exact (hstay rfl).symm
      | some callbacks =>
          obtain ⟨cbs, heffects⟩ := Loc.effects_init s target callbacks conf
          change (s.init target callbacks conf).2.foldl _ _ = _
          rw [heffects, List.foldl_append, vote_map fun _ _ => rfl]
          exact vote_again hkept (Loc.afwData_init s target callbacks conf) _ wanted_none
  | cleanup conf =>
      change (s.cleanup conf).1.fault = false at hfault'
      change Kept target (s.cleanup conf).1 _ at hkept
      change (s.cleanup conf).2.foldl _ _ = _
      rw [Loc.cleanup] at hfault' hkept ⊢
      cases hdata : s.afwData with
      | none =>
          rw [hdata] at hfault'
          cases hfault'
      | some data =>
          rw [hdata] at hkept
          exact vote_again hkept rfl _ wanted_none
  | send msg => exact (hstay rfl).symm
  | msgTask ret =>
      rw [hstay rfl]
      change (s.msgTask ret).2.foldl _ _ = _
      rw [Loc.msgTask]
      split
      case h_2 => rfl
      case h_1 data msg queue hdata hmsgs =>
        exact vote_proc hs hdata (hqueue msg (hmsgs ▸ List.mem_cons_self))

theorem queue_machine (hqueue : ∀ msg ∈ s.queue, msg.Plain) {input : LifeInput}
    (hinput : input.Plain) : ∀ msg ∈ (Loc.machine target s input).1.queue, msg.Plain := by
  have hnew {msgs : List LifeMsg} (hmsgs : ∀ msg ∈ msgs, msg.Plain) :
      ∀ msg ∈ s.queue ++ msgs, msg.Plain :=
    fun msg hmsg => (List.mem_append.mp hmsg).elim (hqueue msg) (hmsgs msg)
  unfold Loc.machine
  split
  case isTrue => exact hqueue
  case isFalse =>
    cases input with
    | init callbacks conf =>
        cases callbacks with
        | none => exact hqueue
        | some callbacks =>
            change ∀ msg ∈ (s.init target callbacks conf).1.queue, msg.Plain
            rw [Loc.init]
            cases s.afwData
            all_goals exact hnew (List.forall_mem_singleton.mpr ⟨by decide, by decide⟩)
    | cleanup conf =>
        change ∀ msg ∈ (s.cleanup conf).1.queue, msg.Plain
        rw [Loc.cleanup]
        split
        case h_1 => exact hqueue
        case h_2 data hdata =>
          apply hnew
          intro msg hmsg
          rcases List.mem_cons.mp hmsg with rfl | hmsg
          · exact hinput
          · split at hmsg
            case isTrue =>
              obtain rfl := List.mem_singleton.mp hmsg
              trivial
            case isFalse => cases hmsg
    | send sent =>
        change ∀ msg ∈ (s.send sent).queue, msg.Plain
        rw [Loc.send]
        split
        case isTrue => exact hnew (List.forall_mem_singleton.mpr hinput)
        case isFalse => exact hqueue
    | msgTask ret =>
        change ∀ msg ∈ (s.msgTask ret).1.queue, msg.Plain
        rw [Loc.msgTask]
        split
        case h_1 data msg queue hdata hmsgs =>
          exact fun msg hmsg => hqueue msg (hmsgs ▸ List.mem_cons_of_mem _ hmsg)
        case h_2 => exact hqueue

/-- On a target with the right to vote, the modem has the vote of the last `loc_init` or
`loc_cleanup`, also after each restart of which it told. Other targets never vote. -/
theorem vote_kept (target : UInt32) (inputs : List LifeInput)
    (hinputs : ∀ input ∈ inputs, input.Plain) :
    let t := run (lifeStep target) lifeStart inputs
    t.state.fault = false →
      modemVote t.log = wanted target (inputs.flatMap LifeInput.requests) := by
  intro t
  have hstep (t : Lifetime) (input : LifeInput) (given : List (Option GpsCallbacks))
      (ht : t.state.fault = false → Voted target t given) (hinput : input.Plain) :
      (lifeStep target t input).state.fault = false →
        Voted target (lifeStep target t input) (given ++ input.requests) := by
    intro hfault'
    have hfault : t.state.fault = false := by
      apply Bool.eq_false_iff.mpr
      intro hfault
      change (Loc.machine target t.state input).1.fault = false at hfault'
      rw [Loc.machine_of_fault input hfault, hfault] at hfault'
      cases hfault'
    obtain ⟨hkept, hqueue, hvote⟩ := ht hfault
    constructor
    · exact Loc.kept_machine (fun _ => hkept) input hfault'
    · exact queue_machine hqueue hinput
    · rw [modemVote] at hvote
      rw [modemVote, lifeStep, Traced.step_log, List.foldl_append, hvote]
      exact vote_machine hkept hqueue input hfault hfault'
  have hstart (hfault : lifeStart.state.fault = false) : Voted target lifeStart [] :=
    ⟨kept_run target [] hfault, List.forall_mem_nil _, (ite_self none).symm⟩
  have hrun := run_contributions hstep hstart
    (meets_of_forall (lifeStep target) lifeStart hinputs)
  rw [contributions_eq_flatMap] at hrun
  exact fun hfault => (hrun hfault).vote

end Vote

/-- A restart of the modem between two inits. -/
theorem vote_kept_restarted :
    modemVote (run (lifeStep TARGET_QCA1530) lifeStart (secondInit ++
      [.send (.event .engineUp), .msgTask .success, .msgTask .success])).log = some true :=
  vote_kept TARGET_QCA1530 _
    (by simp [secondInit, LifeInput.Plain, LifeMsg.Plain]) (by decide)

end G2Common.Eng
