import G2Common.Transition
import G2Common.Agps.DataServices

/-!
The AGPS part of the location engine: the four machines of
`loc_eng_data_s_type`, the messages that are processed on them one at a time,
and the restart of the modem, which drops the subscribers of two machines and
leaves everything else as it was.
-/

namespace G2Common.Agps

open Transition AgpsStateMachine

/-- `GNSS_TARGET` -/
inductive GnssTarget where
  | none | msm | gss | mdm | qca1530 | pds | auto | unknown
  deriving DecidableEq, Repr

/-- Which of the machines a pointer names. -/
inductive Nif where
  | agnss | internet | wifi | ds
  deriving DecidableEq, Repr

/-- `effects` are the calls into the adapter that no machine makes. -/
structure LocEng where
  agpsStatusCb : Bool
  agnssNif : Option AgpsStateMachine
  internetNif : Option AgpsStateMachine
  wifiNif : Option AgpsStateMachine
  dsNif : Option AgpsStateMachine
  effects : List Effect
  deriving DecidableEq, Repr

namespace LocEng

def nif (s : LocEng) : Nif → Option AgpsStateMachine
  | .agnss => s.agnssNif
  | .internet => s.internetNif
  | .wifi => s.wifiNif
  | .ds => s.dsNif

/-- The call of a method of one machine; without that machine nothing happens. -/
def onNif (s : LocEng) (nif : Nif) (f : AgpsStateMachine → AgpsStateMachine) : LocEng :=
  match nif with
  | .agnss => { s with agnssNif := s.agnssNif.map f }
  | .internet => { s with internetNif := s.internetNif.map f }
  | .wifi => { s with wifiNif := s.wifiNif.map f }
  | .ds => { s with dsNif := s.dsNif.map f }

def did (s : LocEng) (e : Effect) : LocEng := { s with effects := s.effects ++ [e] }

/-- The virtual `sendRsrcRequest`. -/
def send (answers : Answers) : Nif → SendRsrcRequest
  | .ds => DSStateMachine.sendRsrcRequest answers
  | _ => sendRsrcRequest

/-- The virtual `onRsrcEvent`. -/
def onRsrcEvent (answers : Answers) (event : AgpsRsrcStatus) :
    Nif → AgpsStateMachine → AgpsStateMachine
  | .ds => DSStateMachine.onRsrcEvent answers event
  | _ => AgpsStateMachine.onRsrcEvent sendRsrcRequest event

def getAgpsStateMachine (s : LocEng) : AGpsExtType → Nif
  | .wifi => .wifi
  | .invalid | .supl => .agnss
  | .suplEs => if s.dsNif.isSome then .ds else .agnss
  | _ => .internet

/-- `loc_eng_agps_init`, with `statusCb` the callback inside the structure that
may be missing as a whole. -/
def agpsInit (statusCb : Option Bool) (gnssType : GnssTarget) (s : LocEng) : LocEng :=
  match s.agpsStatusCb, statusCb with
  | false, some statusCb =>
      { s with
        agpsStatusCb := statusCb
        internetNif := some (.new .wwanAny false)
        wifiNif := some (.new .wifi true)
        agnssNif :=
          if gnssType ≠ .gss ∧ gnssType ≠ .qca1530 then some (.new .supl false)
          else s.agnssNif }
  | _, _ => s

/-- What the message queue holds, and the calls from the framework. A message
that was made for a machine names it; `raw` is the memory behind a subscriber
that has no IPv6 address. -/
inductive Msg where
  | agpsInit (statusCb : Option Bool) (gnssType : GnssTarget)
  | dataClientInit (ret : Int)
  | requestATL (id : UInt32) (type : AGpsExtType) (raw : Vector UInt8 16)
  | requestSuplEs (id : UInt32) (raw : Vector UInt8 16)
  | releaseATL (id : UInt32) (raw : Vector UInt8 16)
  | reqRelBIT (type : AGpsExtType) (ipv4 : UInt32) (ipv6 : Vector UInt8 16) (isReq : Bool)
  | reqRelWifi (type : AGpsExtType) (senderId : SenderId) (ssid password : Option (List UInt8))
      (raw : Vector UInt8 16) (isReq : Bool)
  | suplEsOpened
  | suplEsClosed
  | atlOpenSuccess (nif : Nif) (apn : List UInt8) (bearerType : AGpsBearerType)
  | atlClosed (nif : Nif)
  | atlOpenFailed (nif : Nif)
  | engineDown
  | engineUp
  deriving DecidableEq, Repr

def subscribeRsrc (s : LocEng) (answers : Answers) (nif : Nif) (subscriber : Subscriber) :
    LocEng :=
  s.onNif nif (·.subscribeRsrc (send answers nif) subscriber)

def unsubscribeRsrc (s : LocEng) (answers : Answers) (nif : Nif) (subscriber : Subscriber) :
    LocEng :=
  s.onNif nif fun m => (m.unsubscribeRsrc (send answers nif) subscriber).2

/-- Does the machine know the subscriber? Then `unsubscribeRsrc` returns true. -/
def knows (s : LocEng) (nif : Nif) (subscriber : Subscriber) : Bool :=
  (s.nif nif).any fun m => m.mSubscribers.any (·.forMe (.matchSubscriber subscriber))

/-- `LocEngReleaseATL::proc`: the first machine that knows the handle takes it. -/
def releaseATL (s : LocEng) (answers : Answers) (id : UInt32) (raw : Vector UInt8 16) : LocEng :=
  let atl := ATLSubscriber id false raw
  if s.knows .agnss atl then s.unsubscribeRsrc answers .agnss atl
  else if s.knows .internet atl then s.unsubscribeRsrc answers .internet atl
  else if s.knows .ds (DSSubscriber id) then s.unsubscribeRsrc answers .ds (DSSubscriber id)
  else s.did (.atlCloseStatus id false)

/-- `loc_eng_handle_engine_up`, as far as the machines are concerned. -/
def handleEngineUp (s : LocEng) : LocEng :=
  if s.agpsStatusCb then
    (s.onNif .agnss dropAllSubscribers).onNif .internet dropAllSubscribers
  else
    s

def proc (answers : Answers) (s : LocEng) : Msg → LocEng
  | .agpsInit statusCb gnssType => s.agpsInit statusCb gnssType
  | .dataClientInit ret =>
      if ret = 0 then { s with dsNif := some DSStateMachine.new } else s
  | .requestATL id type raw =>
      let nif := s.getAgpsStateMachine type
      if (s.nif nif).isSome then
        s.subscribeRsrc answers nif (ATLSubscriber id (decide (type = .invalid)) raw)
      else
        s.did (.atlOpenStatus id false none .invalid type)
  | .requestSuplEs id raw =>
      if s.dsNif.isSome then s.subscribeRsrc answers .ds (DSSubscriber id)
      else if s.agnssNif.isSome then
        s.subscribeRsrc answers .agnss (ATLSubscriber id false raw)
      else
        s.did (.atlOpenStatus id false none .invalid .invalid)
  | .releaseATL id raw => s.releaseATL answers id raw
  | .reqRelBIT type ipv4 ipv6 isReq =>
      let nif := s.getAgpsStateMachine type
      if isReq then s.subscribeRsrc answers nif (BITSubscriber ipv4 ipv6)
      else s.unsubscribeRsrc answers nif (BITSubscriber ipv4 ipv6)
  | .reqRelWifi type senderId ssid password raw isReq =>
      let subscriber := WIFISubscriber ssid password senderId raw
      if s.wifiNif.isSome then
        if isReq then s.subscribeRsrc answers .wifi subscriber
        else s.unsubscribeRsrc answers .wifi subscriber
      else
        s.did (.atlOpenStatus senderId.toID false none .invalid type)
  | .suplEsOpened => s.onNif .ds (onRsrcEvent answers .granted .ds)
  | .suplEsClosed => s.onNif .ds (onRsrcEvent answers .released .ds)
  | .atlOpenSuccess nif apn bearerType =>
      s.onNif nif fun m =>
        onRsrcEvent answers .granted nif ((m.setBearer bearerType).setAPN (some apn))
  | .atlClosed nif => s.onNif nif (onRsrcEvent answers .released nif)
  | .atlOpenFailed nif => s.onNif nif (onRsrcEvent answers .denied nif)
  | .engineDown => s
  | .engineUp => s.handleEngineUp

def start : LocEng := ⟨false, none, none, none, none, []⟩

/-- The engine before a step, with the effects of the steps before cleared. -/
def cleared (s : LocEng) : LocEng where
  agpsStatusCb := s.agpsStatusCb
  agnssNif := s.agnssNif.map fun m => { m with effects := [] }
  internetNif := s.internetNif.map fun m => { m with effects := [] }
  wifiNif := s.wifiNif.map fun m => { m with effects := [] }
  dsNif := s.dsNif.map fun m => { m with effects := [] }
  effects := []

/-- One message, with what the environment answers in the step; `effects` hold
those of the last step only. -/
def step (s : LocEng) (input : Msg × Answers) : LocEng := proc input.2 s.cleared input.1

/-- The subscribers that are created for a connection handle of the modem. -/
def isModemHandle (s : Subscriber) : Bool :=
  match s.cls with
  | .atl _ | .ds _ => true
  | _ => false

def releasesNif : Effect → Bool
  | .requestRsrc nifRequest => nifRequest.status == .releaseAgpsDataConn
  | .stopDataCall => true
  | _ => false

/-- After the restart the machine lists no handle of the modem, and with an
empty list it is in Released, and it let go of what it held. -/
structure Settled (before after : AgpsStateMachine) : Prop where
  noHandle : ∀ x ∈ after.mSubscribers, isModemHandle x = false
  released : after.mSubscribers = [] → after.mStatePtr = .released
  letGo : after.mSubscribers = [] →
    before.mStatePtr = .pending ∨ before.mStatePtr = .acquired →
      ∃ e ∈ after.effects, releasesNif e = true

/-- The machines of modem handles that exist are settled by the restart. -/
def RestartSettles (s : LocEng) (answers : Answers) : Prop :=
  ∀ nif ∈ [Nif.agnss, .internet, .ds], ∀ before ∈ s.nif nif,
    ∃ after ∈ (step s (.engineUp, answers)).nif nif, Settled before after

/-- The two machines whose subscribers are dropped hold nothing, and the third
one lists no handle of the modem. -/
structure Idle (s : LocEng) : Prop where
  agnss : ∀ m ∈ s.agnssNif, m.mStatePtr = .released
  internet : ∀ m ∈ s.internetNif, m.mStatePtr = .released
  dsHandles : ∀ m ∈ s.dsNif, ∀ x ∈ m.mSubscribers, isModemHandle x = false
  dsState : ∀ m ∈ s.dsNif, m.mSubscribers = [] → m.mStatePtr = .released

theorem handleEngineUp_nif {s : LocEng} (h : s.agpsStatusCb = true) (answers : Answers)
    (nif : Nif) :
    (step s (.engineUp, answers)).nif nif =
      (s.nif nif).map fun m =>
        { m with
          effects := []
          mSubscribers := if nif = .agnss ∨ nif = .internet then [] else m.mSubscribers } := by
  obtain ⟨cb, agnss, internet, wifi, ds, effects⟩ := s
  obtain rfl : cb = true := h
  cases nif <;> simp [step, proc, handleEngineUp, cleared, onNif, LocEng.nif, Function.comp_def,
    dropAllSubscribers]

/-- A machine whose subscribers are dropped. -/
theorem settled_dropped (m : AgpsStateMachine) :
    Settled m { m with effects := [], mSubscribers := [] } ↔ m.mStatePtr = .released := by
  refine ⟨fun h => h.released rfl, fun hstate => ⟨by simp, fun _ => hstate, ?_⟩⟩
  intro _ hheld
  simp [hstate] at hheld

/-- A machine that the restart leaves alone. -/
theorem settled_kept (m : AgpsStateMachine) :
    Settled m { m with effects := [] } ↔
      (∀ x ∈ m.mSubscribers, isModemHandle x = false) ∧
        (m.mSubscribers = [] → m.mStatePtr = .released) := by
  refine ⟨fun h => ⟨h.noHandle, h.released⟩, fun ⟨hnone, hstate⟩ => ⟨hnone, hstate, ?_⟩⟩
  intro hempty hheld
  simp [hstate hempty] at hheld

theorem settles_nif {s : LocEng} (h : s.agpsStatusCb = true) (answers : Answers) (nif : Nif)
    (before : AgpsStateMachine) (hbefore : before ∈ s.nif nif) :
    (∃ after ∈ (step s (.engineUp, answers)).nif nif, Settled before after) ↔
      Settled before
        { before with
          effects := []
          mSubscribers :=
            if nif = .agnss ∨ nif = .internet then [] else before.mSubscribers } := by
  rw [handleEngineUp_nif h, Option.mem_def.mp hbefore]
  simp

/-- In every run the restart settles the machines exactly if it finds the first
two in Released and no handle of the modem on the third. -/
theorem restart_settles_iff (inputs : List (Msg × Answers)) (answers : Answers)
    (h : (run step start inputs).agpsStatusCb = true) :
    RestartSettles (run step start inputs) answers ↔ Idle (run step start inputs) := by
  generalize run step start inputs = s at h
  have hone (nif : Nif) (before : AgpsStateMachine) (hbefore : before ∈ s.nif nif) :=
    settles_nif h answers nif before hbefore
  constructor
  · intro hsettles
    have hnif (nif : Nif) (hmem : nif ∈ [Nif.agnss, .internet, .ds])
        (before : AgpsStateMachine) (hbefore : before ∈ s.nif nif) :=
      (hone nif before hbefore).mp (hsettles nif hmem before hbefore)
    refine ⟨fun m hm => ?_, fun m hm => ?_, fun m hm => ?_, fun m hm => ?_⟩
    · exact (settled_dropped m).mp (hnif .agnss (by simp) m hm)
    · exact (settled_dropped m).mp (hnif .internet (by simp) m hm)
    · exact ((settled_kept m).mp (hnif .ds (by simp) m hm)).1
    · exact ((settled_kept m).mp (hnif .ds (by simp) m hm)).2
  · intro hidle nif hmem before hbefore
    apply (hone nif before hbefore).mpr
    cases nif with
    | agnss => exact (settled_dropped before).mpr (hidle.agnss before hbefore)
    | internet => exact (settled_dropped before).mpr (hidle.internet before hbefore)
    | wifi => simp at hmem
    | ds =>
        exact (settled_kept before).mpr
          ⟨hidle.dsHandles before hbefore, hidle.dsState before hbefore⟩

/-- A client whose connection was closed before the restart. -/
theorem restart_settles_closed :
    RestartSettles
      (run step start
        [(.agpsInit (some true) .msm, ⟨0, .noMemory⟩), (.dataClientInit 0, ⟨0, .noMemory⟩),
          (.requestATL 1 .supl (Vector.replicate 16 0), ⟨0, .noMemory⟩),
          (.atlOpenSuccess .agnss [] .ipv4, ⟨0, .noMemory⟩),
          (.releaseATL 1 (Vector.replicate 16 0), ⟨0, .noMemory⟩)])
      ⟨0, .noMemory⟩ :=
  (restart_settles_iff _ _ (by decide)).mpr
    ⟨by decide, by decide, by decide, by decide⟩

/-- A client that waits for its connection when the modem restarts: the machine
stays in Pending with an empty list. -/
theorem restart_leaves_pending :
    ¬∀ (inputs : List (Msg × Answers)) (answers : Answers),
      (run step start inputs).agpsStatusCb = true →
        RestartSettles (run step start inputs) answers := by
  intro hall
  obtain ⟨after, hafter, hsettled⟩ :=
    hall
      [(.agpsInit (some true) .msm, ⟨0, .noMemory⟩),
        (.requestATL 1 .supl (Vector.replicate 16 0), ⟨0, .noMemory⟩)]
      ⟨0, .noMemory⟩ (by decide) .agnss (by simp) _ rfl
  obtain rfl := Option.some.inj hafter
  exact absurd (hsettled.released rfl) (by decide)

end LocEng

end G2Common.Agps
