import G2Common.Agps.Handover

/-!
The reports of the framework on their way through the queue, and the machines that are handed
them: the name and the bearer in an answer are those of the last report for its machine.
-/

namespace G2Common.Agps

open Transition AgpsStateMachine

/-- The machine `nif` that a connection of the modem, of the framework or of a network is asked
from has this type. -/
def Nif.type : Nif → AGpsExtType
  | .agnss => .supl
  | .internet => .wwanAny
  | .wifi => .wifi
  | .ds => .invalid

namespace LocEng

variable {s next last : LocEng} {answers : Answers}

/-- The machines that are not those of the data services serve no report. -/
def ServesAll (s next : LocEng) : Prop :=
  ∀ nif, nif ≠ .ds →
    ∃ f, next.nif nif = (s.nif nif).map f ∧ ∀ m, NoDS m → Serves False m (f m)

theorem ServesAll.refl (s : LocEng) : ServesAll s s := fun _ _ =>
  ⟨id, (Option.map_id_apply).symm, fun _ hds => Serves.refl hds _⟩

theorem nif_onNif (s : LocEng) (nif other : Nif) (f : AgpsStateMachine → AgpsStateMachine) :
    (s.onNif nif f).nif other = if other = nif then (s.nif other).map f else s.nif other := by
  cases nif
  all_goals cases other
  all_goals rfl

theorem servesAll_onNif (s : LocEng) (nif : Nif) {f : AgpsStateMachine → AgpsStateMachine}
    (hf : nif ≠ .ds → ∀ m, NoDS m → Serves False m (f m)) : ServesAll s (s.onNif nif f) := by
  intro other hother
  rw [nif_onNif]
  by_cases heq : other = nif
  · rw [if_pos heq]
    exact ⟨f, rfl, hf (heq ▸ hother)⟩
  · rw [if_neg heq]
    exact ServesAll.refl s other hother

theorem send_plain {nif : Nif} (hnif : nif ≠ .ds) : send answers nif = sendRsrcRequest := by
  cases nif with
  | ds => exact absurd rfl hnif
  | _ => rfl

theorem onRsrcEvent_plain {nif : Nif} (hnif : nif ≠ .ds) (event : AgpsRsrcStatus) :
    onRsrcEvent answers event nif = AgpsStateMachine.onRsrcEvent sendRsrcRequest event := by
  cases nif with
  | ds => exact absurd rfl hnif
  | _ => rfl

theorem servesAll_subscribeRsrc (s : LocEng) (answers : Answers) (nif : Nif)
    {subscriber : Subscriber} (h : nif ≠ .ds → subscriber.isDS = false) :
    ServesAll s (s.subscribeRsrc answers nif subscriber) := by
  apply servesAll_onNif
  intro hnif m hds
  rw [send_plain hnif]
  exact serves_subscribeRsrc hds (h hnif)

theorem servesAll_unsubscribeRsrc (s : LocEng) (answers : Answers) (nif : Nif)
    (subscriber : Subscriber) : ServesAll s (s.unsubscribeRsrc answers nif subscriber) := by
  apply servesAll_onNif
  intro hnif m hds
  rw [send_plain hnif]
  exact serves_unsubscribeRsrc hds subscriber

theorem servesAll_onRsrcEvent (s : LocEng) (answers : Answers) (nif : Nif) {event : AgpsRsrcStatus}
    (hevent : nif ≠ .ds → event ≠ .granted) :
    ServesAll s (s.onNif nif (onRsrcEvent answers event nif)) := by
  apply servesAll_onNif
  intro hnif m hds
  rw [onRsrcEvent_plain hnif]
  exact (serves_onRsrcEvent hds event).mono (hevent hnif)

theorem servesAll_releaseATL (s : LocEng) (answers : Answers) (id : UInt32)
    (raw : Vector UInt8 16) : ServesAll s (s.releaseATL answers id raw) := by
  rw [releaseATL]
  split
  · exact servesAll_unsubscribeRsrc s answers _ _
  split
  · exact servesAll_unsubscribeRsrc s answers _ _
  split
  · exact servesAll_unsubscribeRsrc s answers _ _
  · exact ServesAll.refl s

theorem serves_dropAllSubscribers {m : AgpsStateMachine} (hds : NoDS m) :
    Serves False m m.dropAllSubscribers :=
  ⟨(Tells.refl hds).withSubscribers fun _ hx => absurd hx List.not_mem_nil, .inl⟩

theorem servesAll_handleEngineUp (s : LocEng) : ServesAll s s.handleEngineUp := by
  rw [handleEngineUp]
  split
  · intro nif hnif
    rw [nif_onNif, nif_onNif]
    cases nif with
    | agnss | internet => exact ⟨_, rfl, fun _ hds => serves_dropAllSubscribers hds⟩
    | wifi | ds => exact ServesAll.refl s _ hnif
  · exact ServesAll.refl s

/-- Which messages the thread finds in its queue. -/
def Msg.isInit : Msg → Bool
  | .agpsInit _ _ => true
  | _ => false

theorem servesAll_proc (s : LocEng) (answers : Answers) {msg : Msg} (hreport : msg.report = none)
    (hinit : msg.isInit = false) : ServesAll s (s.proc answers msg) := by
  cases msg with
  | agpsInit => cases hinit
  | atlOpenSuccess => cases hreport
  | dataClientInit ret =>
      rw [proc]
      split
      · intro nif hnif
        cases nif with
        | ds => exact absurd rfl hnif
        | _ => exact ServesAll.refl s _ hnif
      · exact ServesAll.refl s
  | requestATL id type raw =>
      rw [proc]
      split
      · exact servesAll_subscribeRsrc s answers _ fun _ => rfl
      · exact ServesAll.refl s
  | requestSuplEs id raw =>
      rw [proc]
      split
      · exact servesAll_subscribeRsrc s answers _ fun h => absurd rfl h
      split
      · exact servesAll_subscribeRsrc s answers _ fun _ => rfl
      · exact ServesAll.refl s
  | releaseATL id raw => exact servesAll_releaseATL s answers id raw
  | reqRelBIT type ipv4 ipv6 isReq =>
      rw [proc]
      split
      · exact servesAll_subscribeRsrc s answers _ fun _ => rfl
      · exact servesAll_unsubscribeRsrc s answers _ _
  | reqRelWifi type senderId ssid password raw isReq =>
      rw [proc]
      split
      · split
        · exact servesAll_subscribeRsrc s answers _ fun _ => rfl
        · exact servesAll_unsubscribeRsrc s answers _ _
      · exact ServesAll.refl s
  | suplEsOpened => exact servesAll_onRsrcEvent s answers .ds fun h => absurd rfl h
  | suplEsClosed => exact servesAll_onRsrcEvent s answers .ds fun h => absurd rfl h
  | atlClosed nif => exact servesAll_onRsrcEvent s answers nif fun _ h => by cases h
  | atlOpenFailed nif => exact servesAll_onRsrcEvent s answers nif fun _ h => by cases h
  | engineDown => exact ServesAll.refl s
  | engineUp => exact servesAll_handleEngineUp s

theorem nif_cleared (s : LocEng) (nif : Nif) :
    s.cleared.nif nif = (s.nif nif).map fun m => { m with effects := [] } := by
  cases nif
  all_goals rfl

end LocEng

/-- A machine with the name and the bearer of the report, if there was one. -/
structure Holds (report : Option OpenReport) (type : AGpsExtType) (m : AgpsStateMachine) :
    Prop where
  mAPN : m.mAPN = report.map (·.apn)
  mBearer : m.mBearer = (report.map (·.bearerType)).getD .invalid
  mType : m.mType = type
  noDS : NoDS m
  acquired : m.mStatePtr = .acquired → report.isSome

/-- An answer on a connection that was reported as it says. -/
def Conforms (report : Option OpenReport) (type : AGpsExtType) : Effect → Prop
  | .atlOpenStatus _ isSucc apn bearer answered =>
      apn = report.map (·.apn) ∧ bearer = (report.map (·.bearerType)).getD .invalid ∧
        (answered = .invalid ∨ answered = type) ∧ (isSucc = true → report.isSome)
  | _ => True

section Holds

variable {report : Option OpenReport} {type : AGpsExtType} {m next : AgpsStateMachine}
  {granted : Prop}

theorem Holds.serves (h : Holds report type m) (hserves : Serves granted m next)
    (hgranted : granted → report.isSome) : Holds report type next where
  mAPN := hserves.tells.mAPN.trans h.mAPN
  mBearer := hserves.tells.mBearer.trans h.mBearer
  mType := hserves.tells.mType.trans h.mType
  noDS := hserves.tells.noDS
  acquired hstate := (hserves.acquired hstate).elim h.acquired hgranted

theorem Holds.conforms (h : Holds report type m) (hserves : Serves granted m next)
    (hgranted : granted → report.isSome) (heffects : m.effects = []) :
    ∀ e ∈ next.effects, Conforms report type e := by
  obtain ⟨more, hmore, hsays⟩ := hserves.tells.said
  intro e he
  rw [hmore, heffects] at he
  have hsaid := hsays e he
  cases e with
  | atlOpenStatus =>
      obtain ⟨hAPN, hBearer, hType, hok⟩ := hsaid
      exact ⟨hAPN.trans h.mAPN, hBearer.trans h.mBearer, hType.imp_right (·.trans h.mType),
        fun hsucc => (hok hsucc).elim h.acquired hgranted⟩
  | _ => trivial

/-- The machine that a report is handed to. -/
theorem Holds.reported (h : Holds report type m) (r : OpenReport) :
    Holds (some r) type ((m.setBearer r.bearerType).setAPN (some r.apn)) :=
  ⟨rfl, rfl, h.mType, h.noDS, fun _ => rfl⟩

end Holds

def HandoverEntry.taken : HandoverEntry → Option OpenReport
  | .took report => some report
  | _ => none

/-- The report for a machine that was taken last. -/
def latest (log : List HandoverEntry) (nif : Nif) : Option OpenReport :=
  ((log.filterMap HandoverEntry.taken).filter (·.nif = nif)).getLast?

/-- Each answer of a machine conforms to the report that the machine was handed last. -/
def Answered (log : List HandoverEntry) : Prop :=
  ∀ before nif effect after, nif ≠ .ds → log = before ++ .called (some nif) effect :: after →
    Conforms (latest before nif) nif.type effect

section Log

variable {log new : List HandoverEntry} {nif : Nif}

theorem latest_plain (hnew : new.filterMap HandoverEntry.taken = []) :
    latest (log ++ new) nif = latest log nif := by
  rw [latest, List.filterMap_append, hnew, List.append_nil, latest]

theorem latest_took (report : OpenReport) :
    latest (log ++ [.took report]) nif =
      if report.nif = nif then some report else latest log nif := by
  rw [latest, List.filterMap_append, List.filter_append]
  by_cases h : report.nif = nif
  · rw [if_pos h]
    have hfilter : (List.filterMap HandoverEntry.taken [.took report]).filter
        (·.nif = nif) = [report] := by
      simp [HandoverEntry.taken, h]
    rw [hfilter, List.getLast?_concat]
  · rw [if_neg h]
    have hfilter : (List.filterMap HandoverEntry.taken [.took report]).filter
        (·.nif = nif) = [] := by
      simp [HandoverEntry.taken, h]
    rw [hfilter, List.append_nil, latest]

theorem Answered.append (h : Answered log)
    (hnew : ∀ before nif effect after, nif ≠ .ds →
      new = before ++ .called (some nif) effect :: after →
        Conforms (latest (log ++ before) nif) nif.type effect) : Answered (log ++ new) := by
  intro before nif effect after hnif heq
  rcases List.append_eq_append_iff.mp heq with ⟨rest, hbefore, hrest⟩ | ⟨rest, hlog, hrest⟩
  · rw [hbefore]
    exact hnew rest nif effect after hnif hrest
  · cases rest with
    | nil =>
        rw [List.append_nil] at hlog
        have hfirst := hnew [] nif effect after hnif hrest.symm
        rwa [List.append_nil, hlog] at hfirst
    | cons entry rest =>
        obtain ⟨rfl, -⟩ := List.cons.inj hrest
        exact h before nif effect rest hnif hlog

/-- Entries that are no calls of a machine. -/
theorem Answered.plain (h : Answered log)
    (hnew : ∀ nif effect, .called (some nif) effect ∉ new) : Answered (log ++ new) := by
  apply h.append
  rintro before nif effect after - rfl
  exact absurd (by simp) (hnew nif effect)

end Log

namespace LocEng

variable {s : LocEng} {answers : Answers}

theorem mem_calls {nif : Nif} {effect : Effect}
    (h : HandoverEntry.called (some nif) effect ∈ s.calls) :
    ∃ m ∈ s.nif nif, effect ∈ m.effects := by
  rw [calls] at h
  rcases List.mem_append.mp h with h | h
  · obtain ⟨other, -, h⟩ := List.mem_flatMap.mp h
    obtain ⟨e, he, heq⟩ := List.mem_map.mp h
    injection heq with hother heffect
    injection hother with hother
    subst hother heffect
    cases hm : s.nif other with
    | none =>
        rw [hm] at he
        cases he
    | some m =>
        rw [hm] at he
        exact ⟨m, rfl, he⟩
  · obtain ⟨e, -, heq⟩ := List.mem_map.mp h
    cases heq

theorem taken_calls (s : LocEng) : s.calls.filterMap HandoverEntry.taken = [] := by
  rw [List.filterMap_eq_nil_iff]
  intro entry h
  rcases List.mem_append.mp h with h | h
  · obtain ⟨other, -, h⟩ := List.mem_flatMap.mp h
    obtain ⟨e, -, rfl⟩ := List.mem_map.mp h
    rfl
  · obtain ⟨e, -, rfl⟩ := List.mem_map.mp h
    rfl

def HoldsAll (log : List HandoverEntry) (s : LocEng) : Prop :=
  ∀ nif, nif ≠ .ds → ∀ m ∈ s.nif nif, Holds (latest log nif) nif.type m

/-- The report that a message hands to a machine, in the log. -/
def Msg.took (msg : Msg) : List HandoverEntry := msg.report.toList.map .took

/-- What a message does to a machine that holds what was reported. -/
theorem step_machine (s : LocEng) (answers : Answers) {msg : Msg} (hinit : msg.isInit = false)
    {nif : Nif} (hnif : nif ≠ .ds) (log : List HandoverEntry) :
    ∃ f, (s.step (msg, answers)).nif nif = (s.cleared.nif nif).map f ∧
      ∀ m, Holds (latest log nif) nif.type m → m.effects = [] →
        Holds (latest (log ++ msg.took) nif) nif.type (f m) ∧
          ∀ e ∈ (f m).effects, Conforms (latest (log ++ msg.took) nif) nif.type e := by
  cases hreport : msg.report with
  | none =>
      have htook : msg.took = [] := by rw [Msg.took, hreport]; rfl
      obtain ⟨f, hf, hserves⟩ := servesAll_proc s.cleared answers hreport hinit nif hnif
      refine ⟨f, hf, fun m hm heffects => ?_⟩
      rw [htook, List.append_nil]
      exact ⟨hm.serves (hserves m hm.noDS) False.elim,
        hm.conforms (hserves m hm.noDS) False.elim heffects⟩
  | some report =>
      have htook : msg.took = [.took report] := by rw [Msg.took, hreport]; rfl
      cases msg with
      | atlOpenSuccess target apn bearerType =>
          cases hreport
          rw [htook, latest_took]
          have hstep : (s.step (.atlOpenSuccess target apn bearerType, answers)).nif nif =
              if nif = target then _ else _ := nif_onNif s.cleared target nif _
          rw [hstep]
          by_cases heq : nif = target
          · rw [if_pos heq, if_pos heq.symm]
            refine ⟨_, rfl, fun m hm heffects => ?_⟩
            have hreported := hm.reported ⟨target, apn, bearerType⟩
            have hserves := serves_onRsrcEvent hreported.noDS .granted
            rw [onRsrcEvent_plain (heq ▸ hnif)]
            exact ⟨hreported.serves hserves fun _ => rfl,
              hreported.conforms hserves (fun _ => rfl) heffects⟩
          · rw [if_neg heq, if_neg (Ne.symm heq)]
            refine ⟨id, Option.map_id_apply.symm, fun m hm heffects => ⟨hm, ?_⟩⟩
            intro e he
            rw [id, heffects] at he
            cases he
      | _ => cases hreport

theorem step_holds {log : List HandoverEntry} (h : HoldsAll log s) {msg : Msg}
    (hinit : msg.isInit = false) {nif : Nif} (hnif : nif ≠ .ds) :
    ∀ m ∈ (s.step (msg, answers)).nif nif,
      Holds (latest (log ++ msg.took) nif) nif.type m ∧
        ∀ e ∈ m.effects, Conforms (latest (log ++ msg.took) nif) nif.type e := by
  obtain ⟨f, hf, hmachine⟩ := step_machine s answers hinit hnif log
  intro m hm
  rw [hf, nif_cleared, Option.map_map] at hm
  obtain ⟨old, hold, rfl⟩ := Option.map_eq_some_iff.mp hm
  have hheld := h nif hnif old hold
  exact hmachine _ ⟨hheld.mAPN, hheld.mBearer, hheld.mType, hheld.noDS, hheld.acquired⟩ rfl

end LocEng

namespace LocEng

/-- No machine comes or goes. -/
structure Keeps (s next : LocEng) : Prop where
  agpsStatusCb : next.agpsStatusCb = s.agpsStatusCb
  isSome : ∀ nif, (next.nif nif).isSome = (s.nif nif).isSome

theorem Keeps.refl (s : LocEng) : Keeps s s := ⟨rfl, fun _ => rfl⟩

theorem keeps_did (s : LocEng) (effect : Effect) : Keeps s (s.did effect) := ⟨rfl, fun _ => rfl⟩

theorem Keeps.trans {s next last : LocEng} (h : Keeps s next) (h' : Keeps next last) :
    Keeps s last :=
  ⟨h'.agpsStatusCb.trans h.agpsStatusCb, fun nif => (h'.isSome nif).trans (h.isSome nif)⟩

theorem keeps_onNif (s : LocEng) (nif : Nif) (f : AgpsStateMachine → AgpsStateMachine) :
    Keeps s (s.onNif nif f) where
  agpsStatusCb := by
    cases nif
    all_goals rfl
  isSome other := by
    rw [nif_onNif]
    split
    · exact Option.isSome_map
    · rfl

theorem keeps_cleared (s : LocEng) : Keeps s s.cleared where
  agpsStatusCb := rfl
  isSome nif := by
    rw [nif_cleared]
    exact Option.isSome_map

theorem keeps_releaseATL (s : LocEng) (answers : Answers) (id : UInt32) (raw : Vector UInt8 16) :
    Keeps s (s.releaseATL answers id raw) := by
  rw [releaseATL]
  split
  · exact keeps_onNif s _ _
  split
  · exact keeps_onNif s _ _
  split
  · exact keeps_onNif s _ _
  · exact keeps_did s _

def Msg.isDataClientInit : Msg → Bool
  | .dataClientInit _ => true
  | _ => false

theorem keeps_proc (s : LocEng) (answers : Answers) {msg : Msg} (hinit : msg.isInit = false)
    (hclient : msg.isDataClientInit = false) : Keeps s (s.proc answers msg) := by
  cases msg with
  | agpsInit => cases hinit
  | dataClientInit => cases hclient
  | requestATL id type raw =>
      rw [proc]
      split
      · exact keeps_onNif s _ _
      · exact keeps_did s _
  | requestSuplEs id raw =>
      rw [proc]
      split
      · exact keeps_onNif s _ _
      split
      · exact keeps_onNif s _ _
      · exact keeps_did s _
  | releaseATL id raw => exact keeps_releaseATL s answers id raw
  | reqRelBIT type ipv4 ipv6 isReq =>
      rw [proc]
      split
      all_goals exact keeps_onNif s _ _
  | reqRelWifi type senderId ssid password raw isReq =>
      rw [proc]
      split
      · split
        all_goals exact keeps_onNif s _ _
      · exact keeps_did s _
  | engineDown => exact Keeps.refl s
  | engineUp =>
      rw [proc, handleEngineUp]
      split
      · exact (keeps_onNif s .agnss _).trans (keeps_onNif _ .internet _)
      · exact Keeps.refl s
  | _ =>
      rw [proc]
      exact keeps_onNif s _ _

theorem keeps_step (s : LocEng) (answers : Answers) {msg : Msg} (hinit : msg.isInit = false)
    (hclient : msg.isDataClientInit = false) : Keeps s (s.step (msg, answers)) :=
  (keeps_cleared s).trans (keeps_proc s.cleared answers hinit hclient)

theorem agpsStatusCb_step (s : LocEng) (answers : Answers) {msg : Msg}
    (hinit : msg.isInit = false) : (s.step (msg, answers)).agpsStatusCb = s.agpsStatusCb := by
  cases hclient : msg.isDataClientInit with
  | false => exact (keeps_step s answers hinit hclient).agpsStatusCb
  | true =>
      cases msg with
      | dataClientInit ret =>
          rw [step, proc]
          split
          all_goals rfl
      | _ => cases hclient

end LocEng

/-- The report that a call of the framework makes. -/
def reportsOf (t : HandoverRun) : HandoverInput → List OpenReport
  | .agpsOpen agpsType (some apn) bearerType =>
      if t.state.eng.agpsStatusCb && !t.state.nullCalled
      then [⟨t.state.eng.getAgpsStateMachine agpsType, apn.take MAX_APN_LEN, bearerType⟩]
      else []
  | _ => []

/-- What every run keeps, where `given` are the reports that the framework made. -/
structure HandedOver (eng : LocEng) (queue : List LocEng.Msg) (log : List HandoverEntry)
    (given : List OpenReport) : Prop where
  holds : eng.HoldsAll log
  fresh : eng.agpsStatusCb = false →
    log.filterMap HandoverEntry.taken = [] ∧ queue.filterMap LocEng.Msg.report = []
  isInit : ∀ msg ∈ queue, msg.isInit = false
  answered : Answered log
  inOrder : log.filterMap HandoverEntry.taken ++ queue.filterMap LocEng.Msg.report = given

namespace HandedOver

variable {target : AgpsTarget} {eng : LocEng} {queue : List LocEng.Msg}
  {log : List HandoverEntry} {given : List OpenReport}

/-- A message is sent, or none is. -/
theorem send (h : HandedOver eng queue log given) (sent : List LocEng.Msg) (returned : List Int)
    (hinit : ∀ msg ∈ sent, msg.isInit = false)
    (hreport : eng.agpsStatusCb = false → sent.filterMap LocEng.Msg.report = []) :
    HandedOver eng (queue ++ sent) (log ++ returned.map .returned)
      (given ++ sent.filterMap LocEng.Msg.report) := by
  have htaken : (returned.map HandoverEntry.returned).filterMap HandoverEntry.taken = [] := by
    rw [List.filterMap_eq_nil_iff]
    intro entry hentry
    obtain ⟨ret, -, rfl⟩ := List.mem_map.mp hentry
    rfl
  refine ⟨?_, ?_, ?_, ?_, ?_⟩
  · intro nif hnif m hm
    rw [latest_plain htaken]
    exact h.holds nif hnif m hm
  · intro hcb
    obtain ⟨hlog, hqueue⟩ := h.fresh hcb
    rw [List.filterMap_append, List.filterMap_append, hlog, htaken, hqueue, hreport hcb]
    exact ⟨rfl, rfl⟩
  · intro msg hmsg
    exact (List.mem_append.mp hmsg).elim (h.isInit msg) (hinit msg)
  · apply h.answered.plain
    intro nif effect hmem
    obtain ⟨ret, -, heq⟩ := List.mem_map.mp hmem
    cases heq
  · rw [List.filterMap_append, List.filterMap_append, htaken, List.append_nil,
      ← List.append_assoc, h.inOrder]

/-- A message that hands nothing to a machine. -/
theorem sendMsg (h : HandedOver eng queue log given) {msg : LocEng.Msg}
    (hinit : msg.isInit = false) (hreport : msg.report = none) :
    HandedOver eng (queue ++ [msg]) (log ++ []) (given ++ []) := by
  have hnone : [msg].filterMap LocEng.Msg.report = [] := by
    rw [List.filterMap_cons_none hreport, List.filterMap_nil]
  have hsent := h.send [msg] [] (fun other hother => List.mem_singleton.mp hother ▸ hinit)
    fun _ => hnone
  rwa [hnone] at hsent

theorem stay (h : HandedOver eng queue log given) (returned : List Int) :
    HandedOver eng queue (log ++ returned.map .returned) (given ++ []) := by
  have hstay := h.send [] returned (fun _ hmsg => absurd hmsg List.not_mem_nil) fun _ => rfl
  rwa [List.append_nil] at hstay

theorem latest_fresh (h : HandedOver eng queue log given) (hcb : eng.agpsStatusCb = false)
    (nif : Nif) : latest log nif = none := by
  rw [latest, (h.fresh hcb).1]
  rfl

theorem holds_new (type : AGpsExtType) (enforce : Bool) :
    Holds none type (AgpsStateMachine.new type enforce) :=
  ⟨rfl, rfl, rfl, fun _ hx => absurd hx List.not_mem_nil, fun h => by cases h⟩

/-- The machines that `loc_eng_agps_init` makes were handed nothing. -/
theorem init (h : HandedOver eng queue log given) (statusCb : Option Bool) (gnssType : GnssTarget) :
    HandedOver (eng.agpsInit statusCb gnssType) queue log given := by
  unfold LocEng.agpsInit
  split
  case h_1 cb hcb =>
    refine ⟨?_, fun _ => h.fresh hcb, h.isInit, h.answered, h.inOrder⟩
    intro nif hnif m hm
    have hnone := h.latest_fresh hcb nif
    cases nif with
    | ds => exact absurd rfl hnif
    | agnss =>
        by_cases hgnss : gnssType ≠ .gss ∧ gnssType ≠ .qca1530
        · simp only [LocEng.nif, if_pos hgnss, Option.mem_def, Option.some.injEq] at hm
          rw [hnone, ← hm]
          exact holds_new _ _
        · simp only [LocEng.nif, if_neg hgnss] at hm
          exact h.holds .agnss hnif m hm
    | internet | wifi =>
        rw [hnone, ← Option.some.inj hm]
        exact holds_new _ _
  case h_2 => exact h

/-- The thread takes the first message. -/
theorem take {msg : LocEng.Msg} (h : HandedOver eng (msg :: queue) log given) (answers : Answers) :
    HandedOver (eng.step (msg, answers)) queue
      (log ++ (msg.took ++ (eng.step (msg, answers)).calls)) (given ++ []) := by
  have hinit : msg.isInit = false := h.isInit msg List.mem_cons_self
  have hcalls := LocEng.taken_calls (eng.step (msg, answers))
  have hmsg : msg.took.filterMap HandoverEntry.taken = msg.report.toList := by
    rw [LocEng.Msg.took]
    cases msg.report
    all_goals rfl
  have hlatest (nif : Nif) :
      latest (log ++ (msg.took ++ (eng.step (msg, answers)).calls)) nif =
        latest (log ++ msg.took) nif := by
    rw [← List.append_assoc, latest_plain hcalls]
  have htaken : (log ++ (msg.took ++ (eng.step (msg, answers)).calls)).filterMap
      HandoverEntry.taken = log.filterMap HandoverEntry.taken ++ msg.report.toList := by
    rw [List.filterMap_append, List.filterMap_append, hcalls, hmsg, List.append_nil]
  have hqueue : (msg :: queue).filterMap LocEng.Msg.report =
      msg.report.toList ++ queue.filterMap LocEng.Msg.report := by
    rw [List.filterMap_cons]
    cases msg.report
    all_goals rfl
  refine ⟨?_, ?_, ?_, ?_, ?_⟩
  · intro nif hnif m hm
    rw [hlatest]
    exact (LocEng.step_holds h.holds hinit hnif m hm).1
  · intro hcb
    rw [LocEng.agpsStatusCb_step eng answers hinit] at hcb
    obtain ⟨hlog, hnone⟩ := h.fresh hcb
    rw [hqueue] at hnone
    obtain ⟨hreport, hrest⟩ := List.append_eq_nil_iff.mp hnone
    rw [htaken, hlog, hreport]
    exact ⟨rfl, hrest⟩
  · exact fun other hother => h.isInit other (List.mem_cons_of_mem _ hother)
  · rw [← List.append_assoc]
    have htook : Answered (log ++ msg.took) := by
      apply h.answered.plain
      intro nif effect hmem
      obtain ⟨report, -, heq⟩ := List.mem_map.mp hmem
      cases heq
    apply htook.append
    intro before nif effect after hnif heq
    have hbefore : before.filterMap HandoverEntry.taken = [] := by
      rw [heq, List.filterMap_append] at hcalls
      exact (List.append_eq_nil_iff.mp hcalls).1
    rw [latest_plain hbefore]
    have hmem : HandoverEntry.called (some nif) effect ∈ (eng.step (msg, answers)).calls := by
      rw [heq]
      exact List.mem_append_right before List.mem_cons_self
    obtain ⟨m, hm, he⟩ := LocEng.mem_calls hmem
    exact (LocEng.step_holds h.holds hinit hnif m hm).2 effect he
  · rw [htaken, List.append_assoc, ← hqueue, h.inOrder, List.append_nil]

end HandedOver

section Run

variable {target : AgpsTarget}

theorem AdapterCall.msg_plain (call : AdapterCall) :
    call.msg.isInit = false ∧ call.msg.report = none := by
  cases call
  all_goals exact ⟨rfl, rfl⟩

theorem DaemonCall.msg_plain (call : DaemonCall) :
    call.msg.isInit = false ∧ call.msg.report = none := by
  cases call
  all_goals exact ⟨rfl, rfl⟩

/-- The invariant on the parts of a run. -/
def HandedOverRun (t : HandoverRun) (given : List OpenReport) : Prop :=
  HandedOver t.state.eng t.state.queue t.log given

theorem handedOver_sendToNif {s : Handover} {log : List HandoverEntry} {given : List OpenReport}
    (h : HandedOver s.eng s.queue log given) (agpsType : AGpsExtType) (msg : Nif → LocEng.Msg)
    (hinit : ∀ nif, (msg nif).isInit = false) :
    HandedOver (s.sendToNif agpsType msg).1.eng (s.sendToNif agpsType msg).1.queue
      (log ++ (s.sendToNif agpsType msg).2)
      (given ++ if s.eng.agpsStatusCb
        then [msg (s.eng.getAgpsStateMachine agpsType)].filterMap LocEng.Msg.report else []) := by
  rw [Handover.sendToNif]
  cases hcb : s.eng.agpsStatusCb with
  | false => exact h.stay [-1]
  | true =>
      apply h.send [msg (s.eng.getAgpsStateMachine agpsType)] [0]
      · exact fun other hother => List.mem_singleton.mp hother ▸ hinit _
      · intro hfalse
        rw [hcb] at hfalse
        cases hfalse

theorem handedOver_agpsInit {s : Handover} {log : List HandoverEntry} {given : List OpenReport}
    (h : HandedOver s.eng s.queue log given) (statusCb : Option Bool) (ret : Int) :
    HandedOver (s.agpsInit target statusCb ret).eng (s.agpsInit target statusCb ret).queue
      (log ++ []) (given ++ []) := by
  have hinit := h.init statusCb target.gnssType
  rw [Handover.agpsInit]
  dsimp only
  split
  · split
    · exact hinit.sendMsg rfl rfl
    · exact hinit.stay []
  · exact hinit.stay []

theorem handedOver_msgTask {s : Handover} {log : List HandoverEntry} {given : List OpenReport}
    (h : HandedOver s.eng s.queue log given) (answers : Answers) :
    HandedOver (s.msgTask answers).1.eng (s.msgTask answers).1.queue
      (log ++ (s.msgTask answers).2) (given ++ []) := by
  obtain ⟨eng, launched, queue, nullCalled⟩ := s
  cases queue with
  | nil => exact h.stay []
  | cons msg queue =>
      rw [Handover.msgTask]
      dsimp only
      split
      · exact h.stay []
      · exact h.take answers

theorem handedOver_step (t : HandoverRun) (input : HandoverInput) (given : List OpenReport)
    (h : HandedOverRun t given) :
    HandedOverRun (Handover.step target t input) (given ++ reportsOf t input) := by
  change HandedOver (Handover.machine target t.state input).1.eng
    (Handover.machine target t.state input).1.queue
    (t.log ++ (Handover.machine target t.state input).2) _
  unfold Handover.machine
  cases hnull : t.state.nullCalled with
  | true =>
      have hreports : reportsOf t input = [] := by
        cases input with
        | agpsOpen agpsType apn bearerType =>
            cases apn with
            | none => rfl
            | some apn => rw [reportsOf, hnull, Bool.not_true, Bool.and_false]; rfl
        | _ => rfl
      rw [hreports]
      exact h.stay []
  | false =>
      cases input with
      | agpsInit statusCb ret => exact handedOver_agpsInit h statusCb ret
      | agpsOpen agpsType apn bearerType =>
          cases apn with
          | none => exact h.stay [_]
          | some apn =>
              have hsent := handedOver_sendToNif h agpsType
                (fun nif => .atlOpenSuccess nif (apn.take MAX_APN_LEN) bearerType) fun _ => rfl
              rw [reportsOf, hnull, Bool.not_false, Bool.and_true]
              exact hsent
      | agpsClosed agpsType =>
          have hsent := handedOver_sendToNif h agpsType .atlClosed fun _ => rfl
          cases hcb : t.state.eng.agpsStatusCb
          all_goals rw [hcb] at hsent; exact hsent
      | agpsOpenFailed agpsType =>
          have hsent := handedOver_sendToNif h agpsType .atlOpenFailed fun _ => rfl
          cases hcb : t.state.eng.agpsStatusCb
          all_goals rw [hcb] at hsent; exact hsent
      | adapter call =>
          cases htarget : target.mSupportsAgpsRequests with
          | false => exact h.stay []
          | true => exact h.sendMsg call.msg_plain.1 call.msg_plain.2
      | daemon call =>
          cases hlaunched : t.state.launched with
          | false => exact h.stay []
          | true => exact h.sendMsg call.msg_plain.1 call.msg_plain.2
      | handleEngineDownEvent => exact h.sendMsg rfl rfl
      | handleEngineUpEvent => exact h.sendMsg rfl rfl
      | msgTask answers => exact handedOver_msgTask h answers

theorem handedOver_start : HandedOverRun handoverStart [] where
  holds nif _ m hm := by
    cases nif
    all_goals cases hm
  fresh _ := ⟨rfl, rfl⟩
  isInit _ hmsg := absurd hmsg List.not_mem_nil
  answered before nif effect after _ heq := by
    cases before
    all_goals cases heq
  inOrder := rfl

/-- In every run the reports of the framework reach the machines in the order in which they were
made, and none is lost or made up. An answer of a machine for the modem or the network has the name
and the bearer of the report that the machine was handed last, and says that the connection is open
only after a report. -/
theorem answers_carry_report (target : AgpsTarget) (inputs : List HandoverInput) :
    let t := run (Handover.step target) handoverStart inputs
    t.log.filterMap HandoverEntry.taken ++ t.state.queue.filterMap LocEng.Msg.report =
        contributions (Handover.step target) reportsOf handoverStart inputs ∧
      ∀ before nif handle isSucc apn bearer type after, nif ≠ .ds →
        t.log = before ++
          .called (some nif) (.atlOpenStatus handle isSucc apn bearer type) :: after →
        apn = (latest before nif).map (·.apn) ∧
          bearer = ((latest before nif).map (·.bearerType)).getD .invalid ∧
          (type = .invalid ∨ type = nif.type) ∧ (isSucc = true → (latest before nif).isSome) := by
  intro t
  have h : HandedOverRun t
      ([] ++ contributions (Handover.step target) reportsOf handoverStart inputs) :=
    run_contributions (fun s input given hs _ => handedOver_step s input given hs)
      handedOver_start (meets_true _ _ inputs)
  refine ⟨h.inOrder, ?_⟩
  intro before nif handle isSucc apn bearer type after hnif heq
  exact h.answered before nif _ after hnif heq

/-- A connection of the modem that the framework reports with its name. -/
def openedInputs : List HandoverInput :=
  [.agpsInit (some true) 0, .adapter (.requestATL 1 .supl (Vector.replicate 16 0)),
    .msgTask ⟨0, .noMemory⟩, .agpsOpen .supl (some [105]) .ipv4, .msgTask ⟨0, .noMemory⟩]

theorem answers_carry_report_opened :
    let t := run (Handover.step ⟨.msm, true, false⟩) handoverStart openedInputs
    t.log.getLast? = some (.called (some .agnss) (.atlOpenStatus 1 true (some [105]) .ipv4 .supl)) ∧
      some [105] = (latest t.log.dropLast .agnss).map (·.apn) :=
  ⟨by decide +kernel,
    ((answers_carry_report ⟨.msm, true, false⟩ openedInputs).2 _ .agnss 1 true _ .ipv4 .supl []
      (by decide) (by decide +kernel)).1⟩

end Run

end G2Common.Agps
