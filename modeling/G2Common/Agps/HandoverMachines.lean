import G2Common.Agps.HandoverReports

/-!
Messages name their machine without a look whether it exists, and their `proc` does not look
either. Which calls of the framework lead to a method of a machine that does not exist.
-/

namespace G2Common.Agps

open Transition AgpsStateMachine

namespace LocEng

/-- The messages that were made for the machine of the modem's own connection. -/
def Msg.namesAgnss : Msg → Bool
  | .atlOpenSuccess .agnss _ _ | .atlClosed .agnss | .atlOpenFailed .agnss => true
  | _ => false

theorem isSome_step (s : LocEng) (answers : Answers) {msg : Msg} (hinit : msg.isInit = false)
    (nif : Nif) (h : nif ≠ .ds ∨ msg.isDataClientInit = false) :
    ((s.step (msg, answers)).nif nif).isSome = (s.nif nif).isSome := by
  cases hclient : msg.isDataClientInit with
  | false => exact (keeps_step s answers hinit hclient).isSome nif
  | true =>
      have hnif : nif ≠ .ds := h.resolve_right (by rw [hclient]; exact Bool.noConfusion)
      cases msg with
      | dataClientInit ret =>
          rw [← (keeps_cleared s).isSome nif, step, proc]
          split
          · cases nif with
            | ds => exact absurd rfl hnif
            | _ => rfl
          · rfl
      | _ => cases hclient

theorem isSome_step_ds (s : LocEng) (answers : Answers) {msg : Msg} (hinit : msg.isInit = false)
    (h : s.dsNif.isSome = true) : (s.step (msg, answers)).dsNif.isSome = true := by
  cases hclient : msg.isDataClientInit with
  | false => exact ((keeps_step s answers hinit hclient).isSome .ds).trans h
  | true =>
      cases msg with
      | dataClientInit ret =>
          rw [step, proc]
          split
          · rfl
          · exact ((keeps_cleared s).isSome .ds).trans h
      | _ => cases hclient

end LocEng

/-- What holds of a message in the queue. -/
def Queued (target : AgpsTarget) (eng : LocEng) (launched : Bool) : LocEng.Msg → Prop
  | .agpsInit _ _ => False
  | .dataClientInit _ => target.hasAgnss = true
  | .reqRelBIT _ _ _ _ => launched = true
  | .atlOpenSuccess nif _ _ | .atlClosed nif | .atlOpenFailed nif =>
      eng.agpsStatusCb = true ∧ (nif = .ds → eng.dsNif.isSome = true)
  | _ => True

/-- Which machines exist. -/
structure Present (target : AgpsTarget) (eng : LocEng) (launched : Bool)
    (queue : List LocEng.Msg) : Prop where
  networks : eng.agpsStatusCb = true ∨ launched = true →
    eng.internetNif.isSome = true ∧ eng.wifiNif.isSome = true
  agnss : eng.agpsStatusCb = true ∨ launched = true → target.hasAgnss = true →
    eng.agnssNif.isSome = true
  only : eng.agnssNif.isSome = true ∨ eng.dsNif.isSome = true ∨ launched = true →
    target.hasAgnss = true
  queued : ∀ msg ∈ queue, Queued target eng launched msg

section Present

variable {target : AgpsTarget} {eng : LocEng} {launched : Bool} {queue : List LocEng.Msg}

/-- A method is called through a `NULL` pointer for a message that names the machine which the
target does not have. -/
theorem Present.callsNull (h : Present target eng launched queue) {msg : LocEng.Msg}
    (hmsg : Queued target eng launched msg) :
    eng.callsNull msg = (!target.hasAgnss && msg.namesAgnss) := by
  have hnif (nif : Nif)
      (hqueued : eng.agpsStatusCb = true ∧ (nif = .ds → eng.dsNif.isSome = true)) :
      (eng.nif nif).isNone = (!target.hasAgnss && decide (nif = .agnss)) := by
    obtain ⟨hinternet, hwifi⟩ := h.networks (.inl hqueued.1)
    have hagnss : eng.agnssNif.isSome = target.hasAgnss := by
      apply Bool.eq_iff_iff.mpr
      exact ⟨fun hsome => h.only (.inl hsome), h.agnss (.inl hqueued.1)⟩
    rw [← Option.not_isSome]
    cases nif with
    | agnss => rw [decide_eq_true rfl, Bool.and_true, ← hagnss]; rfl
    | internet => exact (congrArg (!·) hinternet).trans (Bool.and_false _).symm
    | wifi => exact (congrArg (!·) hwifi).trans (Bool.and_false _).symm
    | ds => exact (congrArg (!·) (hqueued.2 rfl)).trans (Bool.and_false _).symm
  cases msg with
  | reqRelBIT type ipv4 ipv6 isReq =>
      obtain ⟨hinternet, hwifi⟩ := h.networks (.inr hmsg)
      have hagnss := h.agnss (.inr hmsg) (h.only (.inr (.inr hmsg)))
      change (eng.nif (eng.getAgpsStateMachine type)).isNone = (!target.hasAgnss && false)
      rw [Bool.and_false, ← Option.not_isSome]
      have hsome : (eng.nif (eng.getAgpsStateMachine type)).isSome = true := by
        cases type with
        | suplEs =>
            rw [LocEng.getAgpsStateMachine]
            split
            case isTrue hds => exact hds
            case isFalse => exact hagnss
        | wifi => exact hwifi
        | invalid | supl => exact hagnss
        | _ => exact hinternet
      rw [hsome, Bool.not_true]
  | atlOpenSuccess nif apn bearerType =>
      rw [LocEng.callsNull, hnif nif hmsg]
      cases nif
      all_goals rfl
  | atlClosed nif =>
      rw [LocEng.callsNull, hnif nif hmsg]
      cases nif
      all_goals rfl
  | atlOpenFailed nif =>
      rw [LocEng.callsNull, hnif nif hmsg]
      cases nif
      all_goals rfl
  | _ => exact (Bool.and_false _).symm

/-- What makes a message fit into the queue is not taken back. -/
theorem Queued.mono {next : LocEng} {launched' : Bool} {msg : LocEng.Msg}
    (h : Queued target eng launched msg) (hcb : eng.agpsStatusCb = true → next.agpsStatusCb = true)
    (hds : eng.dsNif.isSome = true → next.dsNif.isSome = true)
    (hlaunched : launched = true → launched' = true) : Queued target next launched' msg := by
  cases msg with
  | reqRelBIT => exact hlaunched h
  | atlOpenSuccess | atlClosed | atlOpenFailed =>
      exact ⟨hcb h.1, fun hnif => hds (h.2 hnif)⟩
  | _ => exact h

theorem Present.send (h : Present target eng launched queue) {msg : LocEng.Msg}
    (hmsg : Queued target eng launched msg) : Present target eng launched (queue ++ [msg]) where
  networks := h.networks
  agnss := h.agnss
  only := h.only
  queued other hother := by
    rcases List.mem_append.mp hother with hother | hother
    · exact h.queued other hother
    · rw [List.mem_singleton.mp hother]
      exact hmsg

theorem Queued.isInit {msg : LocEng.Msg} (h : Queued target eng launched msg) :
    msg.isInit = false := by
  cases msg with
  | agpsInit => exact h.elim
  | _ => rfl

theorem Present.take {msg : LocEng.Msg} (h : Present target eng launched (msg :: queue))
    (answers : Answers) : Present target (eng.step (msg, answers)) launched queue := by
  have hmsg := h.queued msg List.mem_cons_self
  have hinit := hmsg.isInit
  have hcb := LocEng.agpsStatusCb_step eng answers hinit
  have hinternet : (eng.step (msg, answers)).internetNif.isSome = eng.internetNif.isSome :=
    LocEng.isSome_step eng answers hinit .internet (.inl Nif.noConfusion)
  have hwifi : (eng.step (msg, answers)).wifiNif.isSome = eng.wifiNif.isSome :=
    LocEng.isSome_step eng answers hinit .wifi (.inl Nif.noConfusion)
  have hagnss : (eng.step (msg, answers)).agnssNif.isSome = eng.agnssNif.isSome :=
    LocEng.isSome_step eng answers hinit .agnss (.inl Nif.noConfusion)
  refine ⟨?_, ?_, ?_, ?_⟩
  · rw [hcb, hinternet, hwifi]
    exact h.networks
  · rw [hcb, hagnss]
    exact h.agnss
  · rw [hagnss]
    rintro (hsome | hsome | hsome)
    · exact h.only (.inl hsome)
    · cases hclient : msg.isDataClientInit with
      | false =>
          have hds := LocEng.isSome_step eng answers hinit .ds (.inr hclient)
          exact h.only (.inr (.inl (hds.symm.trans hsome)))
      | true =>
          cases msg with
          | dataClientInit => exact hmsg
          | _ => cases hclient
    · exact h.only (.inr (.inr hsome))
  · intro other hother
    exact (h.queued other (List.mem_cons_of_mem _ hother)).mono (fun hold => hcb.trans hold)
      (LocEng.isSome_step_ds eng answers hinit) id

/-- `loc_eng_agps_init`, where it makes the machines. -/
theorem Present.make (h : Present target eng launched queue) (cb : Bool) {launched' : Bool}
    (hcb : eng.agpsStatusCb = false) (hlaunched : launched = true → launched' = true)
    (hagnss : launched' = true → target.hasAgnss = true) :
    Present target (eng.agpsInit (some cb) target.gnssType) launched' queue := by
  have hinit : eng.agpsInit (some cb) target.gnssType =
      { eng with
        agpsStatusCb := cb
        internetNif := some (.new .wwanAny false)
        wifiNif := some (.new .wifi true)
        agnssNif := if target.hasAgnss then some (.new .supl false) else eng.agnssNif } := by
    simp only [LocEng.agpsInit, hcb, AgpsTarget.hasAgnss, decide_eq_true_eq]
  rw [hinit]
  refine ⟨fun _ => ⟨rfl, rfl⟩, fun _ htarget => ?_, ?_, ?_⟩
  · dsimp only
    rw [if_pos htarget]
    rfl
  · rintro (hsome | hsome | hsome)
    · cases htarget : target.hasAgnss with
      | true => rfl
      | false =>
          dsimp only at hsome
          rw [htarget, if_neg Bool.false_ne_true] at hsome
          rw [← h.only (.inl hsome), htarget]
    · exact h.only (.inr (.inl hsome))
    · exact hagnss hsome
  · intro msg hmsg
    refine (h.queued msg hmsg).mono (fun htrue => ?_) id hlaunched
    rw [hcb] at htrue
    cases htrue

end Present

/-- A call of the framework about the machine that the target does not have. -/
def reportsMissing (target : AgpsTarget) (t : HandoverRun) : HandoverInput → Prop
  | .agpsOpen agpsType (some _) _ | .agpsClosed agpsType | .agpsOpenFailed agpsType =>
      target.hasAgnss = false ∧ t.state.eng.agpsStatusCb = true ∧
        (agpsType = .invalid ∨ agpsType = .supl ∨ agpsType = .suplEs)
  | _ => False

/-- No method of a missing machine was called, and no message in the queue will call one. -/
def Sound (s : Handover) : Prop :=
  s.nullCalled = false ∧ ∀ msg ∈ s.queue, s.eng.callsNull msg = false

section Run

variable {target : AgpsTarget} {s : Handover}

def PresentIn (target : AgpsTarget) (s : Handover) : Prop :=
  Present target s.eng s.launched s.queue

/-- A message is sound if it does not name the machine that the target lacks. -/
theorem sound_iff (h : PresentIn target s) :
    Sound s ↔ s.nullCalled = false ∧
      ∀ msg ∈ s.queue, (!target.hasAgnss && msg.namesAgnss) = false := by
  rw [Sound]
  apply and_congr_right
  intro _
  apply forall₂_congr
  intro msg hmsg
  rw [Present.callsNull h (h.queued msg hmsg)]

/-- A message is sent. -/
theorem sound_sendMsg (h : PresentIn target s) {msg : LocEng.Msg}
    (hmsg : Queued target s.eng s.launched msg) :
    PresentIn target (s.sendMsg msg) ∧
      (Sound (s.sendMsg msg) ↔ Sound s ∧ (!target.hasAgnss && msg.namesAgnss) = false) := by
  have hsent : PresentIn target (s.sendMsg msg) := Present.send h hmsg
  refine ⟨hsent, ?_⟩
  rw [sound_iff hsent, sound_iff h, and_assoc, Handover.sendMsg]
  simp only [List.forall_mem_append, List.forall_mem_singleton]

/-- A message that names no machine. -/
theorem sound_plain (h : PresentIn target s) {msg : LocEng.Msg}
    (hmsg : Queued target s.eng s.launched msg) (hnames : msg.namesAgnss = false) :
    PresentIn target (s.sendMsg msg) ∧ (Sound (s.sendMsg msg) ↔ Sound s ∧ ¬False) := by
  obtain ⟨hpresent, hsound⟩ := sound_sendMsg h hmsg
  refine ⟨hpresent, ?_⟩
  rw [hsound, hnames, Bool.and_false]
  exact and_congr_right fun _ => ⟨fun _ => id, fun _ => rfl⟩

/-- A step that leaves the queue. -/
theorem sound_stay {next : Handover} (h : PresentIn target s) (hnext : PresentIn target next)
    (hnull : next.nullCalled = s.nullCalled) (hqueue : next.queue = s.queue) :
    PresentIn target next ∧ (Sound next ↔ Sound s ∧ ¬False) := by
  refine ⟨hnext, ?_⟩
  rw [sound_iff hnext, sound_iff h, hnull, hqueue]
  exact (and_iff_left id).symm

theorem sound_agpsInit (h : PresentIn target s) (statusCb : Option Bool) (ret : Int) :
    PresentIn target (s.agpsInit target statusCb ret) ∧
      (Sound (s.agpsInit target statusCb ret) ↔ Sound s ∧ ¬False) := by
  cases statusCb with
  | none =>
      have hinit : s.agpsInit target none ret = s := by
        simp [Handover.agpsInit, LocEng.agpsInit]
      rw [hinit]
      exact sound_stay h h rfl rfl
  | some cb =>
      cases hcb : s.eng.agpsStatusCb with
      | true =>
          have hinit : s.agpsInit target (some cb) ret = s := by
            simp [Handover.agpsInit, LocEng.agpsInit, hcb]
          rw [hinit]
          exact sound_stay h h rfl rfl
      | false =>
          rw [Handover.agpsInit, hcb]
          dsimp only
          split
          case isTrue hlaunch =>
            have htarget : target.hasAgnss = true := by
              simp only [Bool.not_false, Option.isSome_some, Bool.true_and,
                Bool.and_eq_true] at hlaunch
              exact hlaunch.1
            have hmade := Present.make h cb hcb (fun _ => rfl) fun _ => htarget
            split
            · have hclient : Queued target (s.eng.agpsInit (some cb) target.gnssType) true
                  (.dataClientInit ret) := htarget
              have hsent : PresentIn target ⟨s.eng.agpsInit (some cb) target.gnssType, true,
                  s.queue ++ [.dataClientInit ret], s.nullCalled⟩ := Present.send hmade hclient
              refine ⟨hsent, (sound_iff hsent).trans ?_⟩
              rw [sound_iff h]
              simp [htarget]
            · exact sound_stay h hmade rfl rfl
          case isFalse =>
            have hmade := Present.make h cb hcb id fun hlaunched => h.only (.inr (.inr hlaunched))
            exact sound_stay h hmade rfl rfl

/-- For which types a message is made for the machine that the target lacks. -/
theorem getAgpsStateMachine_agnss (h : PresentIn target s) (htarget : target.hasAgnss = false)
    (agpsType : AGpsExtType) :
    s.eng.getAgpsStateMachine agpsType = .agnss ↔
      agpsType = .invalid ∨ agpsType = .supl ∨ agpsType = .suplEs := by
  have hds : s.eng.dsNif.isSome = false := by
    cases hsome : s.eng.dsNif.isSome with
    | false => rfl
    | true => rw [← htarget, h.only (.inr (.inl hsome))]
  cases agpsType
  all_goals simp [LocEng.getAgpsStateMachine, hds]

theorem getAgpsStateMachine_ds {eng : LocEng} {agpsType : AGpsExtType}
    (h : eng.getAgpsStateMachine agpsType = .ds) : eng.dsNif.isSome = true := by
  cases hsome : eng.dsNif.isSome with
  | true => rfl
  | false =>
      cases agpsType
      all_goals simp [LocEng.getAgpsStateMachine, hsome] at h

/-- A call of the framework that is passed on to a machine. -/
theorem sound_sendToNif (h : PresentIn target s) (agpsType : AGpsExtType)
    (msg : Nif → LocEng.Msg)
    (hqueued : ∀ nif, s.eng.agpsStatusCb = true ∧ (nif = .ds → s.eng.dsNif.isSome = true) →
      Queued target s.eng s.launched (msg nif))
    (hnames : ∀ nif, (msg nif).namesAgnss = decide (nif = .agnss)) :
    PresentIn target (s.sendToNif agpsType msg).1 ∧
      (Sound (s.sendToNif agpsType msg).1 ↔ Sound s ∧
        ¬(target.hasAgnss = false ∧ s.eng.agpsStatusCb = true ∧
          (agpsType = .invalid ∨ agpsType = .supl ∨ agpsType = .suplEs))) := by
  rw [Handover.sendToNif]
  cases hcb : s.eng.agpsStatusCb with
  | false =>
      refine ⟨h, ?_⟩
      exact (and_iff_left fun hmissing => Bool.false_ne_true hmissing.2.1).symm
  | true =>
      obtain ⟨hpresent, hsound⟩ :=
        sound_sendMsg h (hqueued (s.eng.getAgpsStateMachine agpsType)
          ⟨hcb, getAgpsStateMachine_ds⟩)
      refine ⟨hpresent, hsound.trans (and_congr_right fun _ => ?_)⟩
      rw [hnames]
      cases htarget : target.hasAgnss with
      | true => exact ⟨fun _ hmissing => Bool.noConfusion hmissing.1, fun _ => rfl⟩
      | false =>
          rw [Bool.not_false, Bool.true_and, decide_eq_false_iff_not,
            getAgpsStateMachine_agnss h htarget]
          exact not_congr ⟨fun htype => ⟨rfl, rfl, htype⟩, fun hmissing => hmissing.2.2⟩

theorem sound_msgTask (h : PresentIn target s) (answers : Answers) :
    PresentIn target (s.msgTask answers).1 ∧
      (Sound (s.msgTask answers).1 ↔ Sound s ∧ ¬False) := by
  obtain ⟨eng, launched, queue, nullCalled⟩ := s
  cases queue with
  | nil => exact sound_stay h h rfl rfl
  | cons msg queue =>
      rw [Handover.msgTask]
      dsimp only
      split
      case isTrue hnull =>
        refine ⟨h, ⟨fun hsound => Bool.noConfusion hsound.1, fun hsound => ?_⟩⟩
        have hhead := hsound.1.2 msg List.mem_cons_self
        exact absurd (hnull.symm.trans hhead) Bool.noConfusion
      case isFalse hnull =>
        have htaken : PresentIn target ⟨eng.step (msg, answers), launched, queue, nullCalled⟩ :=
          Present.take h answers
        refine ⟨htaken, ?_⟩
        have hhead : (!target.hasAgnss && msg.namesAgnss) = false := by
          rw [← Present.callsNull h (h.queued msg List.mem_cons_self)]
          exact Bool.eq_false_iff.mpr hnull
        rw [sound_iff htaken, sound_iff h]
        simp only [List.forall_mem_cons, hhead, true_and, not_false_eq_true, and_true]

theorem sound_step (t : HandoverRun) (input : HandoverInput) (h : PresentIn target t.state) :
    PresentIn target (Handover.step target t input).state ∧
      (Sound (Handover.step target t input).state ↔
        Sound t.state ∧ ¬reportsMissing target t input) := by
  change PresentIn target (Handover.machine target t.state input).1 ∧
    (Sound (Handover.machine target t.state input).1 ↔ _)
  unfold Handover.machine
  cases hnull : t.state.nullCalled with
  | true =>
      have hsound : ¬Sound t.state := fun hsound => Bool.noConfusion (hnull.symm.trans hsound.1)
      exact ⟨h, ⟨fun hnext => absurd hnext hsound, fun hboth => absurd hboth.1 hsound⟩⟩
  | false =>
      cases input with
      | agpsInit statusCb ret => exact sound_agpsInit h statusCb ret
      | agpsOpen agpsType apn bearerType =>
          cases apn with
          | none => exact sound_stay h h rfl rfl
          | some apn =>
              apply sound_sendToNif h agpsType
                (fun nif => .atlOpenSuccess nif (apn.take MAX_APN_LEN) bearerType)
              · exact fun _ => id
              · intro nif
                cases nif
                all_goals rfl
      | agpsClosed agpsType =>
          apply sound_sendToNif h agpsType .atlClosed
          · exact fun _ => id
          · intro nif
            cases nif
            all_goals rfl
      | agpsOpenFailed agpsType =>
          apply sound_sendToNif h agpsType .atlOpenFailed
          · exact fun _ => id
          · intro nif
            cases nif
            all_goals rfl
      | adapter call =>
          cases htarget : target.mSupportsAgpsRequests with
          | false => exact sound_stay h h rfl rfl
          | true =>
              cases call
              all_goals exact sound_plain h trivial rfl
      | daemon call =>
          cases hlaunched : t.state.launched with
          | false => exact sound_stay h h rfl rfl
          | true =>
              cases call with
              | bit type ipv4 ipv6 isReq => exact sound_plain h hlaunched rfl
              | wifi => exact sound_plain h trivial rfl
      | handleEngineDownEvent => exact sound_plain h trivial rfl
      | handleEngineUpEvent => exact sound_plain h trivial rfl
      | msgTask answers => exact sound_msgTask h answers

theorem present_start : PresentIn target handoverStart.state where
  networks hopen := by rcases hopen with h | h <;> cases h
  agnss hopen := by rcases hopen with h | h <;> cases h
  only hsome := by rcases hsome with h | h | h <;> cases h
  queued _ hmsg := absurd hmsg List.not_mem_nil

def SoundRun (t : HandoverRun) : Prop := Sound t.state

/-- In every run no method of a machine that does not exist is called, now or for a message that
waits, exactly if the framework never told a target without a machine for the modem's own connection
of such a connection. -/
theorem machines_exist_iff (target : AgpsTarget) (inputs : List HandoverInput) :
    SoundRun (run (Handover.step target) handoverStart inputs) ↔
      Meets (Handover.step target) (fun t input => ¬reportsMissing target t input) handoverStart
        inputs := by
  have hstart : SoundRun handoverStart := ⟨rfl, fun _ hmsg => absurd hmsg List.not_mem_nil⟩
  have hinv (t : HandoverRun) (input : HandoverInput) (h : PresentIn target t.state) :
      PresentIn target (Handover.step target t input).state := (sound_step t input h).1
  have hgood (t : HandoverRun) (input : HandoverInput) (h : PresentIn target t.state) :
      SoundRun (Handover.step target t input) ↔
        SoundRun t ∧ ¬reportsMissing target t input := (sound_step t input h).2
  exact (run_iff_meets hinv hgood present_start inputs).trans (and_iff_right hstart)

end Run

end G2Common.Agps
