import G2Common.Agps.DataCallLog

/-!
Is something under way for every active client of the emergency data call? It
is as long as each start of the call either succeeds, or is retried, or hands
everybody it was for to `requestATL`.
-/

namespace G2Common.Agps.DataCall

open Transition AgpsStateMachine DSStateMachine

/-- A start that returned success and a stop wait for an event. A grant answers
a start, a release or a denial answers both. -/
def await (waiting : Option AGpsStatusValue) : Entry → Option AGpsStatusValue
  | .effect (.openAndStartDataCall ret) =>
      if ret = LOC_API_ADAPTER_ERR_SUCCESS then some .requestAgpsDataConn else waiting
  | .effect .stopDataCall => some .releaseAgpsDataConn
  | .input (.onRsrcEvent .granted _) =>
      if waiting = some .requestAgpsDataConn then none else waiting
  | .input (.onRsrcEvent .released _) | .input (.onRsrcEvent .denied _) => none
  | _ => waiting

/-- The operation on the data call that is not answered yet. -/
def unanswered (log : List Entry) : Option AGpsStatusValue := log.foldl await none

/-- What is under way for a client with this handle: an unanswered start or
stop, or in Released a retry, whose request will start the call again; or it
was handed to `requestATL`. -/
def Attended (s : System) (h : UInt32) : Prop :=
  (s.machine.mStatePtr = .pending ∧ unanswered s.log = some .requestAgpsDataConn) ∨
    (s.machine.mStatePtr = .releasing ∧ unanswered s.log = some .releaseAgpsDataConn) ∨
    (s.machine.mStatePtr = .released ∧ (0 < s.timers ∨ s.posted ≠ [])) ∨
    handed h s.log = true

/-- Every active client is attended, except in Acquired. -/
def Covered (s : System) : Prop :=
  s.machine.mStatePtr ≠ .acquired →
    ∀ x ∈ s.machine.mSubscribers, x.isInactive = false → Attended s x.ID

/-- In Released a timer that fires posts a retry for whoever is active, and a
retry starts the call again. -/
def RetryStartsCall (s : System) : Prop :=
  s.machine.mStatePtr = .released →
    (0 < s.timers → (∃ x ∈ s.machine.mSubscribers, x.isInactive = false) →
      (step s .timerFires).posted ≠ []) ∧
    (s.posted ≠ [] → ∀ answers,
      .effect (.openAndStartDataCall answers.ret) ∈ newEntries s (.retrySuplEs answers))

/-- A start that fails in this way arms the retry timer. -/
def armsTimer (answers : Answers) (retries : UInt8) : Prop :=
  answers.ret = LOC_API_ADAPTER_ERR_ENGINE_BUSY ∧ fallsBack answers.ret retries = false ∧
    answers.timer = .started

/-- Every active client of the list was handed over before, or is the one that
this failing start hands over. -/
def allHanded (before : UInt32 → Bool) (answers : Answers) (retries : UInt8)
    (l : List Subscriber) : Prop :=
  ∀ x ∈ l, x.isInactive = false →
    before x.ID = true ∨ fallsBack answers.ret retries = true ∧ x.ID = firstHandle l

/-- A request in Released starts the call; one in Pending relies on a start
that was made before. -/
def requestGuard (s : System) (before : UInt32 → Bool) (posted : List UInt32) (h : UInt32)
    (answers : Answers) : Prop :=
  (s.machine.mStatePtr = .released →
    answers.ret = LOC_API_ADAPTER_ERR_SUCCESS ∨ armsTimer answers s.machine.mRetries ∨
      0 < s.timers ∨ posted ≠ [] ∨
      allHanded before answers s.machine.mRetries (join h s.machine.mSubscribers)) ∧
  (s.machine.mStatePtr = .pending →
    unanswered s.log = some .requestAgpsDataConn ∨
      ∀ x ∈ join h s.machine.mSubscribers, x.isInactive = false → before x.ID = true)

def coverGuard (s : System) : Input → Prop
  | .requestSuplEs h answers =>
      requestGuard s (fun x => x != h && handed x s.log) s.posted h answers
  | .retrySuplEs answers =>
      ∀ h ∈ s.posted.head?, requestGuard s (handed · s.log) s.posted.tail h answers
  | .onRsrcEvent event answers =>
      s.machine.mStatePtr = .releasing → event = .denied ∨ event = .released →
        (∃ x ∈ s.machine.mSubscribers, x.isInactive = false) →
        answers.ret = LOC_API_ADAPTER_ERR_SUCCESS ∨
          allHanded (handed · s.log) answers
            (retriesAfter event (inactives s.machine.mSubscribers) s.machine.mRetries)
            (actives s.machine.mSubscribers)
  | _ => True

instance (answers : Answers) (retries : UInt8) : Decidable (armsTimer answers retries) :=
  inferInstanceAs (Decidable (_ ∧ _ ∧ _))

instance (before : UInt32 → Bool) (answers : Answers) (retries : UInt8)
    (l : List Subscriber) : Decidable (allHanded before answers retries l) :=
  inferInstanceAs (Decidable (∀ x ∈ l, x.isInactive = false →
    before x.ID = true ∨ fallsBack answers.ret retries = true ∧ x.ID = firstHandle l))

instance (s : System) (before : UInt32 → Bool) (posted : List UInt32) (h : UInt32)
    (answers : Answers) : Decidable (requestGuard s before posted h answers) :=
  inferInstanceAs (Decidable ((_ → _) ∧ (_ → _)))

instance coverGuard.decidable (s : System) : ∀ input, Decidable (coverGuard s input)
  | .requestSuplEs h answers =>
      inferInstanceAs (Decidable (requestGuard s _ s.posted h answers))
  | .retrySuplEs _ => Option.decidableForallMem _
  | .onRsrcEvent _ _ => inferInstanceAs (Decidable (_ → _ → _ → _))
  | .releaseATL _ _ => isTrue trivial
  | .timerFires => isTrue trivial

instance (s : System) (h : UInt32) : Decidable (Attended s h) :=
  inferInstanceAs (Decidable (_ ∨ _ ∨ _ ∨ _))

instance (s : System) : Decidable (Covered s) :=
  inferInstanceAs (Decidable (s.machine.mStatePtr ≠ .acquired →
    ∀ x ∈ s.machine.mSubscribers, x.isInactive = false → Attended s x.ID))

theorem handed_of_handOver {h : UInt32} {log : List Entry} {input : Input}
    {effects : List Effect} {type : AGpsExtType} (he : .requestATL h type ∈ effects) :
    handed h (log ++ .input input :: effects.map .effect) = true := by
  have hsplit : log ++ .input input :: effects.map Entry.effect =
      (log ++ [.input input]) ++ effects.map .effect := by simp
  rw [handed, hsplit, latch_append]
  refine latch_set ?_ ⟨.effect (.requestATL h type), List.mem_map_of_mem he, ?_⟩
  · intro entry hentry
    obtain ⟨e, -, rfl⟩ := List.mem_map.mp hentry
    rfl
  · simp [isHandOver]

theorem handed_stays {h : UInt32} {log : List Entry} {input : Input} {effects : List Effect}
    (hinput : isRequestOf h (.input input) = false) (hhanded : handed h log = true) :
    handed h (log ++ .input input :: effects.map .effect) = true := by
  rw [handed, latch_append]
  refine latch_stays ?_ hhanded
  intro entry hentry
  rcases List.mem_cons.mp hentry with rfl | hentry
  · exact hinput
  · obtain ⟨e, -, rfl⟩ := List.mem_map.mp hentry
    rfl

theorem unanswered_append (log entries : List Entry) :
    unanswered (log ++ entries) = entries.foldl await (unanswered log) :=
  List.foldl_append

/-- Notifications are no operations on the call. -/
theorem await_informs (waiting : Option AGpsStatusValue) (status : AgpsRsrcStatus)
    (l : List Subscriber) :
    ((l.flatMap (informs status ·.ID)).map Entry.effect).foldl await waiting = waiting := by
  induction l with
  | nil => rfl
  | cons x rest ih =>
      rw [List.flatMap_cons, List.map_append, List.foldl_append]
      have hone : ((informs status x.ID).map Entry.effect).foldl await waiting = waiting := by
        cases status <;> rfl
      rw [hone, ih]

theorem await_startCall (waiting : Option AGpsStatusValue) (answers : Answers) (h : UInt32)
    (retries : UInt8) :
    ((startCall answers h retries).2.map Entry.effect).foldl await waiting =
      if answers.ret = LOC_API_ADAPTER_ERR_SUCCESS then some .requestAgpsDataConn
      else waiting := by
  unfold startCall
  split
  · rfl
  · split <;> rfl

theorem handOver_mem_startCall {answers : Answers} {h : UInt32} {retries : UInt8}
    (hfalls : fallsBack answers.ret retries = true) :
    .requestATL h .supl ∈ (startCall answers h retries).2 := by
  simp [startCall, hfalls]

theorem start_mem_startCall {answers : Answers} {h : UInt32} {retries : UInt8} :
    .openAndStartDataCall answers.ret ∈ (startCall answers h retries).2 := by
  unfold startCall
  split
  · simp
  · split <;> simp

theorem timersIn_startCall {answers : Answers} {h : UInt32} {retries : UInt8}
    (harms : armsTimer answers retries) :
    timersIn (startCall answers h retries).2 = 1 := by
  obtain ⟨hbusy, hfalls, htimer⟩ := harms
  rw [startCall, if_neg (by simp [hfalls]), if_pos hbusy]
  simp [htimer, timersIn]

/-- The invariant. In Releasing the stop is unanswered even when nobody active
is listed yet. -/
structure Attending (s : System) : Prop where
  sound : Sound s
  covered : Covered s
  stopping : s.machine.mStatePtr = .releasing →
    unanswered s.log = some .releaseAgpsDataConn

/-- A step that keeps the state, the waiting operation and the retries keeps a
client attended, unless the client is requested anew. -/
theorem Attended.stays {s t : System} {h : UInt32} {input : Input} {effects : List Effect}
    (hattended : Attended s h) (hstate : t.machine.mStatePtr = s.machine.mStatePtr)
    (hlog : t.log = s.log ++ .input input :: effects.map .effect)
    (hwaiting : unanswered t.log = unanswered s.log)
    (hretry : 0 < s.timers ∨ s.posted ≠ [] → 0 < t.timers ∨ t.posted ≠ [])
    (hinput : isRequestOf h (.input input) = false) : Attended t h := by
  rcases hattended with ⟨hs, hw⟩ | ⟨hs, hw⟩ | ⟨hs, hr⟩ | hh
  · exact .inl ⟨hstate.trans hs, hwaiting.trans hw⟩
  · exact .inr (.inl ⟨hstate.trans hs, hwaiting.trans hw⟩)
  · exact .inr (.inr (.inl ⟨hstate.trans hs, hretry hr⟩))
  · exact .inr (.inr (.inr (hlog ▸ handed_stays hinput hh)))

section Called

variable {s : System} {input : Input} {answers : Answers} {posted : List UInt32}
  {next : AgpsStateMachine}

/-- The system after a call of the machine. -/
def called (s : System) (input : Input) (posted : List UInt32) (next : AgpsStateMachine) :
    System :=
  ⟨next, s.timers + timersIn next.effects, posted,
    s.log ++ .input input :: next.effects.map .effect⟩

theorem unanswered_called (posted : List UInt32) (next : AgpsStateMachine)
    (hinput : await (unanswered s.log) (.input input) = unanswered s.log) :
    unanswered (called s input posted next).log =
      (next.effects.map Entry.effect).foldl await (unanswered s.log) := by
  rw [called, unanswered_append, List.foldl_cons, hinput]

theorem covered_request {before : UInt32 → Bool} {h : UInt32} (hs : Attending s)
    (hinput : await (unanswered s.log) (.input input) = unanswered s.log)
    (hbefore : ∀ x, before x = true →
      handed x s.log = true ∧ isRequestOf x (.input input) = false)
    (hguard : requestGuard s before posted h answers)
    (hmoves : Moves answers s.machine.mStatePtr s.machine.mSubscribers s.machine.mRetries
      (.request h) next.mStatePtr next.mSubscribers next.mRetries next.effects) :
    Covered (called s input posted next) ∧
      (next.mStatePtr = .releasing →
        unanswered (called s input posted next).log = some .releaseAgpsDataConn) := by
  have hwaiting := unanswered_called posted next hinput
  have hstays {x : UInt32} (hx : before x = true) :
      handed x (called s input posted next).log = true :=
    handed_stays (hbefore x hx).2 (hbefore x hx).1
  have hstopping := hs.stopping
  obtain ⟨⟨state, l, type, apn, bearer, enforce, retries, old⟩, timers, queue, log⟩ := s
  obtain ⟨state', l', type', apn', bearer', enforce', retries', effects⟩ := next
  dsimp only [called] at *
  cases hmoves with
  | started =>
      rw [await_startCall] at hwaiting
      refine ⟨fun _ x hx hactive => ?_, ?_⟩
      · by_cases hsuccess : answers.ret = LOC_API_ADAPTER_ERR_SUCCESS
        · exact .inl ⟨if_pos hsuccess, by simpa [hsuccess] using hwaiting⟩
        · rcases hguard.1 rfl with hret | harms | htimers | hposted | hall
          · exact absurd hret hsuccess
          · refine .inr (.inr (.inl ⟨if_neg hsuccess, .inl ?_⟩))
            simp only [timersIn_startCall harms]
            omega
          · exact .inr (.inr (.inl ⟨if_neg hsuccess, .inl (Nat.add_pos_left htimers _)⟩))
          · exact .inr (.inr (.inl ⟨if_neg hsuccess, .inr hposted⟩))
          · rcases hall x hx hactive with hx | ⟨hfalls, hfirst⟩
            · exact .inr (.inr (.inr (hstays hx)))
            · refine .inr (.inr (.inr ?_))
              rw [hfirst]
              exact handed_of_handOver (handOver_mem_startCall hfalls)
      · split <;> simp
  | joined hstate =>
      rcases hstate with rfl | rfl
      · refine ⟨fun _ x hx hactive => ?_, by simp⟩
        rcases hguard.2 rfl with hw | hall
        · exact .inl ⟨rfl, hwaiting.trans hw⟩
        · exact .inr (.inr (.inr (hstays (hall x hx hactive))))
      · have hstop := hwaiting.trans (hstopping rfl)
        exact ⟨fun _ x hx hactive => .inr (.inl ⟨rfl, hstop⟩), fun _ => hstop⟩
  | joinedGranted => exact ⟨fun hne => absurd rfl hne, by simp⟩

theorem covered_release {h : UInt32} (hs : Attending s)
    (hinput : await (unanswered s.log) (.input input) = unanswered s.log)
    (hother : ∀ x, isRequestOf x (.input input) = false)
    (hmoves : Moves answers s.machine.mStatePtr s.machine.mSubscribers s.machine.mRetries
      (.release h) next.mStatePtr next.mSubscribers next.mRetries next.effects) :
    Covered (called s input s.posted next) ∧
      (next.mStatePtr = .releasing →
        unanswered (called s input s.posted next).log = some .releaseAgpsDataConn) := by
  have hwaiting := unanswered_called s.posted next hinput
  have hkept (hstate : next.mStatePtr = s.machine.mStatePtr)
      (hsame : unanswered (called s input s.posted next).log = unanswered s.log) (x : UInt32)
      (hx : Attended s x) : Attended (called s input s.posted next) x :=
    hx.stays hstate rfl hsame (.imp_left fun h => Nat.add_pos_left h _) (hother x)
  have hstopping := hs.stopping
  have hcovered := hs.covered
  have hds := hs.sound.consistent.isDS
  obtain ⟨⟨state, l, type, apn, bearer, enforce, retries, old⟩, timers, queue, log⟩ := s
  obtain ⟨state', l', type', apn', bearer', enforce', retries', effects⟩ := next
  dsimp only [called] at *
  have hdeactivated {x : Subscriber} (hx : x ∈ deactivate h l) (hactive : x.isInactive = false) :
      x ∈ l := by
    rcases mem_deactivate.mp hx with ⟨hx, -⟩ | ⟨y, hy, -, rfl⟩
    · exact hx
    · exact absurd (inactivated_of_isDS (hds y hy)) (by simp [hactive])
  cases hmoves with
  | unknown | toldOnly =>
      refine ⟨fun hne x hx hactive => hkept rfl hwaiting x.ID (hcovered hne x hx hactive), ?_⟩
      exact fun hstate => hwaiting.trans (hstopping hstate)
  | deactivated =>
      refine ⟨fun hne x hx hactive => ?_, fun hstate => hwaiting.trans (hstopping hstate)⟩
      exact hkept rfl hwaiting x.ID (hcovered hne x (hdeactivated hx hactive) hactive)
  | stopped => exact ⟨fun _ x hx hactive => .inr (.inl ⟨rfl, hwaiting⟩), fun _ => hwaiting⟩

theorem covered_ignored {event : AgpsRsrcStatus} (answers : Answers) (hs : Attending s)
    (hevent : heeds s.machine.mStatePtr event = false)
    (hstate : next.mStatePtr = s.machine.mStatePtr)
    (hl : next.mSubscribers = s.machine.mSubscribers) (heffects : next.effects = []) :
    Covered (called s (.onRsrcEvent event answers) s.posted next) ∧
      (next.mStatePtr = .releasing →
        unanswered (called s (.onRsrcEvent event answers) s.posted next).log =
          some .releaseAgpsDataConn) := by
  have hwaiting : unanswered (called s (.onRsrcEvent event answers) s.posted next).log =
      await (unanswered s.log) (.input (.onRsrcEvent event answers)) := by
    rw [called, unanswered_append, heffects]
    rfl
  have hretry : 0 < s.timers ∨ s.posted ≠ [] →
      0 < (called s (.onRsrcEvent event answers) s.posted next).timers ∨ s.posted ≠ [] :=
    .imp_left fun h => Nat.add_pos_left h _
  have hkept (hsame : await (unanswered s.log) (.input (.onRsrcEvent event answers)) =
      unanswered s.log) : Covered (called s (.onRsrcEvent event answers) s.posted next) := by
    intro hne x hx hactive
    have hx' : x ∈ s.machine.mSubscribers := hl ▸ hx
    exact (hs.covered (hstate ▸ hne) x hx' hactive).stays hstate rfl (hwaiting.trans hsame)
      hretry rfl
  cases hcase : s.machine.mStatePtr with
  | released =>
      refine ⟨fun hne x hx hactive => ?_, by simp [hstate, hcase]⟩
      have hx' : x ∈ s.machine.mSubscribers := hl ▸ hx
      obtain ⟨hs', -⟩ | ⟨hs', -⟩ | ⟨-, hr⟩ | hh :=
        hs.covered (by simp [hcase]) x hx' hactive
      · simp [hcase] at hs'
      · simp [hcase] at hs'
      · exact .inr (.inr (.inl ⟨hstate.trans hcase, hretry hr⟩))
      · exact .inr (.inr (.inr (handed_stays rfl hh)))
  | pending =>
      refine ⟨hkept ?_, by simp [hstate, hcase]⟩
      rw [hcase] at hevent
      cases event <;> first | rfl | exact absurd hevent (by decide)
  | acquired => exact ⟨fun hne => absurd (hstate.trans hcase) hne, by simp [hstate, hcase]⟩
  | releasing =>
      have hstop := hs.stopping hcase
      have hsame : await (unanswered s.log) (.input (.onRsrcEvent event answers)) =
          unanswered s.log := by
        rw [hcase] at hevent
        rw [hstop]
        cases event <;> first | rfl | exact absurd hevent (by decide)
      exact ⟨hkept hsame, fun _ => (hwaiting.trans hsame).trans hstop⟩

theorem covered_event {event : AgpsRsrcStatus} (hs : Attending s)
    (hguard : coverGuard s (.onRsrcEvent event answers))
    (hmoves : Moves answers s.machine.mStatePtr s.machine.mSubscribers s.machine.mRetries
      (.event event) next.mStatePtr next.mSubscribers next.mRetries next.effects) :
    Covered (called s (.onRsrcEvent event answers) s.posted next) ∧
      (next.mStatePtr = .releasing →
        unanswered (called s (.onRsrcEvent event answers) s.posted next).log =
          some .releaseAgpsDataConn) := by
  have hwaiting : unanswered (called s (.onRsrcEvent event answers) s.posted next).log =
      (next.effects.map Entry.effect).foldl await
        (await (unanswered s.log) (.input (.onRsrcEvent event answers))) := by
    rw [called, unanswered_append]
    rfl
  have hignored (hevent : heeds s.machine.mStatePtr event = false)
      (hstate : next.mStatePtr = s.machine.mStatePtr) :=
    covered_ignored answers hs hevent hstate
  have hstays {x : UInt32} (hx : handed x s.log = true) :
      handed x (called s (.onRsrcEvent event answers) s.posted next).log = true :=
    handed_stays rfl hx
  obtain ⟨⟨state, l, type, apn, bearer, enforce, retries, old⟩, timers, queue, log⟩ := s
  obtain ⟨state', l', type', apn', bearer', enforce', retries', effects⟩ := next
  dsimp only [called] at *
  cases hmoves with
  | granted => exact ⟨fun hne => absurd rfl hne, by simp⟩
  | denied | forced | closed => exact ⟨by simp [Covered], by simp⟩
  | ignored hevent => exact hignored hevent rfl rfl rfl
  | reopened hevent hsome =>
      rw [List.map_append, List.foldl_append, await_informs, await_startCall] at hwaiting
      refine ⟨fun _ x hx hactive => ?_, by simp⟩
      rcases hguard rfl hevent hsome with hsuccess | hall
      · exact .inl ⟨rfl, by simpa [hsuccess] using hwaiting⟩
      · rcases hall x hx hactive with hx | ⟨hfalls, hfirst⟩
        · exact .inr (.inr (.inr (hstays hx)))
        · refine .inr (.inr (.inr ?_))
          rw [hfirst]
          exact handed_of_handOver
            (List.mem_append_right _ (handOver_mem_startCall hfalls))

end Called

theorem attending_step (s : System) (input : Input) (hs : Attending s)
    (hguard : coverGuard s input) : Attending (step s input) := by
  suffices h : Covered (step s input) ∧ ((step s input).machine.mStatePtr = .releasing →
      unanswered (step s input).log = some .releaseAgpsDataConn) from
    ⟨sound_step hs.sound input, h.1, h.2⟩
  obtain ⟨entries, hstep⟩ := systemStep hs.sound input
  generalize step s input = t at hstep
  cases hstep with
  | idle => exact ⟨hs.covered, hs.stopping⟩
  | called htakes hmoves =>
      obtain ⟨machine, timers, posted, log⟩ := s
      cases htakes with
      | @requestSuplEs _ h answers =>
          refine covered_request hs rfl (fun x hx => ?_) hguard hmoves
          obtain ⟨hne, hx⟩ : x ≠ h ∧ handed x log = true := by simpa using hx
          exact ⟨hx, by simpa [isRequestOf] using Ne.symm hne⟩
      | retrySuplEs =>
          exact covered_request hs rfl (fun x hx => ⟨hx, rfl⟩) (hguard _ rfl) hmoves
      | releaseATL => exact covered_release hs rfl (fun _ => rfl) hmoves
      | onRsrcEvent => exact covered_event hs hguard hmoves
  | expired htimers hnone =>
      refine ⟨fun _ x hx hactive => ?_, fun hstate => ?_⟩
      · simp [hnone x hx] at hactive
      · exact (unanswered_append _ _).trans (hs.stopping hstate)
  | @posted timers x htimers hx hactive =>
      have hwaiting : unanswered
          (s.log ++ [.input .timerFires, .effect (.requestSuplES x.ID)]) =
            unanswered s.log := unanswered_append _ _
      refine ⟨fun hne y hy hy' => ?_, fun hstate => hwaiting.trans (hs.stopping hstate)⟩
      exact (hs.covered hne y hy hy').stays rfl
        (show _ = s.log ++ .input .timerFires :: [Effect.requestSuplES x.ID].map .effect from rfl)
        hwaiting (fun _ => .inr (by simp)) rfl

theorem posted_of_timerFires {s : System} (htimers : 0 < s.timers)
    (hactive : ∃ x ∈ s.machine.mSubscribers, x.isInactive = false) :
    (step s .timerFires).posted ≠ [] := by
  obtain ⟨machine, timers, posted, log⟩ := s
  obtain ⟨x, hx, hx'⟩ := hactive
  cases timers with
  | zero => cases htimers
  | succ timers =>
      have hcallback : retryCallback machine =
          (machine.mSubscribers.find? (!·.isInactive)).map (·.ID) := rfl
      cases hfind : machine.mSubscribers.find? (!·.isInactive) with
      | none =>
          have hnone := List.find?_eq_none.mp hfind x hx
          simp [hx'] at hnone
      | some y =>
          rw [hfind, Option.map_some] at hcallback
          simp [step, hcallback]

theorem start_of_retrySuplEs {s : System} (hs : Sound s)
    (hstate : s.machine.mStatePtr = .released) (hposted : s.posted ≠ []) (answers : Answers) :
    .effect (.openAndStartDataCall answers.ret) ∈ newEntries s (.retrySuplEs answers) := by
  obtain ⟨machine, timers, posted, log⟩ := s
  cases posted with
  | nil => exact absurd rfl hposted
  | cons h rest =>
      have hnew : newEntries ⟨machine, timers, h :: rest, log⟩ (.retrySuplEs answers) =
          .input (.retrySuplEs answers) ::
            (apply answers { machine with effects := [] } (.request h)).effects.map .effect :=
        List.drop_left
      have hmoves := (steps_apply (m := { machine with effects := [] }) rfl hs.consistent
        hs.single answers (.request h)).1
      rw [hnew]
      refine List.mem_cons_of_mem _ (List.mem_map_of_mem ?_)
      generalize apply answers { machine with effects := [] } (.request h) = next at hmoves
      obtain ⟨state', l', type', apn', bearer', enforce', retries', effects⟩ := next
      dsimp only at hstate hmoves ⊢
      rw [hstate] at hmoves
      cases hmoves with
      | started => exact start_mem_startCall
      | joined hcase => simp at hcase

/-- In every run whose steps meet the guard each active client is attended, and
the retries that attend it in Released do start the call again. -/
theorem active_clients_covered (inputs : List Input)
    (h : Meets step coverGuard start inputs) :
    Covered (run step start inputs) ∧ RetryStartsCall (run step start inputs) := by
  have hstart : Attending start := by
    refine ⟨sound_start, ?_, ?_⟩
    · intro _ x hx
      exact absurd hx List.not_mem_nil
    · intro hstate
      exact absurd hstate (by decide)
  have hs := run_invariant attending_step hstart h
  exact ⟨hs.covered, fun hstate =>
    ⟨posted_of_timerFires, start_of_retrySuplEs hs.sound hstate⟩⟩

/-- A busy engine, a retry that succeeds, and a second client that joins while
the call is being stopped for the first one. -/
theorem active_clients_covered_retry :
    Covered (run step start
      [.requestSuplEs 1 ⟨6, .started⟩, .timerFires, .retrySuplEs ⟨0, .noMemory⟩,
        .releaseATL 1 ⟨0, .noMemory⟩, .requestSuplEs 2 ⟨0, .noMemory⟩,
        .onRsrcEvent .released ⟨0, .noMemory⟩]) :=
  (active_clients_covered _ (by decide)).1

/-- A start that fails with `LOC_API_ADAPTER_ERR_GENERAL_FAILURE` is neither
retried nor handed over. -/
theorem client_forgotten :
    ¬Covered (run step start [.requestSuplEs 1 ⟨1, .noMemory⟩]) := by
  decide

end G2Common.Agps.DataCall
