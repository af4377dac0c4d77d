import G2Common.Agps.DataCallLog

/-!
The retry budget of the emergency data call. A start of the call that comes back busy
arms the retry timer, until there have been too many of them. The count is cleared only
where the call is handed over to `requestATL`, so what one session leaves of it is
missing in the next.
-/

namespace G2Common.Agps.DataCall

open Transition AgpsStateMachine DSStateMachine

/-- The data call is busy, and a timer thread can be started. -/
def busy : Answers := ⟨LOC_API_ADAPTER_ERR_ENGINE_BUSY, .started⟩

/-- A request, and then `n` times the retry timer fires and what it posts is processed. -/
def session (handle : UInt32) (n : Nat) : List Input :=
  .requestSuplEs handle busy :: (List.replicate n [.timerFires, .retrySuplEs busy]).flatten

/-- What the log of a session tells: a busy result, a retry by timer, the fall back. -/
inductive Mark where
  | busy | retry | fallBack
  deriving DecidableEq, Repr

def mark : Entry → Option Mark
  | .effect (.openAndStartDataCall ret) =>
      if ret = LOC_API_ADAPTER_ERR_ENGINE_BUSY then some .busy else none
  | .effect (.locTimerStart armed) => if armed then some .retry else none
  | .effect (.requestATL _ _) => some .fallBack
  | _ => none

def marks (s : System) (inputs : List Input) : List Mark :=
  ((run step s inputs).log.drop s.log.length).filterMap mark

/-- A new request is retried by timer as often as it may be, and falls back on the next
busy result. Nothing is left to be retried then. -/
def FullBudget (s : System) : Prop :=
  ∀ handle, marks s (session handle MAX_START_DATA_CALL_RETRIES.toNat) =
      (List.replicate MAX_START_DATA_CALL_RETRIES.toNat [.busy, .retry]).flatten ++
        [.busy, .fallBack] ∧
    (run step s (session handle MAX_START_DATA_CALL_RETRIES.toNat)).timers = 0

def isTimerStart : Entry → Bool
  | .effect (.locTimerStart _) => true
  | _ => false

def isFallBack : Entry → Bool
  | .effect (.requestATL _ _) => true
  | _ => false

/-- A start of the data call has come back busy since the last fall back. -/
def retried (log : List Entry) : Bool := latch isTimerStart isFallBack false log

theorem latch_informs (flag : Bool) (status : AgpsRsrcStatus) (l : List Subscriber) :
    latch isTimerStart isFallBack flag ((l.flatMap (informs status ·.ID)).map .effect) =
      if status = .denied ∧ l ≠ [] then false else flag := by
  induction l generalizing flag with
  | nil => simp [latch]
  | cons x l ih =>
      have hone : latch isTimerStart isFallBack flag ((informs status x.ID).map .effect) =
          if status = .denied then false else flag := by
        cases status <;> rfl
      rw [List.flatMap_cons, List.map_append, latch_append, hone, ih]
      by_cases hdenied : status = .denied <;> simp [hdenied]

/-- The count and the flag after effects of one step. -/
def Counts (retries : UInt8) (flag : Bool) : Prop :=
  retries ≤ MAX_START_DATA_CALL_RETRIES ∧ (flag = true ↔ retries ≠ 0)

theorem counts_retriesAfter {retries : UInt8} {flag : Bool} (h : Counts retries flag)
    (status : AgpsRsrcStatus) (l : List Subscriber) :
    Counts (retriesAfter status l retries)
      (latch isTimerStart isFallBack flag ((l.flatMap (informs status ·.ID)).map .effect)) := by
  rw [latch_informs, retriesAfter]
  split
  · exact ⟨by decide, by simp⟩
  · exact h

theorem next_le {retries : UInt8} (h : retries ≤ MAX_START_DATA_CALL_RETRIES)
    (hne : retries ≠ MAX_START_DATA_CALL_RETRIES) :
    retries + 1 ≤ MAX_START_DATA_CALL_RETRIES ∧ retries + 1 ≠ 0 := by
  have hmax : MAX_START_DATA_CALL_RETRIES.toNat = 4 := rfl
  have hone : (1 : UInt8).toNat = 1 := rfl
  have hzero : (0 : UInt8).toNat = 0 := rfl
  rw [UInt8.le_iff_toNat_le, hmax] at h
  rw [ne_eq, ← UInt8.toNat_inj, hmax] at hne
  rw [UInt8.le_iff_toNat_le, ne_eq, ← UInt8.toNat_inj, UInt8.toNat_add, hmax, hone, hzero]
  omega

theorem fallsBack_busy {retries : UInt8} (h : retries ≤ MAX_START_DATA_CALL_RETRIES) :
    fallsBack LOC_API_ADAPTER_ERR_ENGINE_BUSY retries =
      decide (retries = MAX_START_DATA_CALL_RETRIES) := by
  have hbusy : fallsBack LOC_API_ADAPTER_ERR_ENGINE_BUSY retries =
      decide (retries + 1 > MAX_START_DATA_CALL_RETRIES) := rfl
  rw [hbusy, decide_eq_decide]
  constructor
  · intro hgt
    by_contra hne
    exact absurd hgt (UInt8.not_lt.mpr (next_le h hne).1)
  · rintro rfl
    decide

theorem startCall_busy {retries : UInt8} (h : retries ≤ MAX_START_DATA_CALL_RETRIES)
    (handle : UInt32) :
    startCall busy handle retries =
      if retries = MAX_START_DATA_CALL_RETRIES then
        (0, [.openAndStartDataCall busy.ret, .requestATL handle .supl])
      else (retries + 1, [.openAndStartDataCall busy.ret, .locTimerStart true]) := by
  unfold startCall
  simp only [show busy.ret = LOC_API_ADAPTER_ERR_ENGINE_BUSY from rfl, fallsBack_busy h,
    decide_eq_true_eq, if_true]
  rfl

theorem counts_startCall {retries : UInt8} {flag : Bool} (h : Counts retries flag)
    (answers : Answers) (handle : UInt32) :
    Counts (startCall answers handle retries).1
      (latch isTimerStart isFallBack flag ((startCall answers handle retries).2.map .effect)) := by
  unfold startCall
  split
  · exact ⟨UInt8.zero_le, by simp [latch, isTimerStart, isFallBack]⟩
  · next hfalls =>
    split
    · next hbusy =>
      rw [hbusy, fallsBack_busy h.1, decide_eq_true_eq] at hfalls
      obtain ⟨hle, hne⟩ := next_le h.1 hfalls
      exact ⟨hle, iff_of_true rfl hne⟩
    · exact h

theorem counts_moves {answers : Answers} {state next : AgpsState} {l l' : List Subscriber}
    {retries retries' : UInt8} {op : Op} {effects : List Effect} {flag : Bool}
    (h : Counts retries flag)
    (hmoves : Moves answers state l retries op next l' retries' effects) :
    Counts retries' (latch isTimerStart isFallBack flag (effects.map .effect)) := by
  cases hmoves with
  | started => exact counts_startCall h answers _
  | joined | joinedGranted | unknown | toldOnly | deactivated | stopped | ignored => exact h
  | granted => simpa [retriesAfter] using counts_retriesAfter h .granted (actives l)
  | denied => exact counts_retriesAfter h .denied l
  | forced => simpa [retriesAfter] using counts_retriesAfter h .released l
  | closed => exact counts_retriesAfter h _ l
  | reopened =>
      rw [List.map_append, latch_append]
      exact counts_startCall (counts_retriesAfter h _ (inactives l)) answers _

/-- The count is what the log says of busy results since the last fall back. -/
structure Counted (s : System) : Prop where
  sound : Sound s
  counts : Counts s.machine.mRetries (retried s.log)

theorem counted_start : Counted start :=
  ⟨sound_start, by decide, by decide⟩

theorem counted_step {s : System} (hs : Counted s) (input : Input) : Counted (step s input) := by
  obtain ⟨entries, hstep⟩ := systemStep hs.sound input
  refine ⟨sound_step hs.sound input, ?_⟩
  rw [retried, hstep.log_eq, latch_append]
  generalize step s input = t at hstep
  cases hstep with
  | idle => exact hs.counts
  | called htakes hmoves => exact counts_moves hs.counts hmoves
  | expired => exact hs.counts
  | posted => exact hs.counts

variable {s : System}

theorem step_of_takes (hs : Sound s) {input : Input} {op : Op} {answers : Answers}
    {posted : List UInt32} (htakes : Takes s.posted input op answers posted) :
    ∃ next : AgpsStateMachine,
      Moves answers s.machine.mStatePtr s.machine.mSubscribers s.machine.mRetries op
        next.mStatePtr next.mSubscribers next.mRetries next.effects ∧
      step s input = ⟨next, s.timers + timersIn next.effects, posted,
        s.log ++ .input input :: next.effects.map .effect⟩ := by
  have hsteps (answers : Answers) (op : Op) :=
    (steps_apply (m := { s.machine with effects := [] }) rfl hs.consistent hs.single
      answers op).1
  obtain ⟨machine, timers, waiting, log⟩ := s
  cases htakes with
  | requestSuplEs | retrySuplEs | releaseATL | onRsrcEvent => exact ⟨_, hsteps answers _, rfl⟩

/-- Where somebody is active, the timer posts a request. -/
theorem step_timerFires {timers : Nat} (htimers : s.timers = timers + 1)
    (hactive : ∃ x ∈ s.machine.mSubscribers, x.isInactive = false) :
    ∃ handle, step s .timerFires =
      { s with
        timers := timers
        posted := s.posted ++ [handle]
        log := s.log ++ [.input .timerFires, .effect (.requestSuplES handle)] } := by
  obtain ⟨x, hx, hx'⟩ := hactive
  cases hfind : s.machine.mSubscribers.find? (!·.isInactive) with
  | none =>
      have hnone := List.find?_eq_none.mp hfind x hx
      simp [hx'] at hnone
  | some y =>
      have hcallback : retryCallback s.machine = some y.ID := by
        rw [retryCallback, search_active, hfind, Option.map_some]
      refine ⟨y.ID, ?_⟩
      simp only [step, htimers, hcallback]

theorem run_log (hs : Sound s) (inputs : List Input) :
    ∃ entries, (run step s inputs).log = s.log ++ entries := by
  induction inputs generalizing s with
  | nil => exact ⟨[], by simp⟩
  | cons input rest ih =>
      obtain ⟨first, hfirst⟩ := systemStep hs input
      obtain ⟨entries, hentries⟩ := ih (sound_step hs input)
      exact ⟨first ++ entries, by rw [run_cons, hentries, hfirst.log_eq, List.append_assoc]⟩

theorem marks_append (hs : Sound s) (first second : List Input) :
    marks s (first ++ second) = marks s first ++ marks (run step s first) second := by
  obtain ⟨before, hbefore⟩ := run_log hs first
  have hstep (s : System) (input : Input) (h : Sound s) : Sound (step s input) :=
    sound_step h input
  have hsound := run_invariant_all hstep hs first
  obtain ⟨after, hafter⟩ := run_log hsound second
  rw [marks, marks, marks, run_append, hafter, hbefore, List.append_assoc, List.drop_left,
    List.drop_left, ← List.append_assoc, List.drop_left, List.filterMap_append]

/-- What a start of the call that comes back busy leaves in Released, and the marks of it,
where it was made with so many retries and timers. -/
structure Attempt (retries : UInt8) (timers : Nat) (seen : List Mark) (t : System) : Prop where
  counted : Counted t
  released : t.machine.mStatePtr = .released
  active : ∃ x ∈ t.machine.mSubscribers, x.isInactive = false
  outcome :
    if retries = MAX_START_DATA_CALL_RETRIES then
      t.timers = timers ∧ seen = [.busy, .fallBack]
    else
      t.machine.mRetries = retries + 1 ∧ t.timers = timers + 1 ∧ seen = [.busy, .retry]

theorem attempt (hs : Counted s) (hreleased : s.machine.mStatePtr = .released) {input : Input}
    {handle : UInt32} {posted : List UInt32}
    (htakes : Takes s.posted input (.request handle) busy posted) :
    Attempt s.machine.mRetries s.timers (marks s [input]) (step s input) := by
  have hcounted := counted_step hs input
  obtain ⟨next, hmoves, hstep⟩ := step_of_takes hs.sound htakes
  rw [marks, run_cons, run_nil]
  rw [hstep] at hcounted ⊢
  rw [hreleased] at hmoves
  obtain ⟨state, l', type, apn, bearer, enforce, retries', effects⟩ := next
  have hlog (entries : List Entry) :
      ((s.log ++ .input input :: entries).drop s.log.length).filterMap mark =
        entries.filterMap mark := by
    rw [List.drop_left, List.filterMap_cons_none rfl]
  cases hmoves with
  | joined hstate => simp at hstate
  | started =>
      obtain ⟨x, hx, -⟩ := exists_mem_join handle s.machine.mSubscribers
      have hactive := active_of_mem_join (h := handle) (hs.sound.consistent.released hreleased)
      refine ⟨hcounted, rfl, ⟨x, hx, hactive x hx⟩, ?_⟩
      rw [hlog, startCall_busy hs.counts.1]
      split
      · exact ⟨rfl, rfl⟩
      · exact ⟨rfl, rfl, rfl⟩

/-- The timer fires and what it posts is processed. -/
theorem turn {timers : Nat} (hs : Counted s) (hreleased : s.machine.mStatePtr = .released)
    (hactive : ∃ x ∈ s.machine.mSubscribers, x.isInactive = false)
    (htimers : s.timers = timers + 1) :
    Attempt s.machine.mRetries timers (marks s [.timerFires, .retrySuplEs busy])
      (run step s [.timerFires, .retrySuplEs busy]) := by
  obtain ⟨handle, hfire⟩ := step_timerFires htimers hactive
  have hcounted := counted_step hs .timerFires
  have hquiet : marks s [.timerFires] = [] := by
    rw [marks, run_cons, run_nil, hfire, List.drop_left]
    rfl
  obtain ⟨first, rest, hposted⟩ : ∃ first rest, s.posted ++ [handle] = first :: rest := by
    cases s.posted with
    | nil => exact ⟨handle, [], rfl⟩
    | cons first rest => exact ⟨first, rest ++ [handle], rfl⟩
  have htakes : Takes (step s .timerFires).posted (.retrySuplEs busy) (.request first) busy
      rest := by
    rw [hfire, hposted]
    exact .retrySuplEs
  have hmarks := marks_append hs.sound [.timerFires] [.retrySuplEs busy]
  rw [hquiet, List.nil_append] at hmarks
  have hattempt := attempt hcounted (by rw [hfire]; exact hreleased) htakes
  change marks s [.timerFires, .retrySuplEs busy] =
    marks (step s .timerFires) [.retrySuplEs busy] at hmarks
  rw [hmarks]
  rw [hfire] at hattempt ⊢
  change Attempt _ _ _ (step (step s .timerFires) (.retrySuplEs busy))
  rw [hfire]
  exact hattempt

/-- From a timer that runs, each turn is a retry until the budget is used up, and the next
one falls back. -/
theorem turns {left timers : Nat} (hs : Counted s) (hreleased : s.machine.mStatePtr = .released)
    (hactive : ∃ x ∈ s.machine.mSubscribers, x.isInactive = false)
    (htimers : s.timers = timers + 1)
    (hleft : s.machine.mRetries.toNat + left = MAX_START_DATA_CALL_RETRIES.toNat) :
    marks s (List.replicate (left + 1) [.timerFires, .retrySuplEs busy]).flatten =
        (List.replicate left [.busy, .retry]).flatten ++ [.busy, .fallBack] ∧
      (run step s (List.replicate (left + 1) [.timerFires, .retrySuplEs busy]).flatten).timers =
        timers := by
  induction left generalizing s with
  | zero =>
      obtain ⟨-, -, -, houtcome⟩ := turn hs hreleased hactive htimers
      rw [if_pos (UInt8.toNat_inj.mp hleft)] at houtcome
      exact ⟨houtcome.2, houtcome.1⟩
  | succ left ih =>
      obtain ⟨hcounted, hstill, hlisted, houtcome⟩ := turn hs hreleased hactive htimers
      have hne : s.machine.mRetries ≠ MAX_START_DATA_CALL_RETRIES := by
        intro hmax
        rw [hmax] at hleft
        omega
      rw [if_neg hne] at houtcome
      obtain ⟨hretries, hnext, hmarks⟩ := houtcome
      have hcount : (run step s [.timerFires, .retrySuplEs busy]).machine.mRetries.toNat + left =
          MAX_START_DATA_CALL_RETRIES.toNat := by
        have hmax : MAX_START_DATA_CALL_RETRIES.toNat = 4 := rfl
        rw [hretries, UInt8.toNat_add, show (1 : UInt8).toNat = 1 from rfl]
        omega
      obtain ⟨hrest, hend⟩ := ih hcounted hstill hlisted hnext hcount
      rw [List.replicate_succ, List.flatten_cons, marks_append hs.sound, hmarks, hrest,
        List.replicate_succ, List.flatten_cons, List.append_assoc]
      refine ⟨rfl, ?_⟩
      rw [run_append]
      exact hend

/-- A session uses up what is left of the budget. -/
theorem session_marks (hs : Counted s) (hreleased : s.machine.mStatePtr = .released)
    (handle : UInt32) {left : Nat}
    (hleft : s.machine.mRetries.toNat + left = MAX_START_DATA_CALL_RETRIES.toNat) :
    marks s (session handle left) =
        (List.replicate left [.busy, .retry]).flatten ++ [.busy, .fallBack] ∧
      (run step s (session handle left)).timers = s.timers := by
  have htakes : Takes s.posted (.requestSuplEs handle busy) (.request handle) busy s.posted :=
    .requestSuplEs
  obtain ⟨hcounted, hstill, hlisted, houtcome⟩ := attempt hs hreleased htakes
  cases left with
  | zero =>
      rw [if_pos (UInt8.toNat_inj.mp hleft)] at houtcome
      exact ⟨houtcome.2, houtcome.1⟩
  | succ left =>
      have hne : s.machine.mRetries ≠ MAX_START_DATA_CALL_RETRIES := by
        intro hmax
        rw [hmax] at hleft
        omega
      rw [if_neg hne] at houtcome
      obtain ⟨hretries, hnext, hmarks⟩ := houtcome
      have hcount : (step s (.requestSuplEs handle busy)).machine.mRetries.toNat + left =
          MAX_START_DATA_CALL_RETRIES.toNat := by
        have hmax : MAX_START_DATA_CALL_RETRIES.toNat = 4 := rfl
        rw [hretries, UInt8.toNat_add, show (1 : UInt8).toNat = 1 from rfl]
        omega
      obtain ⟨hrest, hend⟩ := turns hcounted hstill hlisted hnext hcount
      refine ⟨?_, hend⟩
      have hsplit := marks_append hs.sound [.requestSuplEs handle busy]
        (List.replicate (left + 1) [.timerFires, .retrySuplEs busy]).flatten
      rw [session, ← List.singleton_append, hsplit, hmarks]
      change _ ++ marks (step s (.requestSuplEs handle busy)) _ = _
      rw [hrest]
      rfl

theorem idxOf_fallBack (left : Nat) (rest : List Mark) :
    ((List.replicate left [Mark.busy, Mark.retry]).flatten ++
      ([Mark.busy, Mark.fallBack] ++ rest)).idxOf
      Mark.fallBack = 2 * left + 1 := by
  induction left with
  | zero => rfl
  | succ left ih =>
      rw [List.replicate_succ, List.flatten_cons, List.append_assoc, List.cons_append,
        List.cons_append, List.nil_append, List.idxOf_cons_ne _ (by decide),
        List.idxOf_cons_ne _ (by decide), ih]
      omega

theorem fullBudget_iff (hs : Counted s) (hreleased : s.machine.mStatePtr = .released)
    (htimers : s.timers = 0) : FullBudget s ↔ retried s.log = false := by
  obtain ⟨hle, hflag⟩ := hs.counts
  have hclear : retried s.log = false ↔ s.machine.mRetries.toNat = 0 := by
    rw [← Bool.not_eq_true, hflag, not_not, ← UInt8.toNat_inj]
    rfl
  rw [UInt8.le_iff_toNat_le] at hle
  rw [hclear]
  constructor
  · intro hfull
    obtain ⟨hmarks, -⟩ := hfull 0
    obtain ⟨left, hleft⟩ := Nat.exists_eq_add_of_le hle
    obtain ⟨hused, -⟩ := session_marks hs hreleased 0 hleft.symm
    have hsession : session 0 MAX_START_DATA_CALL_RETRIES.toNat = session 0 left ++
        (List.replicate s.machine.mRetries.toNat [.timerFires, .retrySuplEs busy]).flatten := by
      rw [session, session, List.cons_append, ← List.flatten_append,
        List.replicate_append_replicate, hleft, Nat.add_comm]
    rw [hsession, marks_append hs.sound, hused] at hmarks
    have hfirst := congrArg (List.idxOf Mark.fallBack) hmarks
    have hfull := idxOf_fallBack MAX_START_DATA_CALL_RETRIES.toNat []
    rw [List.append_nil] at hfull
    rw [List.append_assoc, idxOf_fallBack, hfull] at hfirst
    omega
  · intro hzero handle
    have hleft : s.machine.mRetries.toNat + MAX_START_DATA_CALL_RETRIES.toNat =
        MAX_START_DATA_CALL_RETRIES.toNat := by
      rw [hzero, Nat.zero_add]
    obtain ⟨hmarks, hend⟩ := session_marks hs hreleased handle hleft
    exact ⟨hmarks, hend.trans htimers⟩

/-- The counter never wraps, and where a history ends in Released without a timer, the next
request has its full budget exactly if no start of the data call has come back busy since
the last fall back. -/
theorem retry_budget (history : List Input)
    (hreleased : (run step start history).machine.mStatePtr = .released)
    (htimers : (run step start history).timers = 0) :
    (∀ inputs, (run step start inputs).machine.mRetries ≤ MAX_START_DATA_CALL_RETRIES) ∧
        FullBudget (run step start history) ↔
      retried (run step start history).log = false := by
  have hstep (s : System) (input : Input) (h : Counted s) : Counted (step s input) :=
    counted_step h input
  have hcounted (inputs : List Input) : Counted (run step start inputs) :=
    run_invariant_all hstep counted_start inputs
  rw [← fullBudget_iff (hcounted history) hreleased htimers]
  exact and_iff_right (fun inputs => (hcounted inputs).counts.1)

/-- A machine that has fallen back has its full budget again. -/
theorem retry_budget_fallen_back :
    (∀ inputs, (run step start inputs).machine.mRetries ≤ MAX_START_DATA_CALL_RETRIES) ∧
        FullBudget (run step start (session 1 4)) ↔
      retried (run step start (session 1 4)).log = false :=
  retry_budget (session 1 4) (by decide) (by decide)

/-- A call that was busy once, then granted and released, leaves a retry less for the next
one. -/
theorem budget_used_up :
    ∃ history, (run step start history).machine.mStatePtr = .released ∧
      (run step start history).timers = 0 ∧ ¬FullBudget (run step start history) := by
  refine ⟨session 1 0 ++ [.timerFires, .retrySuplEs ⟨LOC_API_ADAPTER_ERR_SUCCESS, .started⟩,
    .onRsrcEvent .granted busy, .releaseATL 1 busy, .onRsrcEvent .released busy], ?_, ?_, ?_⟩
  · decide
  · decide
  · intro hfull
    exact absurd (hfull 2).1 (by decide)

end G2Common.Agps.DataCall
