import G2Common.Agps.DataCallLog

/-!
A client that was told that its data call is open holds an active entry of the
machine, so the call is not stopped under it. This breaks in Acquired only: a
request there is granted to a temporary, while an inactive entry of the same
handle keeps it from being listed.
-/

namespace G2Common.Agps.DataCall

open Transition AgpsStateMachine DSStateMachine

/-- The client's last message was a request, and its data call is open. -/
def Granted (h : UInt32) (log : List Entry) : Prop :=
  asked h log = true ∧ opened h log = true

def Holds (s : System) (h : UInt32) : Prop :=
  ∃ x ∈ s.machine.mSubscribers, x.isInactive = false ∧ x.ID = h

/-- A request that is processed in Acquired finds no inactive entry of its
handle; one that the timer posted may, once the client was released. -/
def grantGuard (s : System) : Input → Prop
  | .requestSuplEs h _ =>
      s.machine.mStatePtr = .acquired →
        ∀ x ∈ s.machine.mSubscribers, x.ID = h → x.isInactive = false
  | .retrySuplEs _ =>
      s.machine.mStatePtr = .acquired →
        ∀ h ∈ s.posted.head?, asked h s.log = true →
          ∀ x ∈ s.machine.mSubscribers, x.ID = h → x.isInactive = false
  | _ => True

instance grantGuard.decidable (s : System) : ∀ input, Decidable (grantGuard s input)
  | .requestSuplEs _ _ => inferInstanceAs (Decidable (_ → _))
  | .retrySuplEs _ =>
      have (p : UInt32 → Prop) [DecidablePred p] : Decidable (∀ h ∈ s.posted.head?, p h) :=
        Option.decidableForallMem _
      inferInstanceAs (Decidable (_ → _))
  | .releaseATL _ _ => isTrue trivial
  | .onRsrcEvent _ _ => isTrue trivial
  | .timerFires => isTrue trivial

instance (h : UInt32) (log : List Entry) : Decidable (Granted h log) :=
  inferInstanceAs (Decidable (_ ∧ _))

instance (s : System) (h : UInt32) : Decidable (Holds s h) :=
  inferInstanceAs (Decidable (∃ x ∈ s.machine.mSubscribers, x.isInactive = false ∧ x.ID = h))

/-- The call is stopped by a release that leaves nobody active. -/
theorem stop_mem_moves {answers : Answers} {state next : AgpsState} {l l' : List Subscriber}
    {retries retries' : UInt8} {op : Op} {effects : List Effect}
    (hmoves : Moves answers state l retries op next l' retries' effects)
    (he : .stopDataCall ∈ effects) :
    ∃ g, op = .release g ∧ ∀ x ∈ deactivate g l, x.isInactive = true := by
  have hstart {first : UInt32} {retries : UInt8} :
      .stopDataCall ∉ (startCall answers first retries).2 := by
    intro hmem
    rcases mem_startCall hmem with hmem | ⟨-, hmem⟩ | ⟨armed, hmem⟩ <;> cases hmem
  have htold {status : AgpsRsrcStatus} {told : List Subscriber} :
      .stopDataCall ∉ told.flatMap (informs status ·.ID) := by
    intro hmem
    obtain ⟨x, -, hinformed⟩ := mem_flatMap_informs hmem
    cases hinformed
  cases hmoves with
  | started => exact absurd he hstart
  | joined | unknown | ignored => cases he
  | joinedGranted | toldOnly => cases mem_informs he
  | deactivated => cases List.mem_singleton.mp he
  | stopped hh hstate hnone => exact ⟨_, rfl, hnone⟩
  | granted | denied | forced | closed => exact absurd he htold
  | reopened =>
      exact (List.mem_append.mp he).elim (fun he => absurd he htold) (fun he => absurd he hstart)

/-- An active client in Acquired stays one, unless it is released or the call is
taken away. -/
theorem holds_moves {answers : Answers} {next : AgpsState} {l l' : List Subscriber}
    {retries retries' : UInt8} {op : Op} {effects : List Effect} {h : UInt32}
    (hmoves : Moves answers .acquired l retries op next l' retries' effects)
    (hholds : ∃ x ∈ l, x.isInactive = false ∧ x.ID = h) (hop : op ≠ .release h)
    (hforced : .notified h .released ∉ effects) :
    next = .acquired ∧ ∃ x ∈ l', x.isInactive = false ∧ x.ID = h := by
  obtain ⟨x, hx, hactive, rfl⟩ := hholds
  have hdeactivate {g : UInt32} (hg : Op.release g ≠ .release x.ID) : x ∈ deactivate g l :=
    mem_deactivate.mpr (.inl ⟨hx, fun hID => hg (hID ▸ rfl)⟩)
  cases hmoves with
  | joined hstate => simp at hstate
  | joinedGranted => exact ⟨rfl, x, mem_join.mpr (.inl hx), hactive, rfl⟩
  | unknown | ignored => exact ⟨rfl, x, hx, hactive, rfl⟩
  | deactivated => exact ⟨rfl, x, hdeactivate hop, hactive, rfl⟩
  | stopped _ _ hnone =>
      have hinactive := hnone x (hdeactivate hop)
      simp [hactive] at hinactive
  | forced =>
      refine absurd (List.mem_flatMap.mpr ⟨x, hx, ?_⟩) hforced
      simp [informs]

/-- The invariant. -/
structure Kept (s : System) : Prop where
  sound : Sound s
  acquired : ∀ h, Granted h s.log → s.machine.mStatePtr = .acquired
  holds : ∀ h, Granted h s.log → Holds s h

/-- Who is granted after a step was granted in the step, or before it and the
step did nothing to end it. -/
theorem granted_cases {h : UInt32} {input : Input} {effects : List Effect} {log : List Entry}
    (hgranted : Granted h (log ++ .input input :: effects.map .effect)) :
    (∃ entry ∈ effects.map Entry.effect, isOpenOf h entry = true) ∨
      (Granted h log ∧ isReleaseOf h (.input input) = false ∧
        .notified h .released ∉ effects) := by
  obtain ⟨hasked, hopened⟩ := hgranted
  rw [opened, latch_append] at hopened
  rcases latch_cases hopened with ⟨entry, hentry, hset⟩ | ⟨hbefore, hends⟩
  · rcases List.mem_cons.mp hentry with rfl | hentry
    · cases hset
    · exact .inl ⟨entry, hentry, hset⟩
  · have hinput := hends _ List.mem_cons_self
    rcases asked_input hasked with hrequest | ⟨hasked, hrelease⟩
    · simp [isEndOf, hrequest] at hinput
    · refine .inr ⟨⟨hasked, hbefore⟩, hrelease, fun hforced => ?_⟩
      have hend := hends (.effect (.notified h .released))
        (List.mem_cons_of_mem _ (List.mem_map_of_mem hforced))
      simp [isEndOf] at hend

/-- Who joins in Acquired is active afterwards. -/
theorem holds_join {s : System} {posted : List UInt32} {input : Input} {answers : Answers}
    {h : UInt32} {effects : List Effect} (hguard : grantGuard s input)
    (htakes : Takes s.posted input (.request h) answers posted)
    (hstate : s.machine.mStatePtr = .acquired)
    (hasked : asked h (s.log ++ .input input :: effects.map .effect) = true) :
    ∃ x ∈ join h s.machine.mSubscribers, x.isInactive = false ∧ x.ID = h := by
  have hlisted : ∀ x ∈ s.machine.mSubscribers, x.ID = h → x.isInactive = false := by
    obtain ⟨machine, timers, queue, log⟩ := s
    cases htakes with
    | requestSuplEs => exact hguard hstate
    | retrySuplEs =>
        rcases asked_input hasked with hrequest | ⟨hasked, -⟩
        · cases hrequest
        · exact hguard hstate h rfl hasked
  obtain ⟨x, hx, hID⟩ := exists_mem_join h s.machine.mSubscribers
  refine ⟨x, hx, ?_, hID⟩
  rcases mem_join.mp hx with hx | ⟨rfl, -⟩
  · exact hlisted x hx hID
  · rfl

theorem granted_step {s t : System} {input : Input} {entries : List Entry} (hs : Kept s)
    (hstep : SystemStep s input t entries) (hguard : grantGuard s input) {h : UInt32}
    (hgranted : Granted h t.log) : t.machine.mStatePtr = .acquired ∧ Holds t h := by
  have hidle (hbefore : Granted h s.log) :
      s.machine.mStatePtr = .acquired ∧ Holds s h :=
    ⟨hs.acquired h hbefore, hs.holds h hbefore⟩
  cases hstep with
  | idle => exact hidle hgranted
  | @called _ op _ _ _ htakes hmoves =>
      rcases granted_cases hgranted with ⟨entry, hentry, hopen⟩ | ⟨hbefore, hrelease, hforced⟩
      · obtain ⟨hnext, ⟨rfl, hstate, hl⟩ | ⟨-, hl, hholds⟩⟩ :=
          open_mem_moves hmoves hentry hopen
        · rw [Holds, hl]
          exact ⟨hnext, holds_join hguard htakes hstate hgranted.1⟩
        · rw [Holds, hl]
          exact ⟨hnext, hholds⟩
      · have hop : op ≠ .release h := by
          rintro rfl
          simp [release_of_takes htakes] at hrelease
        rw [hs.acquired h hbefore] at hmoves
        exact holds_moves hmoves (hs.holds h hbefore) hop hforced
  | expired =>
      have hgranted' : Granted h (s.log ++ .input .timerFires :: ([] : List Effect).map .effect) :=
        hgranted
      rcases granted_cases hgranted' with ⟨entry, hentry, -⟩ | ⟨hbefore, -⟩
      · cases hentry
      · exact hidle hbefore
  | @posted timers x =>
      have hgranted' : Granted h
          (s.log ++ .input .timerFires :: [Effect.requestSuplES x.ID].map .effect) := hgranted
      rcases granted_cases hgranted' with ⟨entry, hentry, hopen⟩ | ⟨hbefore, -⟩
      · obtain rfl := List.mem_singleton.mp hentry
        cases hopen
      · exact hidle hbefore

theorem kept_step (s : System) (input : Input) (hs : Kept s) (hguard : grantGuard s input) :
    Kept (step s input) := by
  obtain ⟨entries, hstep⟩ := systemStep hs.sound input
  exact ⟨sound_step hs.sound input, fun h hgranted => (granted_step hs hstep hguard hgranted).1,
    fun h hgranted => (granted_step hs hstep hguard hgranted).2⟩

theorem kept_start : Kept start := by
  have hnobody (h : UInt32) : ¬Granted h start.log := by
    simp [Granted, asked, latch, start]
  exact ⟨sound_start, fun h hgranted => absurd hgranted (hnobody h),
    fun h hgranted => absurd hgranted (hnobody h)⟩

/-- No stop is made while somebody is granted, the message that is being
processed included. -/
theorem not_stopped_step {s t : System} {input : Input} {entries : List Entry} (hs : Kept s)
    (hstep : SystemStep s input t entries) (hstop : ∃ entry ∈ entries, isStop entry = true)
    (h : UInt32) : ¬Granted h (s.log ++ [.input input]) := by
  intro hgranted
  obtain ⟨entry, hentry, hisStop⟩ := hstop
  rw [isStop, beq_iff_eq] at hisStop
  subst hisStop
  have hgranted' : Granted h (s.log ++ .input input :: ([] : List Effect).map .effect) := hgranted
  rcases granted_cases hgranted' with ⟨entry, hmem, -⟩ | ⟨hbefore, hrelease, -⟩
  · cases hmem
  · cases hstep with
    | idle => cases hentry
    | called htakes hmoves =>
        obtain ⟨g, rfl, hnone⟩ := stop_mem_moves hmoves (by simpa using hentry)
        obtain ⟨x, hx, hactive, rfl⟩ := hs.holds h hbefore
        have hne : x.ID ≠ g := by
          rintro rfl
          simp [release_of_takes htakes] at hrelease
        have hinactive := hnone x (mem_deactivate.mpr (.inl ⟨hx, hne⟩))
        simp [hactive] at hinactive
    | expired => simp at hentry
    | posted => simp at hentry

/-- In every run whose steps meet the guard a granted client has an active
entry, and no step of the run stops the call under a granted client. -/
theorem granted_clients_kept (inputs : List Input) (h : Meets step grantGuard start inputs) :
    (∀ handle, Granted handle (run step start inputs).log →
      Holds (run step start inputs) handle) ∧
    ∀ input, (∃ entry ∈ newEntries (run step start inputs) input, isStop entry = true) →
      ∀ handle, ¬Granted handle ((run step start inputs).log ++ [.input input]) := by
  have hs := run_invariant kept_step kept_start h
  refine ⟨hs.holds, fun input hstop => ?_⟩
  obtain ⟨entries, hstep⟩ := systemStep hs.sound input
  rw [hstep.newEntries_eq] at hstop
  exact not_stopped_step hs hstep hstop

/-- Two clients share the call, one of them is released and the other one keeps
it. -/
theorem granted_clients_kept_two_clients :
    Holds
      (run step start
        [.requestSuplEs 1 ⟨0, .noMemory⟩, .requestSuplEs 2 ⟨0, .noMemory⟩,
          .onRsrcEvent .granted ⟨0, .noMemory⟩, .releaseATL 1 ⟨0, .noMemory⟩]) 2 :=
  (granted_clients_kept _ (by decide)).1 2 (by decide)

/-- The client that is requested again while its inactive entry is listed is
told that the call is open, and the call is stopped when the other one is
released. -/
theorem granted_client_stopped :
    let inputs : List Input := [.requestSuplEs 1 ⟨0, .noMemory⟩, .requestSuplEs 2 ⟨0, .noMemory⟩,
      .onRsrcEvent .granted ⟨0, .noMemory⟩, .releaseATL 1 ⟨0, .noMemory⟩,
      .requestSuplEs 1 ⟨0, .noMemory⟩]
    Granted 1 (run step start inputs).log ∧ ¬Holds (run step start inputs) 1 ∧
      .effect .stopDataCall ∈
        newEntries (run step start inputs) (.releaseATL 2 ⟨0, .noMemory⟩) := by
  decide

end G2Common.Agps.DataCall
