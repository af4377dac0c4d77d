import G2Common.Agps.DataCallLog

/-!
A handle that was released and told so should hear nothing more until the modem
requests it again. It does not as long as it leaves the machine for good at the
release, which it does not in Released, and not while a retry for it is posted,
and as long as no denial reaches the closed handles that are still listed.
-/

namespace G2Common.Agps.DataCall

open Transition AgpsStateMachine DSStateMachine

/-- The calls that a closed handle must not see. -/
def isActivityOf (h : UInt32) : Entry → Bool
  | .effect (.requestATL handle _) => handle == h
  | .effect (.requestSuplES handle) => handle == h
  | .effect (.atlOpenStatus handle _ _ _ _) => handle == h
  | _ => false

def isStart : Entry → Bool
  | .effect (.openAndStartDataCall _) => true
  | _ => false

/-- In a step from `s` nothing is done for the handle, and a data call is
started only if somebody else has asked for it. -/
def Silent (h : UInt32) (s : System) (input : Input) : Prop :=
  (∀ entry ∈ newEntries s input, isActivityOf h entry = false) ∧
    ((∃ entry ∈ newEntries s input, isStart entry = true) →
      ∃ x ∈ (step s input).machine.mSubscribers, x.isInactive = false ∧ x.ID ≠ h)

/-- A listed handle is released outside Released and while no retry for it is
posted; a denial, or a release taken for one, is processed while no closed
handle is listed. -/
def closeGuard (s : System) : Input → Prop
  | .releaseATL h _ =>
      (∃ x ∈ s.machine.mSubscribers, x.ID = h) →
        s.machine.mStatePtr ≠ .released ∧ h ∉ s.posted
  | .onRsrcEvent event _ =>
      s.machine.mStatePtr = .pending ∧ (event = .denied ∨ event = .released) ∨
          s.machine.mStatePtr = .releasing ∧ event = .denied →
        ∀ x ∈ s.machine.mSubscribers, x.isInactive = true → closed x.ID s.log = false
  | _ => True

instance closeGuard.decidable (s : System) : ∀ input, Decidable (closeGuard s input)
  | .requestSuplEs _ _ => isTrue trivial
  | .retrySuplEs _ => isTrue trivial
  | .releaseATL _ _ => inferInstanceAs (Decidable (_ → _))
  | .onRsrcEvent _ _ => inferInstanceAs (Decidable (_ → _))
  | .timerFires => isTrue trivial

theorem activity_startCall {answers : Answers} {first h : UInt32} {retries : UInt8}
    (hfirst : first ≠ h) :
    ∀ e ∈ (startCall answers first retries).2, isActivityOf h (.effect e) = false := by
  intro e he
  rcases mem_startCall he with rfl | ⟨-, rfl⟩ | ⟨armed, rfl⟩
  · rfl
  · simpa [isActivityOf] using hfirst
  · rfl

/-- Who is told of a forced release sees no activity, and neither does a handle
that is told nothing. -/
theorem activity_told {status : AgpsRsrcStatus} {told : List Subscriber} {h : UInt32}
    (hquiet : status = .released ∨ ∀ x ∈ told, x.ID ≠ h) :
    ∀ e ∈ told.flatMap (informs status ·.ID), isActivityOf h (.effect e) = false := by
  intro e he
  obtain ⟨x, hx, hinformed⟩ := mem_flatMap_informs he
  cases hinformed with
  | notified | closed | forced => rfl
  | handed | opened =>
      rcases hquiet with hstatus | hother
      · cases hstatus
      · simpa [isActivityOf] using hother x hx

theorem isStart_told {status : AgpsRsrcStatus} {told : List Subscriber} :
    ∀ e ∈ told.flatMap (informs status ·.ID), isStart (.effect e) = false := by
  intro e he
  obtain ⟨x, hx, hinformed⟩ := mem_flatMap_informs he
  cases hinformed <;> rfl

/-- What a call does to a handle that nobody active is listed for: nothing, as
long as the call is no request of it and no denial finds it on the list. -/
theorem silent_moves {answers : Answers} {state next : AgpsState} {l l' : List Subscriber}
    {retries retries' : UInt8} {op : Op} {effects : List Effect} {h : UInt32}
    (hconsistent : Consistent state l)
    (hmoves : Moves answers state l retries op next l' retries' effects)
    (hinactive : ∀ x ∈ l, x.ID = h → x.isInactive = true) (hop : op ≠ .request h)
    (hdenied : state = .pending ∧ (op = .event .denied ∨ op = .event .released) ∨
      state = .releasing ∧ op = .event .denied → ∀ x ∈ l, x.ID ≠ h) :
    (∀ e ∈ effects, isActivityOf h (.effect e) = false) ∧
      ((∃ e ∈ effects, isStart (.effect e) = true) →
        ∃ x ∈ l', x.isInactive = false ∧ x.ID ≠ h) ∧
      ∀ x ∈ l', x.ID = h → x.isInactive = true := by
  have hnoStart {status : AgpsRsrcStatus} {told : List Subscriber} :
      ¬∃ e ∈ told.flatMap (informs status ·.ID), isStart (.effect e) = true := by
    rintro ⟨e, he, hstart⟩
    simp [isStart_told e he] at hstart
  have hother {x : Subscriber} (hx : x ∈ l) (hactive : x.isInactive = false) : x.ID ≠ h :=
    fun hID => by simp [hinactive x hx hID] at hactive
  have hjoin {g : UInt32} (hg : Op.request g ≠ .request h) :
      ∀ x ∈ join g l, x.ID = h → x.isInactive = true := by
    intro x hx hID
    rcases mem_join.mp hx with hx | ⟨rfl, -⟩
    · exact hinactive x hx hID
    · exact absurd (congrArg Op.request hID) hg
  have hdeactivate {g : UInt32} : ∀ x ∈ deactivate g l, x.ID = h → x.isInactive = true := by
    intro x hx hID
    rcases mem_deactivate.mp hx with ⟨hx, -⟩ | ⟨y, hy, -, rfl⟩
    · exact hinactive x hx hID
    · exact inactivated_of_isDS (hconsistent.isDS y hy)
  cases hmoves with
  | @started _ _ g =>
      obtain ⟨y, hy, -⟩ := exists_mem_join g l
      have hactive := active_of_mem_join (h := g) (hconsistent.released rfl)
      obtain ⟨x, hx, hx', hfirst⟩ := firstHandle_spec ⟨y, hy, hactive y hy⟩
      have hne : x.ID ≠ h := fun hID => by simp [hjoin hop x hx hID] at hx'
      exact ⟨activity_startCall (hfirst ▸ hne), fun _ => ⟨x, hx, hx', hne⟩, hjoin hop⟩
  | joined => exact ⟨by simp, by simp, hjoin hop⟩
  | @joinedGranted _ _ g =>
      have hg : g ≠ h := fun hg => hop (congrArg Op.request hg)
      exact ⟨by simpa [informs, isActivityOf] using hg, by simp [informs, isStart], hjoin hop⟩
  | unknown | ignored => exact ⟨by simp, by simp, hinactive⟩
  | toldOnly => exact ⟨by simp [informs, isActivityOf], by simp [informs, isStart], hinactive⟩
  | deactivated | stopped => exact ⟨by simp [isActivityOf], by simp [isStart], hdeactivate⟩
  | granted =>
      refine ⟨activity_told (.inr ?_), fun hstart => absurd hstart hnoStart, hinactive⟩
      intro x hx
      obtain ⟨hx, hactive⟩ := List.mem_filter.mp hx
      exact hother hx (by simpa using hactive)
  | denied hevent =>
      refine ⟨activity_told (.inr (hdenied (.inl ⟨rfl, ?_⟩))),
        fun hstart => absurd hstart hnoStart, by simp⟩
      exact hevent.imp (congrArg Op.event) (congrArg Op.event)
  | forced => exact ⟨activity_told (.inl rfl), fun hstart => absurd hstart hnoStart, by simp⟩
  | closed hevent =>
      refine ⟨activity_told ?_, fun hstart => absurd hstart hnoStart, by simp⟩
      rcases hevent with rfl | rfl
      · exact .inr (hdenied (.inr ⟨rfl, rfl⟩))
      · exact .inl rfl
  | @reopened _ _ event hevent hactive =>
      have hactive : ∃ x ∈ actives l, x.isInactive = false := by
        simpa [actives] using hactive
      obtain ⟨x, hx, hx', hfirst⟩ := firstHandle_spec hactive
      have hne := hother (List.mem_filter.mp hx).1 hx'
      have htold : ∀ e ∈ (inactives l).flatMap (informs event ·.ID),
          isActivityOf h (.effect e) = false := by
        apply activity_told
        rcases hevent with rfl | rfl
        · exact .inr fun y hy => hdenied (.inr ⟨rfl, rfl⟩) y (List.mem_filter.mp hy).1
        · exact .inl rfl
      refine ⟨?_, fun _ => ⟨x, hx, hx', hne⟩, ?_⟩
      · intro e he
        exact (List.mem_append.mp he).elim (htold e) (activity_startCall (hfirst ▸ hne) e)
      · intro y hy
        exact hinactive y (List.mem_filter.mp hy).1

/-- Only a release of a listed handle closes it. -/
theorem close_mem_moves {answers : Answers} {state next : AgpsState} {l l' : List Subscriber}
    {retries retries' : UInt8} {op : Op} {effects : List Effect} {h : UInt32}
    (hmoves : Moves answers state l retries op next l' retries' effects)
    (he : .atlCloseStatus h true ∈ effects) :
    op = .release h ∧ (∃ x ∈ l, x.ID = h) ∧ (state ≠ .released → l' = deactivate h l) := by
  have hstart {first : UInt32} {retries : UInt8} :
      .atlCloseStatus h true ∉ (startCall answers first retries).2 := by
    intro hmem
    rcases mem_startCall hmem with hmem | ⟨-, hmem⟩ | ⟨armed, hmem⟩ <;> cases hmem
  cases hmoves with
  | started => exact absurd he hstart
  | joined | unknown | ignored => cases he
  | joinedGranted => cases mem_informs he
  | toldOnly hh =>
      cases mem_informs he
      exact ⟨rfl, hh, fun hne => absurd rfl hne⟩
  | @deactivated _ _ _ g hh =>
      obtain rfl : h = g := by simpa using he
      exact ⟨rfl, hh, fun _ => rfl⟩
  | @stopped _ _ _ g hh =>
      obtain rfl : h = g := by simpa using he
      exact ⟨rfl, hh, fun _ => rfl⟩
  | granted | denied | forced =>
      obtain ⟨x, -, hinformed⟩ := mem_flatMap_informs he
      cases hinformed
  | closed hevent =>
      obtain ⟨x, -, hinformed⟩ := mem_flatMap_informs he
      cases hinformed
      simp at hevent
  | reopened hevent =>
      rcases List.mem_append.mp he with he | he
      · obtain ⟨x, -, hinformed⟩ := mem_flatMap_informs he
        cases hinformed
        simp at hevent
      · exact absurd he hstart

/-- The invariant: a closed handle has at most an inactive entry left, and no
retry was posted for it. -/
structure Quiet (s : System) : Prop where
  sound : Sound s
  inactive : ∀ h, closed h s.log = true →
    ∀ x ∈ s.machine.mSubscribers, x.ID = h → x.isInactive = true
  notPosted : ∀ h, closed h s.log = true → h ∉ s.posted

/-- What a step does to a closed handle. -/
theorem silent_step {s t : System} {input : Input} {entries : List Entry} (hs : Quiet s)
    (hstep : SystemStep s input t entries) (hguard : closeGuard s input) {h : UInt32}
    (hclosed : closed h s.log = true) (hinput : isRequestOf h (.input input) = false) :
    ((∀ entry ∈ entries, isActivityOf h entry = false) ∧
      ((∃ entry ∈ entries, isStart entry = true) →
        ∃ x ∈ t.machine.mSubscribers, x.isInactive = false ∧ x.ID ≠ h)) ∧
      (∀ x ∈ t.machine.mSubscribers, x.ID = h → x.isInactive = true) ∧ h ∉ t.posted := by
  have hinactive := hs.inactive h hclosed
  have hposted := hs.notPosted h hclosed
  cases hstep with
  | idle => exact ⟨⟨by simp, by simp⟩, hinactive, hposted⟩
  | @called _ op _ _ _ htakes hmoves =>
      have hop : op ≠ .request h := by
        rintro rfl
        obtain ⟨machine, timers, queue, log⟩ := s
        cases htakes with
        | requestSuplEs => simp [isRequestOf] at hinput
        | retrySuplEs => exact hposted List.mem_cons_self
      -- The guard keeps a denial away from the closed handles that are listed.
      have hdenied (hcase : s.machine.mStatePtr = .pending ∧
            (op = .event .denied ∨ op = .event .released) ∨
          s.machine.mStatePtr = .releasing ∧ op = .event .denied) :
          ∀ x ∈ s.machine.mSubscribers, x.ID ≠ h := by
        intro x hx hID
        have hopen : closed x.ID s.log = false := by
          obtain ⟨machine, timers, queue, log⟩ := s
          rcases hcase with ⟨hstate, rfl | rfl⟩ | ⟨hstate, rfl⟩ <;> cases htakes
          · exact hguard (.inl ⟨hstate, .inl rfl⟩) x hx (hinactive x hx hID)
          · exact hguard (.inl ⟨hstate, .inr rfl⟩) x hx (hinactive x hx hID)
          · exact hguard (.inr ⟨hstate, rfl⟩) x hx (hinactive x hx hID)
        rw [hID, hclosed] at hopen
        cases hopen
      obtain ⟨hactivity, hstarts, hlist⟩ :=
        silent_moves hs.sound.consistent hmoves hinactive hop hdenied
      refine ⟨⟨?_, ?_⟩, hlist, ?_⟩
      · simpa [isActivityOf] using hactivity
      · simpa [isStart] using hstarts
      · obtain ⟨machine, timers, queue, log⟩ := s
        cases htakes with
        | retrySuplEs => exact fun hmem => hposted (List.mem_cons_of_mem _ hmem)
        | _ => exact hposted
  | expired => exact ⟨⟨by simp [isActivityOf], by simp [isStart]⟩, hinactive, hposted⟩
  | @posted timers x htimers hx hactive =>
      have hne : x.ID ≠ h := fun hID => by simp [hinactive x hx hID] at hactive
      exact ⟨⟨by simpa [isActivityOf] using hne, by simp [isStart]⟩, hinactive,
        by simpa using ⟨hposted, hne.symm⟩⟩

/-- A handle that a step closes is not active after it. -/
theorem closing_step {s t : System} {input : Input} {entries : List Entry} (hs : Quiet s)
    (hstep : SystemStep s input t entries) (hguard : closeGuard s input) {h : UInt32}
    (hcloses : .effect (.atlCloseStatus h true) ∈ entries) :
    (∀ x ∈ t.machine.mSubscribers, x.ID = h → x.isInactive = true) ∧ h ∉ t.posted := by
  cases hstep with
  | idle => simp at hcloses
  | called htakes hmoves =>
      obtain ⟨rfl, hlisted, hlist⟩ := close_mem_moves hmoves (by simpa using hcloses)
      obtain ⟨machine, timers, queue, log⟩ := s
      cases htakes with
      | releaseATL =>
          obtain ⟨hstate, hposted⟩ := hguard hlisted
          refine ⟨fun x hx hID => ?_, hposted⟩
          rw [hlist hstate] at hx
          rcases mem_deactivate.mp hx with ⟨-, hne⟩ | ⟨y, hy, -, rfl⟩
          · exact absurd hID hne
          · exact inactivated_of_isDS (hs.sound.consistent.isDS y hy)
  | expired => simp at hcloses
  | posted => simp at hcloses

theorem quiet_step (s : System) (input : Input) (hs : Quiet s) (hguard : closeGuard s input) :
    Quiet (step s input) := by
  obtain ⟨entries, hstep⟩ := systemStep hs.sound input
  have hboth (h : UInt32) (hclosed : closed h (step s input).log = true) :
      (∀ x ∈ (step s input).machine.mSubscribers, x.ID = h → x.isInactive = true) ∧
        h ∉ (step s input).posted := by
    rw [hstep.log_eq, closed, latch_append] at hclosed
    rcases latch_cases hclosed with ⟨entry, hentry, hcloses⟩ | ⟨hbefore, hclears⟩
    · rw [isCloseOf, beq_iff_eq] at hcloses
      exact closing_step hs hstep hguard (hcloses ▸ hentry)
    · rcases hstep.logs_input with hsame | hinput
      · rw [hsame]
        exact ⟨hs.inactive h hbefore, hs.notPosted h hbefore⟩
      · exact (silent_step hs hstep hguard hbefore (hclears _ hinput)).2
  exact ⟨sound_step hs.sound input, fun h hclosed => (hboth h hclosed).1,
    fun h hclosed => (hboth h hclosed).2⟩

theorem quiet_start : Quiet start :=
  ⟨sound_start, by simp [closed, latch, start], by simp [closed, latch, start]⟩

/-- In every run whose steps meet the guard, each step after the closing of a
handle is silent for it, up to the next request of the modem. -/
theorem closed_handle_silent (before : List Input) (input : Input)
    (h : Meets step closeGuard start (before ++ [input])) (handle : UInt32)
    (hclosed : closed handle (run step start before).log = true)
    (hinput : isRequestOf handle (.input input) = false) :
    Silent handle (run step start before) input := by
  obtain ⟨hbefore, hguard, -⟩ := meets_append.mp h
  have hs := run_invariant quiet_step quiet_start hbefore
  obtain ⟨entries, hstep⟩ := systemStep hs.sound input
  have hsilent := (silent_step hs hstep hguard hclosed hinput).1
  rwa [← hstep.newEntries_eq] at hsilent

/-- A client that is released while the call is up, and a second one for which
the call is opened again. -/
theorem closed_handle_silent_two_clients :
    Silent 1
      (run step start
        [.requestSuplEs 1 ⟨0, .noMemory⟩, .onRsrcEvent .granted ⟨0, .noMemory⟩,
          .releaseATL 1 ⟨0, .noMemory⟩, .requestSuplEs 2 ⟨0, .noMemory⟩])
      (.onRsrcEvent .released ⟨0, .noMemory⟩) :=
  closed_handle_silent _ _ (by decide) 1 (by decide) (by decide)

/-- A client that is released while its retry timer runs stays listed as
active, and the timer requests the data call for it again. -/
theorem closed_handle_requested_again :
    ¬∀ (before : List Input) (input : Input) (handle : UInt32),
      closed handle (run step start before).log = true →
        isRequestOf handle (.input input) = false →
          Silent handle (run step start before) input := by
  intro hall
  have hsilent := hall [.requestSuplEs 1 ⟨6, .started⟩, .releaseATL 1 ⟨0, .noMemory⟩]
    .timerFires 1 (by decide) (by decide)
  exact absurd (hsilent.1 (.effect (.requestSuplES 1)) (by decide)) (by decide)

end G2Common.Agps.DataCall
