import G2Common.Agps.DataCallLog

/-!
A handle that fell back to `requestATL` should be gone from the machine. It is
when a denial hands it over, which empties the list. A start that gives up
hands it over and keeps it listed, and a retry that was posted before brings it
back.
-/

namespace G2Common.Agps.DataCall

open Transition AgpsStateMachine DSStateMachine

/-- No start gives up, no denial finds a client on the list for which a retry
is posted, and a handle is released outside Released and while no retry is
posted for it. -/
def fallbackGuard (s : System) : Input → Prop
  | .requestSuplEs _ answers =>
      s.machine.mStatePtr = .released → fallsBack answers.ret s.machine.mRetries = false
  | .retrySuplEs answers =>
      s.machine.mStatePtr = .released → fallsBack answers.ret s.machine.mRetries = false
  | .releaseATL h _ =>
      h ∉ s.posted ∧
        (s.machine.mStatePtr = .released → ∀ x ∈ s.machine.mSubscribers, x.ID ≠ h)
  | .onRsrcEvent event answers =>
      (s.machine.mStatePtr = .releasing → event = .denied ∨ event = .released →
        (∃ x ∈ s.machine.mSubscribers, x.isInactive = false) →
          fallsBack answers.ret
            (retriesAfter event (inactives s.machine.mSubscribers) s.machine.mRetries) = false) ∧
      (s.machine.mStatePtr = .pending → event = .denied ∨ event = .released →
        ∀ x ∈ s.machine.mSubscribers, x.ID ∉ s.posted) ∧
      (s.machine.mStatePtr = .releasing → event = .denied →
        ∀ x ∈ inactives s.machine.mSubscribers, x.ID ∉ s.posted)
  | .timerFires => True

instance fallbackGuard.decidable (s : System) : ∀ input, Decidable (fallbackGuard s input)
  | .requestSuplEs _ _ => inferInstanceAs (Decidable (_ → _))
  | .retrySuplEs _ => inferInstanceAs (Decidable (_ → _))
  | .releaseATL _ _ => inferInstanceAs (Decidable (_ ∧ _))
  | .onRsrcEvent _ _ => inferInstanceAs (Decidable (_ ∧ _))
  | .timerFires => isTrue trivial

section Moves

variable {answers : Answers} {state next : AgpsState} {l l' : List Subscriber}
  {retries retries' : UInt8} {op : Op} {effects : List Effect}

/-- The call starts the data call and gives up on it. -/
def givesUp (answers : Answers) (state : AgpsState) (l : List Subscriber) (retries : UInt8) :
    Op → Prop
  | .request _ => state = .released ∧ fallsBack answers.ret retries = true
  | .release _ => False
  | .event event =>
      state = .releasing ∧ (event = .denied ∨ event = .released) ∧
        (∃ x ∈ l, x.isInactive = false) ∧
        fallsBack answers.ret (retriesAfter event (inactives l) retries) = true

/-- A denial: who is told of it and leaves the list. -/
def Denies (state : AgpsState) (l : List Subscriber) (h : UInt32) : Op → Prop
  | .event event =>
      (state = .pending ∧ (event = .denied ∨ event = .released) ∧ ∃ x ∈ l, x.ID = h) ∨
        (state = .releasing ∧ event = .denied ∧ ∃ x ∈ inactives l, x.ID = h)
  | _ => False

/-- A handle is handed over by a start that gives up or by a denial, and the
denial removes it. -/
theorem handOver_mem_moves {h : UInt32} {e : Effect} (hconsistent : Consistent state l)
    (hmoves : Moves answers state l retries op next l' retries' effects) (he : e ∈ effects)
    (hhandOver : isHandOver h (.effect e) = true) :
    givesUp answers state l retries op ∨
      (Denies state l h op ∧ ∀ x ∈ l', x.ID ≠ h) := by
  have hstart {first : UInt32} {retries : UInt8}
      (hmem : e ∈ (startCall answers first retries).2) :
      fallsBack answers.ret retries = true := by
    rcases mem_startCall hmem with rfl | ⟨hfalls, -⟩ | ⟨armed, rfl⟩
    · cases hhandOver
    · exact hfalls
    · cases hhandOver
  have htold {status : AgpsRsrcStatus} {g : UInt32} (hinformed : Informed g status e) :
      status = .denied ∧ g = h := by
    cases hinformed with
    | handed => exact ⟨rfl, by simpa [isHandOver] using hhandOver⟩
    | _ => cases hhandOver
  cases hmoves with
  | started => exact .inl ⟨rfl, hstart he⟩
  | joined | unknown | ignored => cases he
  | joinedGranted | toldOnly => cases (htold (mem_informs he)).1
  | deactivated =>
      obtain rfl := List.mem_singleton.mp he
      cases hhandOver
  | stopped =>
      obtain rfl | rfl : e = .atlCloseStatus _ true ∨ e = .stopDataCall := by simpa using he
      · cases hhandOver
      · cases hhandOver
  | granted | forced =>
      obtain ⟨x, -, hinformed⟩ := mem_flatMap_informs he
      cases (htold hinformed).1
  | denied hevent =>
      obtain ⟨x, hx, hinformed⟩ := mem_flatMap_informs he
      exact .inr ⟨.inl ⟨rfl, hevent, x, hx, (htold hinformed).2⟩, by simp⟩
  | closed hevent hnone =>
      obtain ⟨x, hx, hinformed⟩ := mem_flatMap_informs he
      obtain ⟨rfl, hID⟩ := htold hinformed
      refine .inr ⟨.inr ⟨rfl, rfl, x, List.mem_filter.mpr ⟨hx, hnone x hx⟩, hID⟩, by simp⟩
  | reopened hevent hactive =>
      rcases List.mem_append.mp he with he | he
      · obtain ⟨x, hx, hinformed⟩ := mem_flatMap_informs he
        obtain ⟨rfl, rfl⟩ := htold hinformed
        refine .inr ⟨.inr ⟨rfl, rfl, x, hx, rfl⟩, fun y hy hID => ?_⟩
        obtain ⟨hx, hx'⟩ := List.mem_filter.mp hx
        obtain ⟨hy, hy'⟩ := List.mem_filter.mp hy
        rw [List.inj_on_of_nodup_map hconsistent.nodup hy hx hID] at hy'
        simp [hx'] at hy'
      · exact .inl ⟨rfl, hevent, hactive, hstart he⟩

/-- Nobody is listed who was not listed before or requests to be. -/
theorem listed_moves (hmoves : Moves answers state l retries op next l' retries' effects)
    {x : Subscriber} (hx : x ∈ l') : (∃ y ∈ l, y.ID = x.ID) ∨ op = .request x.ID := by
  have hjoin {g : UInt32} (hx : x ∈ join g l) :
      (∃ y ∈ l, y.ID = x.ID) ∨ Op.request g = .request x.ID := by
    rcases mem_join.mp hx with hx | ⟨rfl, -⟩
    · exact .inl ⟨x, hx, rfl⟩
    · exact .inr rfl
  have hdeactivate {g : UInt32} (hx : x ∈ deactivate g l) : ∃ y ∈ l, y.ID = x.ID := by
    rcases mem_deactivate.mp hx with ⟨hx, -⟩ | ⟨y, hy, -, rfl⟩
    · exact ⟨x, hx, rfl⟩
    · exact ⟨y, hy, (inactivated_ID y).symm⟩
  cases hmoves with
  | started | joined | joinedGranted => exact hjoin hx
  | deactivated | stopped => exact .inl (hdeactivate hx)
  | unknown | toldOnly | granted | ignored => exact .inl ⟨x, hx, rfl⟩
  | denied | forced | closed => cases hx
  | reopened => exact .inl ⟨x, (List.mem_filter.mp hx).1, rfl⟩

/-- Nobody is active who was not so before or requests to be, and a release
outside Released ends it. -/
theorem active_moves (hconsistent : Consistent state l)
    (hmoves : Moves answers state l retries op next l' retries' effects)
    (hreleased : ∀ g, op = .release g → state = .released → ∀ y ∈ l, y.ID ≠ g)
    {x : Subscriber} (hx : x ∈ l') (hactive : x.isInactive = false) :
    (x ∈ l ∧ op ≠ .release x.ID) ∨ op = .request x.ID := by
  have hjoin {g : UInt32} (hx : x ∈ join g l) :
      (x ∈ l ∧ Op.request g ≠ .release x.ID) ∨ Op.request g = .request x.ID := by
    rcases mem_join.mp hx with hx | ⟨rfl, -⟩
    · exact .inl ⟨hx, by simp⟩
    · exact .inr rfl
  have hdeactivate {g : UInt32} (hx : x ∈ deactivate g l) :
      x ∈ l ∧ Op.release g ≠ .release x.ID := by
    rcases mem_deactivate.mp hx with ⟨hx, hne⟩ | ⟨y, hy, -, rfl⟩
    · exact ⟨hx, by simpa using hne.symm⟩
    · simp [inactivated_of_isDS (hconsistent.isDS y hy)] at hactive
  cases hmoves with
  | started | joined | joinedGranted => exact hjoin hx
  | deactivated | stopped => exact .inl (hdeactivate hx)
  | unknown hother => exact .inl ⟨hx, by simpa using (hother x hx).symm⟩
  | toldOnly => exact .inl ⟨hx, by simpa using (hreleased _ rfl rfl x hx).symm⟩
  | granted | ignored => exact .inl ⟨hx, by simp⟩
  | denied | forced | closed => cases hx
  | reopened => exact .inl ⟨(List.mem_filter.mp hx).1, by simp⟩

/-- A release that leaves Pending or Acquired stops the call. -/
theorem release_moves {g : UInt32}
    (hmoves : Moves answers state l retries (.release g) next l' retries' effects) :
    next = state ∨ .stopDataCall ∈ effects := by
  cases hmoves with
  | unknown | toldOnly | deactivated => exact .inl rfl
  | stopped => exact .inr (by simp)

end Moves

/-- The invariant: a handle that was handed over is neither listed nor waiting
for a retry, and whoever is active or waits for a retry is asked for. -/
structure Clean (s : System) : Prop where
  sound : Sound s
  gone : ∀ h, handed h s.log = true → ∀ x ∈ s.machine.mSubscribers, x.ID ≠ h
  notPosted : ∀ h, handed h s.log = true → h ∉ s.posted
  wanted : ∀ x ∈ s.machine.mSubscribers, x.isInactive = false → asked x.ID s.log = true
  postedWanted : ∀ h ∈ s.posted, asked h s.log = true

/-- A request is the modem's, or was posted. -/
theorem request_of_takes {posted posted' : List UInt32} {input : Input} {answers : Answers}
    {h : UInt32} (htakes : Takes posted input (.request h) answers posted') :
    isRequestOf h (.input input) = true ∨ h ∈ posted := by
  cases htakes with
  | requestSuplEs => exact .inl (by simp [isRequestOf])
  | retrySuplEs => exact .inr List.mem_cons_self

theorem posted_of_takes {posted posted' : List UInt32} {input : Input} {op : Op}
    {answers : Answers} (htakes : Takes posted input op answers posted') :
    posted' ⊆ posted := by
  cases htakes with
  | retrySuplEs => exact List.subset_cons_self _ _
  | _ => exact List.Subset.refl _

theorem release_iff_takes {posted posted' : List UInt32} {input : Input} {op : Op}
    {answers : Answers} {h : UInt32} (htakes : Takes posted input op answers posted') :
    isReleaseOf h (.input input) = false ↔ op ≠ .release h := by
  cases htakes <;> simp [isReleaseOf]

section Called

variable {s : System} {input : Input} {op : Op} {answers : Answers} {posted : List UInt32}
  {next : AgpsStateMachine}
  (hs : Clean s) (hguard : fallbackGuard s input)
  (htakes : Takes s.posted input op answers posted)
  (hmoves : Moves answers s.machine.mStatePtr s.machine.mSubscribers s.machine.mRetries op
    next.mStatePtr next.mSubscribers next.mRetries next.effects)

include hguard htakes

theorem not_givesUp :
    ¬givesUp answers s.machine.mStatePtr s.machine.mSubscribers s.machine.mRetries op := by
  intro hgives
  obtain ⟨machine, timers, queue, log⟩ := s
  cases htakes with
  | requestSuplEs | retrySuplEs =>
      obtain ⟨hstate, hfalls⟩ := hgives
      have hkeeps := hguard hstate
      simp [hkeeps] at hfalls
  | releaseATL => exact hgives
  | onRsrcEvent =>
      obtain ⟨hstate, hevent, hactive, hfalls⟩ := hgives
      simp [hguard.1 hstate hevent hactive] at hfalls

theorem not_posted_of_denies {h : UInt32}
    (hdenies : Denies s.machine.mStatePtr s.machine.mSubscribers h op) : h ∉ s.posted := by
  obtain ⟨machine, timers, queue, log⟩ := s
  cases htakes with
  | requestSuplEs | retrySuplEs | releaseATL => cases hdenies
  | onRsrcEvent =>
      rcases hdenies with ⟨hstate, hevent, x, hx, rfl⟩ | ⟨hstate, hevent, x, hx, rfl⟩
      · exact hguard.2.1 hstate hevent x hx
      · exact hguard.2.2 hstate hevent x hx

theorem guard_of_release {g : UInt32} (hop : op = .release g) :
    g ∉ s.posted ∧
      (s.machine.mStatePtr = .released → ∀ x ∈ s.machine.mSubscribers, x.ID ≠ g) := by
  obtain ⟨machine, timers, queue, log⟩ := s
  cases htakes <;> cases hop
  exact hguard

include hs hmoves

theorem gone_called {h : UInt32}
    (hhanded : handed h (s.log ++ .input input :: next.effects.map .effect) = true) :
    (∀ x ∈ next.mSubscribers, x.ID ≠ h) ∧ h ∉ posted := by
  rcases handed_cases hhanded with ⟨e, he, hhandOver⟩ | ⟨hbefore, hinput⟩
  · obtain hgives | ⟨hdenies, hgone⟩ :=
      handOver_mem_moves hs.sound.consistent hmoves he hhandOver
    · exact absurd hgives (not_givesUp hguard htakes)
    · refine ⟨hgone, fun hmem => ?_⟩
      exact not_posted_of_denies hguard htakes hdenies (posted_of_takes htakes hmem)
  · have hposted := hs.notPosted h hbefore
    refine ⟨fun x hx hID => ?_, fun hmem => hposted (posted_of_takes htakes hmem)⟩
    rcases listed_moves hmoves hx with ⟨y, hy, hsame⟩ | rfl
    · exact hs.gone h hbefore y hy (hsame.trans hID)
    · rcases request_of_takes htakes with hrequest | hmem
      · simp [← hID, hrequest] at hinput
      · exact hposted (hID ▸ hmem)

theorem wanted_called :
    (∀ x ∈ next.mSubscribers, x.isInactive = false →
      asked x.ID (s.log ++ .input input :: next.effects.map .effect) = true) ∧
    ∀ h ∈ posted, asked h (s.log ++ .input input :: next.effects.map .effect) = true := by
  refine ⟨fun x hx hactive => ?_, fun h hmem => ?_⟩
  · have hreleased (g : UInt32) (hop : op = .release g) :=
      (guard_of_release hguard htakes hop).2
    rcases active_moves hs.sound.consistent hmoves hreleased hx hactive with ⟨hx, hop⟩ | rfl
    · exact asked_stays (.inr (hs.wanted x hx hactive)) ((release_iff_takes htakes).mpr hop)
    · refine asked_stays ?_ ((release_iff_takes htakes).mpr (by simp))
      exact (request_of_takes htakes).imp_right (hs.postedWanted x.ID)
  · have hposted := posted_of_takes htakes hmem
    refine asked_stays (.inr (hs.postedWanted h hposted)) ((release_iff_takes htakes).mpr ?_)
    intro hop
    exact (guard_of_release hguard htakes hop).1 hposted

end Called

/-- The retry timer hands nobody over. -/
theorem handed_timerFires {h : UInt32} {log : List Entry} {effects : List Effect}
    (heffects : ∀ e ∈ effects, isHandOver h (.effect e) = false)
    (hhanded : handed h (log ++ .input .timerFires :: effects.map .effect) = true) :
    handed h log = true := by
  rcases handed_cases hhanded with ⟨e, he, hhandOver⟩ | ⟨hbefore, -⟩
  · simp [heffects e he] at hhandOver
  · exact hbefore

theorem clean_step (s : System) (input : Input) (hs : Clean s) (hguard : fallbackGuard s input) :
    Clean (step s input) := by
  have hsound := sound_step hs.sound input
  obtain ⟨entries, hstep⟩ := systemStep hs.sound input
  generalize step s input = t at hstep hsound
  have hasked {h : UInt32} (effects : List Effect) (hbefore : asked h s.log = true) :
      asked h (s.log ++ .input .timerFires :: effects.map .effect) = true :=
    asked_stays (.inr hbefore) rfl
  cases hstep with
  | idle => exact hs
  | called htakes hmoves =>
      have hgone (h : UInt32) := @gone_called _ _ _ _ _ _ hs hguard htakes hmoves h
      have hwanted := wanted_called hs hguard htakes hmoves
      exact ⟨hsound, fun h hhanded => (hgone h hhanded).1, fun h hhanded => (hgone h hhanded).2,
        hwanted.1, hwanted.2⟩
  | expired =>
      have hhanded (h : UInt32) (hafter : handed h (s.log ++ .input .timerFires ::
          ([] : List Effect).map .effect) = true) : handed h s.log = true :=
        handed_timerFires (by simp) hafter
      exact ⟨hsound, fun h hafter => hs.gone h (hhanded h hafter),
        fun h hafter => hs.notPosted h (hhanded h hafter),
        fun x hx hactive => hasked [] (hs.wanted x hx hactive),
        fun h hmem => hasked [] (hs.postedWanted h hmem)⟩
  | @posted timers x htimers hx hactive =>
      have hhanded (h : UInt32) (hafter : handed h (s.log ++ .input .timerFires ::
          [Effect.requestSuplES x.ID].map .effect) = true) : handed h s.log = true :=
        handed_timerFires (by simp [isHandOver]) hafter
      refine ⟨hsound, fun h hafter => hs.gone h (hhanded h hafter), fun h hafter hmem => ?_,
        fun y hy hy' => hasked [_] (hs.wanted y hy hy'), fun h hmem => hasked [_] ?_⟩
      · rcases List.mem_append.mp hmem with hmem | hmem
        · exact hs.notPosted h (hhanded h hafter) hmem
        · exact hs.gone h (hhanded h hafter) x hx (List.mem_singleton.mp hmem).symm
      · rcases List.mem_append.mp hmem with hmem | hmem
        · exact hs.postedWanted h hmem
        · rw [List.mem_singleton.mp hmem]
          exact hs.wanted x hx hactive

theorem clean_start : Clean start :=
  ⟨sound_start, by simp [handed, latch, start], by simp [handed, latch, start],
    by simp [start, DSStateMachine.new, AgpsStateMachine.new], by simp [start]⟩

/-- No step reports the call open for a handle that was handed over. -/
theorem not_opened_step {s t : System} {input : Input} {entries : List Entry} (hs : Clean s)
    (hstep : SystemStep s input t entries) {h : UInt32}
    (hhanded : handed h (s.log ++ [.input input]) = true) :
    ∀ entry ∈ entries, isOpenOf h entry = false := by
  have hhanded' : handed h (s.log ++ .input input :: ([] : List Effect).map .effect) = true :=
    hhanded
  rcases handed_cases hhanded' with ⟨e, he, -⟩ | ⟨hbefore, hinput⟩
  · cases he
  · cases hstep with
    | idle => simp
    | called htakes hmoves =>
        intro entry hentry
        rcases List.mem_cons.mp hentry with rfl | hentry
        · rfl
        · rw [Bool.eq_false_iff]
          intro hopen
          obtain ⟨-, ⟨rfl, -⟩ | ⟨-, -, x, hx, -, hID⟩⟩ := open_mem_moves hmoves hentry hopen
          · rcases request_of_takes htakes with hrequest | hmem
            · simp [hrequest] at hinput
            · exact hs.notPosted h hbefore hmem
          · exact hs.gone h hbefore x hx hID
    | expired => simp [isOpenOf]
    | posted => simp [isOpenOf]

/-- While the call is made or up, somebody who was not handed over asks for it;
so the release of the last one stops it. -/
theorem stopped_step {s : System} {h : UInt32} {answers : Answers} (hs : Clean s)
    (hguard : fallbackGuard s (.releaseATL h answers))
    (hstate : s.machine.mStatePtr = .pending ∨ s.machine.mStatePtr = .acquired)
    (hall : ∀ x, asked x (step s (.releaseATL h answers)).log = true →
      handed x (step s (.releaseATL h answers)).log = true) :
    .effect .stopDataCall ∈ newEntries s (.releaseATL h answers) := by
  have hclean := clean_step s _ hs hguard
  obtain ⟨entries, hstep⟩ := systemStep hs.sound (.releaseATL h answers)
  rw [hstep.newEntries_eq]
  generalize step s (.releaseATL h answers) = t at hstep hclean hall
  cases hstep with
  | called htakes hmoves =>
      obtain ⟨machine, timers, queue, log⟩ := s
      cases htakes
      rcases release_moves hmoves with hsame | hstop
      · obtain ⟨x, hx, hactive⟩ := hclean.sound.consistent.active (hsame ▸ hstate)
        exact absurd rfl (hclean.gone x.ID (hall x.ID (hclean.wanted x hx hactive)) x hx)
      · exact List.mem_cons_of_mem _ (List.mem_map_of_mem hstop)
  | idle hinput => simp at hinput

/-- In every run whose steps meet the guard the handles that were handed over
are not listed, no later step reports the call open for them, and the release
of the last other one that asked for the call stops it. -/
theorem fallback_leaves_clean (inputs : List Input)
    (h : Meets step fallbackGuard start inputs) :
    (∀ handle, handed handle (run step start inputs).log = true →
      ∀ x ∈ (run step start inputs).machine.mSubscribers, x.ID ≠ handle) ∧
    (∀ input handle, handed handle ((run step start inputs).log ++ [.input input]) = true →
      ∀ entry ∈ newEntries (run step start inputs) input, isOpenOf handle entry = false) ∧
    ∀ handle answers,
      fallbackGuard (run step start inputs) (.releaseATL handle answers) →
      (run step start inputs).machine.mStatePtr = .pending ∨
        (run step start inputs).machine.mStatePtr = .acquired →
      (∀ x, asked x (step (run step start inputs) (.releaseATL handle answers)).log = true →
        handed x (step (run step start inputs) (.releaseATL handle answers)).log = true) →
      .effect .stopDataCall ∈
        newEntries (run step start inputs) (.releaseATL handle answers) := by
  have hs := run_invariant clean_step clean_start h
  refine ⟨hs.gone, fun input handle hhanded => ?_, fun handle answers => stopped_step hs⟩
  obtain ⟨entries, hstep⟩ := systemStep hs.sound input
  rw [hstep.newEntries_eq]
  exact not_opened_step hs hstep hhanded

/-- The first client is denied and falls back, the second one is released while
its call is made. -/
theorem fallback_leaves_clean_two_clients :
    .effect .stopDataCall ∈
      newEntries
        (run step start
          [.requestSuplEs 1 ⟨0, .noMemory⟩, .onRsrcEvent .denied ⟨0, .noMemory⟩,
            .requestSuplEs 2 ⟨0, .noMemory⟩])
        (.releaseATL 2 ⟨0, .noMemory⟩) := by
  have hlog : (step
      (run step start
        [.requestSuplEs 1 ⟨0, .noMemory⟩, .onRsrcEvent .denied ⟨0, .noMemory⟩,
          .requestSuplEs 2 ⟨0, .noMemory⟩])
      (.releaseATL 2 ⟨0, .noMemory⟩)).log =
      [.input (.requestSuplEs 1 ⟨0, .noMemory⟩), .effect (.openAndStartDataCall 0),
        .input (.onRsrcEvent .denied ⟨0, .noMemory⟩), .effect (.notified 1 .denied),
        .effect (.requestATL 1 .supl), .input (.requestSuplEs 2 ⟨0, .noMemory⟩),
        .effect (.openAndStartDataCall 0), .input (.releaseATL 2 ⟨0, .noMemory⟩),
        .effect (.atlCloseStatus 2 true), .effect .stopDataCall] := by
    decide
  refine (fallback_leaves_clean
    [.requestSuplEs 1 ⟨0, .noMemory⟩, .onRsrcEvent .denied ⟨0, .noMemory⟩,
      .requestSuplEs 2 ⟨0, .noMemory⟩]
    (by decide)).2.2 2 ⟨0, .noMemory⟩ (by decide) (by decide) ?_
  rw [hlog]
  intro x hasked
  by_cases hx : x = 1
  · subst hx
    decide
  · have hother : ((1 : UInt32) == x) = false := by simpa using Ne.symm hx
    simp [asked, latch, isRequestOf, isReleaseOf, hother] at hasked

/-- A client that is handed over because the start is not supported stays
listed. -/
theorem fallback_stays_listed :
    ¬∀ inputs handle, handed handle (run step start inputs).log = true →
      ∀ x ∈ (run step start inputs).machine.mSubscribers, x.ID ≠ handle := by
  intro hall
  exact hall [.requestSuplEs 1 ⟨2, .noMemory⟩] 1 (by decide) (DSSubscriber 1) (by decide) rfl

end G2Common.Agps.DataCall
