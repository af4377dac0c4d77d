import Mathlib.Data.List.Nodup
import G2Common.Agps.NifLease

/-!
What the clients of a plain machine hear. As long as no client subscribes with
an ID that is listed already, each subscription is granted at most once while
it is active, and ends with exactly one terminal notification.
-/

namespace G2Common.Agps.Nif

open Transition AgpsStateMachine

/-- The notifications that end a subscription. -/
def isTerminal : AgpsRsrcStatus → Bool
  | .unsubscribe | .released | .denied => true
  | _ => false

def hear (ID : UInt32) (heard : List AgpsRsrcStatus) : Entry → List AgpsRsrcStatus
  | .input _ (.subscribeRsrc s) => if s.ID = ID then [] else heard
  | .effect (.notified told status) => if told = ID then heard ++ [status] else heard
  | _ => heard

/-- What the client with this ID took since its last subscribe. -/
def received (ID : UInt32) (log : List Entry) : List AgpsRsrcStatus :=
  log.foldl (hear ID) []

/-- Has a client with this ID subscribed in the run? -/
def subscribed (ID : UInt32) (log : List Entry) : Prop :=
  ∃ state s, .input state (.subscribeRsrc s) ∈ log ∧ s.ID = ID

/-- A subscribe comes with an ID that no listed subscriber has. -/
def freshID (t : Traced AgpsStateMachine Entry) : Input → Prop
  | .subscribeRsrc s => ∀ x ∈ t.state.mSubscribers, x.ID ≠ s.ID
  | _ => True

instance freshID.decidable (t : Traced AgpsStateMachine Entry) :
    ∀ input, Decidable (freshID t input)
  | .subscribeRsrc s =>
      inferInstanceAs (Decidable (∀ x ∈ t.state.mSubscribers, x.ID ≠ s.ID))
  | .unsubscribeRsrc _ => isTrue trivial
  | .onRsrcEvent _ => isTrue trivial

/-- A listed client was granted once if it is active in Acquired, never if it
is active elsewhere, and at most that once if it is inactive. -/
def Served (state : AgpsState) (s : Subscriber) (heard : List AgpsRsrcStatus) : Prop :=
  if s.isInactive then heard = [] ∨ heard = [.granted]
  else heard = if state = .acquired then [.granted] else []

/-- A client that is not listed any more. -/
def Dismissed (heard : List AgpsRsrcStatus) : Prop :=
  ∃ status, isTerminal status = true ∧ (heard = [status] ∨ heard = [.granted, status])

theorem Served.granted_or_not {state : AgpsState} {s : Subscriber}
    {heard : List AgpsRsrcStatus} (h : Served state s heard) :
    heard = [] ∨ heard = [.granted] := by
  unfold Served at h
  split at h
  · exact h
  · split at h
    · exact .inr h
    · exact .inl h

theorem Served.dismiss {state : AgpsState} {s : Subscriber} {heard : List AgpsRsrcStatus}
    {status : AgpsRsrcStatus} (h : Served state s heard) (hstatus : isTerminal status = true) :
    Dismissed (heard ++ [status]) := by
  rcases h.granted_or_not with rfl | rfl
  · exact ⟨status, hstatus, .inl rfl⟩
  · exact ⟨status, hstatus, .inr rfl⟩

/-- The part of a step's notifications that one client takes. -/
def heardIn (ID : UInt32) (told : List (UInt32 × AgpsRsrcStatus)) : List AgpsRsrcStatus :=
  told.filterMap fun (told, status) => if told = ID then some status else none

/-- What the client has heard when the step has taken its input. -/
def heardBefore (ID : UInt32) (heard : List AgpsRsrcStatus) : Input → List AgpsRsrcStatus
  | .subscribeRsrc s => if s.ID = ID then [] else heard
  | _ => heard

theorem foldl_hear_effects (ID : UInt32) (effects : List Effect)
    (heard : List AgpsRsrcStatus) :
    (effects.map Entry.effect).foldl (hear ID) heard = heard ++ heardIn ID (toldIn effects) := by
  induction effects generalizing heard with
  | nil => simp [heardIn]
  | cons e rest ih =>
      rw [List.map_cons, List.foldl_cons, ih]
      cases e with
      | notified told status =>
          by_cases htold : told = ID <;> simp [hear, toldIn, heardIn, htold]
      | _ => simp [hear, toldIn]

theorem received_step (ID : UInt32) (t : Traced AgpsStateMachine Entry) (input : Input) :
    received ID (step t input).log =
      heardBefore ID (received ID t.log) input ++
        heardIn ID (toldIn (machine t.state input).1.effects) := by
  have hinput : hear ID (received ID t.log) (.input t.state.mStatePtr input) =
      heardBefore ID (received ID t.log) input := by
    cases input <;> rfl
  rw [← hinput, ← foldl_hear_effects]
  simp [received, step, machine]

/-- Somebody who is listed once hears a broadcast once. -/
theorem heardIn_broadcast {l : List Subscriber} (hnodup : (l.map (·.ID)).Nodup)
    (ID : UInt32) (status : AgpsRsrcStatus) :
    heardIn ID (l.map (·.ID, status)) =
      if ∃ s ∈ l, s.ID = ID then [status] else [] := by
  induction l with
  | nil => rfl
  | cons s rest ih =>
      obtain ⟨hnew, hrest⟩ := List.nodup_cons.mp hnodup
      have hcons : heardIn ID ((s :: rest).map (·.ID, status)) =
          (if s.ID = ID then [status] else []) ++ heardIn ID (rest.map (·.ID, status)) := by
        by_cases hs : s.ID = ID <;> simp [heardIn, hs]
      rw [hcons, ih hrest]
      by_cases hs : s.ID = ID
      · have hother : ¬∃ x ∈ rest, x.ID = ID := by
          rintro ⟨x, hx, hID⟩
          exact hnew (List.mem_map.mpr ⟨x, hx, hID.trans hs.symm⟩)
        simp [hs, hother]
      · simp [hs]

theorem ID_eq_of_equals {s other : Subscriber} (h : s.equals other = true) :
    s.ID = other.ID := by
  obtain ⟨id, bytes, cls⟩ := s
  cases cls <;> simp_all [Subscriber.equals]

@[simp] theorem clone_ID (s : Subscriber) : s.clone.ID = s.ID := by
  obtain ⟨id, bytes, cls⟩ := s
  cases cls <;> rfl

theorem added_of_fresh {s : Subscriber} {l : List Subscriber}
    (h : ∀ x ∈ l, x.ID ≠ s.ID) : added s l = s.clone :: l := by
  have hnone : l.any (·.equals s) = false := by
    rw [List.any_eq_false]
    intro x hx heq
    exact h x hx (ID_eq_of_equals heq)
  simp [added, hnone]

theorem equals_iff_of_nodup {l : List Subscriber} (hnodup : (l.map (·.ID)).Nodup)
    {x y : Subscriber} (hx : x ∈ l) (hy : y ∈ l) : y.equals x = true ↔ y.ID = x.ID := by
  refine ⟨ID_eq_of_equals, fun hID => ?_⟩
  rw [List.inj_on_of_nodup_map hnodup hy hx hID]
  exact equals_self x

theorem map_ID_set {l : List Subscriber} {data : Nat} {x : Subscriber}
    (hx : l[data]? = some x) : (l.set data x.inactivated).map (·.ID) = l.map (·.ID) := by
  obtain ⟨hdata, rfl⟩ := List.getElem?_eq_some_iff.mp hx
  have hID : l[data].ID = (l.map (·.ID)).get ⟨data, by simpa using hdata⟩ := by simp
  rw [List.map_set, inactivated_ID, hID, List.get_eq_getElem, List.set_getElem_self]

theorem nodup_of_moves {enforce : Bool} {state next : AgpsState}
    {l l' : List Subscriber} {input : Input} {told : List (UInt32 × AgpsRsrcStatus)}
    {requests : List AGpsStatusValue}
    (hfresh : ∀ s, input = .subscribeRsrc s → ∀ x ∈ l, x.ID ≠ s.ID)
    (hnodup : (l.map (·.ID)).Nodup)
    (hmoves : Moves enforce state l input next l' told requests) :
    (l'.map (·.ID)).Nodup := by
  have hsub {p : Subscriber → Bool} : ((l.filter p).map (·.ID)).Nodup :=
    hnodup.sublist (List.filter_sublist.map _)
  have hadd {s : Subscriber} (h : ∀ x ∈ l, x.ID ≠ s.ID) : ((added s l).map (·.ID)).Nodup := by
    rw [added_of_fresh h]
    refine List.nodup_cons.mpr ⟨?_, hnodup⟩
    intro hmem
    obtain ⟨x, hx, hID⟩ := List.mem_map.mp hmem
    exact h x hx (by simpa using hID)
  cases hmoves with
  | refused | unknown | granted | ignored => exact hnodup
  | opened => exact List.nodup_singleton _
  | joined | joinedGranted => exact hadd (hfresh _ rfl)
  | left | reopened => exact hsub
  | deactivated hx => exact map_ID_set hx ▸ hnodup
  | lost | closed => exact List.nodup_nil

/-- What the client with this ID must have heard. -/
def Answered (state : AgpsState) (l : List Subscriber) (ID : UInt32)
    (heard : List AgpsRsrcStatus) : Prop :=
  (∀ s ∈ l, s.ID = ID → Served state s heard) ∧ ((∀ s ∈ l, s.ID ≠ ID) → Dismissed heard)

/-- The state that an unsubscribe leads to changes nothing for those still
listed: it keeps the state, or only inactive ones are left. -/
theorem served_afterClose {state : AgpsState} {l : List Subscriber} {s : Subscriber}
    {heard : List AgpsRsrcStatus} (hs : s ∈ l) (h : Served state s heard) :
    Served (afterClose state l).1 s heard := by
  cases hinactive : s.isInactive with
  | true => simpa [Served, hinactive] using h.granted_or_not
  | false =>
      have hempty : l.isEmpty = false := by
        rw [List.isEmpty_eq_false_iff]
        exact List.ne_nil_of_mem hs
      have hactive : l.all (·.isInactive) = false := by
        rw [List.all_eq_false]
        exact ⟨s, hs, by simp [hinactive]⟩
      have hstay : (afterClose state l).1 = state := by
        cases state <;> simp [afterClose, hempty, hactive]
      rwa [hstay]

theorem answered_cons {state : AgpsState} {l : List Subscriber} {s : Subscriber}
    {ID : UInt32} {heard : List AgpsRsrcStatus} (hfresh : ∀ x ∈ l, x.ID ≠ s.ID)
    (hnew : s.ID = ID → Served state s.clone heard)
    (hold : s.ID ≠ ID → Answered state l ID heard) :
    Answered state (s.clone :: l) ID heard := by
  by_cases hID : s.ID = ID
  · refine ⟨?_, fun hnone => absurd hID (by simpa using hnone s.clone (by simp))⟩
    intro x hx hxID
    rcases List.mem_cons.mp hx with rfl | hx
    · exact hnew hID
    · exact absurd (hxID.trans hID.symm) (hfresh x hx)
  · obtain ⟨hserved, hdismissed⟩ := hold hID
    refine ⟨?_, fun hnone => hdismissed fun x hx => hnone x (List.mem_cons_of_mem _ hx)⟩
    intro x hx hxID
    rcases List.mem_cons.mp hx with rfl | hx
    · exact absurd hxID (by simpa using hID)
    · exact hserved x hx hxID

/-- Everybody is told the same terminal status and nobody stays. -/
theorem answered_nil {state next : AgpsState} {l : List Subscriber} {ID : UInt32}
    {heard : List AgpsRsrcStatus} {status : AgpsRsrcStatus}
    (hnodup : (l.map (·.ID)).Nodup) (hstatus : isTerminal status = true)
    (h : Answered state l ID heard) :
    Answered next [] ID (heard ++ heardIn ID (l.map (·.ID, status))) := by
  refine ⟨by simp, fun _ => ?_⟩
  rw [heardIn_broadcast hnodup]
  split
  · next hlisted =>
    obtain ⟨s, hs, hID⟩ := hlisted
    exact (h.1 s hs hID).dismiss hstatus
  · next hlisted =>
    rw [List.append_nil]
    exact h.2 fun s hs hID => hlisted ⟨s, hs, hID⟩

theorem answered_left {state : AgpsState} {l : List Subscriber} {x : Subscriber}
    {ID : UInt32} {heard : List AgpsRsrcStatus} (hnodup : (l.map (·.ID)).Nodup) (hx : x ∈ l)
    (h : Answered state l ID heard) :
    Answered (afterClose state (l.filter (!·.equals x))).1 (l.filter (!·.equals x)) ID
      (heard ++ heardIn ID ((l.filter (·.equals x)).map (·.ID, .unsubscribe))) := by
  rw [heardIn_broadcast (hnodup.sublist (List.filter_sublist.map _))]
  have hkept {y : Subscriber} (hy : y ∈ l) (hID : y.ID ≠ x.ID) :
      y ∈ l.filter (!·.equals x) := by
    have hne : y.equals x = false := by
      simpa using mt (equals_iff_of_nodup hnodup hx hy).mp hID
    simp [hy, hne]
  by_cases hID : x.ID = ID
  · have hlisted : ∃ y ∈ l.filter (·.equals x), y.ID = ID := ⟨x, by simp [hx], hID⟩
    rw [if_pos hlisted]
    refine ⟨?_, fun _ => (h.1 x hx hID).dismiss rfl⟩
    intro y hy hyID
    obtain ⟨hy, hne⟩ := List.mem_filter.mp hy
    have heq := (equals_iff_of_nodup hnodup hx hy).mpr (hyID.trans hID.symm)
    simp [heq] at hne
  · have hlisted : ¬∃ y ∈ l.filter (·.equals x), y.ID = ID := by
      rintro ⟨y, hy, hyID⟩
      exact hID ((ID_eq_of_equals (List.mem_filter.mp hy).2).symm.trans hyID)
    rw [if_neg hlisted, List.append_nil]
    constructor
    · intro y hy hyID
      exact served_afterClose hy (h.1 y (List.mem_filter.mp hy).1 hyID)
    · intro hnone
      refine h.2 fun y hy hyID => hnone y (hkept hy ?_) hyID
      exact fun heq => hID (heq ▸ hyID)

theorem answered_deactivated {state : AgpsState} {l : List Subscriber} {data : Nat}
    {x : Subscriber} {ID : UInt32} {heard : List AgpsRsrcStatus} (hx : l[data]? = some x)
    (hwait : x.waitForCloseComplete = true) (h : Answered state l ID heard) :
    Answered (afterClose state (l.set data x.inactivated)).1 (l.set data x.inactivated) ID
      heard := by
  constructor
  · intro y hy hID
    rcases List.mem_or_eq_of_mem_set hy with hy' | rfl
    · exact served_afterClose hy (h.1 y hy' hID)
    · have hgranted := (h.1 x (List.mem_of_getElem? hx) (by simpa using hID)).granted_or_not
      simpa [Served, inactivated_isInactive hwait] using hgranted
  · intro hnone
    refine h.2 fun y hy hID => ?_
    have hmem : y.ID ∈ (l.set data x.inactivated).map (·.ID) :=
      map_ID_set hx ▸ List.mem_map_of_mem hy
    obtain ⟨z, hz, hzID⟩ := List.mem_map.mp hmem
    exact hnone z hz (hzID.trans hID)

theorem answered_granted {l : List Subscriber} {ID : UInt32} {heard : List AgpsRsrcStatus}
    (hnodup : (l.map (·.ID)).Nodup) (h : Answered .pending l ID heard) :
    Answered .acquired l ID
      (heard ++ heardIn ID ((l.filter (!·.isInactive)).map (·.ID, .granted))) := by
  rw [heardIn_broadcast (hnodup.sublist (List.filter_sublist.map _))]
  constructor
  · intro s hs hID
    have hserved := h.1 s hs hID
    cases hinactive : s.isInactive with
    | true =>
        have hlisted : ¬∃ y ∈ l.filter (!·.isInactive), y.ID = ID := by
          rintro ⟨y, hy, hyID⟩
          obtain ⟨hy, hactive⟩ := List.mem_filter.mp hy
          obtain rfl := List.inj_on_of_nodup_map hnodup hy hs (hyID.trans hID.symm)
          simp [hinactive] at hactive
        rw [if_neg hlisted, List.append_nil]
        simpa [Served, hinactive] using hserved
    | false =>
        have hlisted : ∃ y ∈ l.filter (!·.isInactive), y.ID = ID :=
          ⟨s, by simp [hs, hinactive], hID⟩
        have hheard : heard = [] := by simpa [Served, hinactive] using hserved
        rw [if_pos hlisted, hheard]
        simp [Served, hinactive]
  · intro hnone
    have hlisted : ¬∃ y ∈ l.filter (!·.isInactive), y.ID = ID := by
      rintro ⟨y, hy, hyID⟩
      exact hnone y (List.mem_filter.mp hy).1 hyID
    rw [if_neg hlisted, List.append_nil]
    exact h.2 hnone

theorem answered_reopened {l : List Subscriber} {ID : UInt32}
    {heard : List AgpsRsrcStatus} {status : AgpsRsrcStatus}
    (hnodup : (l.map (·.ID)).Nodup) (hstatus : isTerminal status = true)
    (h : Answered .releasing l ID heard) :
    Answered .pending (l.filter (!·.isInactive)) ID
      (heard ++ heardIn ID ((l.filter (·.isInactive)).map (·.ID, status))) := by
  rw [heardIn_broadcast (hnodup.sublist (List.filter_sublist.map _))]
  constructor
  · intro s hs hID
    obtain ⟨hs, hactive⟩ := List.mem_filter.mp hs
    have hlisted : ¬∃ y ∈ l.filter (·.isInactive), y.ID = ID := by
      rintro ⟨y, hy, hyID⟩
      obtain ⟨hy, hinactive⟩ := List.mem_filter.mp hy
      obtain rfl := List.inj_on_of_nodup_map hnodup hy hs (hyID.trans hID.symm)
      simp [hinactive] at hactive
    have hserved := h.1 s hs hID
    rw [if_neg hlisted, List.append_nil]
    simpa [Served, show s.isInactive = false by simpa using hactive] using hserved
  · intro hnone
    split
    · next hlisted =>
      obtain ⟨s, hs, hID⟩ := hlisted
      exact (h.1 s (List.mem_filter.mp hs).1 hID).dismiss hstatus
    · next hlisted =>
      rw [List.append_nil]
      refine h.2 fun s hs hID => ?_
      cases hinactive : s.isInactive with
      | true => exact hlisted ⟨s, by simp [hs, hinactive], hID⟩
      | false => exact hnone s (by simp [hs, hinactive]) hID

theorem answered_of_moves {enforce : Bool} {state next : AgpsState}
    {l l' : List Subscriber} {input : Input} {told : List (UInt32 × AgpsRsrcStatus)}
    {requests : List AGpsStatusValue}
    (hfresh : ∀ s, input = .subscribeRsrc s → ∀ x ∈ l, x.ID ≠ s.ID)
    (hnodup : (l.map (·.ID)).Nodup)
    (hmoves : Moves enforce state l input next l' told requests)
    {ID : UInt32} {heard : List AgpsRsrcStatus}
    (h : (∀ s, input = .subscribeRsrc s → s.ID ≠ ID) → Answered state l ID heard) :
    Answered next l' ID (heardBefore ID heard input ++ heardIn ID told) := by
  cases hmoves with
  | @refused _ _ s henforce hl =>
      by_cases hID : s.ID = ID
      · refine ⟨fun x hx hxID => ?_, fun _ => ?_⟩
        · exact absurd (hxID.trans hID.symm) (hfresh s rfl x hx)
        · exact ⟨.denied, rfl, .inl (by simp [heardBefore, heardIn, hID])⟩
      · simpa [heardBefore, heardIn, hID] using h (by simp [hID])
  | @opened s =>
      refine answered_cons (by simp) ?_ ?_
      · intro hID
        simp [heardBefore, heardIn, hID, Served]
      · intro hID
        have hgone := (h (by simp [hID])).2
        refine ⟨by simp, fun _ => ?_⟩
        simpa [heardBefore, heardIn, hID] using hgone
  | @joined _ _ s hstate =>
      rw [added_of_fresh (hfresh s rfl)]
      refine answered_cons (hfresh s rfl) ?_ ?_
      · intro hID
        rcases hstate with rfl | rfl <;> simp [heardBefore, heardIn, hID, Served]
      · intro hID
        simpa [heardBefore, heardIn, hID] using h (by simp [hID])
  | @joinedGranted _ s =>
      rw [added_of_fresh (hfresh s rfl)]
      refine answered_cons (hfresh s rfl) ?_ ?_
      · intro hID
        simp [heardBefore, heardIn, hID, Served]
      · intro hID
        simpa [heardBefore, heardIn, hID] using h (by simp [hID])
  | unknown | ignored => simpa [heardBefore, heardIn] using h (by simp)
  | left hx => exact answered_left hnodup hx (h (by simp))
  | deactivated hx _ hwait =>
      simpa [heardBefore, heardIn] using answered_deactivated hx hwait (h (by simp))
  | granted => exact answered_granted hnodup (h (by simp))
  | lost hlost =>
      refine answered_nil hnodup ?_ (h (by simp))
      rcases hlost with ⟨-, rfl⟩ | ⟨-, rfl⟩ <;> rfl
  | closed hevent =>
      refine answered_nil hnodup ?_ (h (by simp))
      rcases hevent with rfl | rfl <;> rfl
  | reopened hevent =>
      refine answered_reopened hnodup ?_ (h (by simp))
      rcases hevent with rfl | rfl <;> rfl

/-- The invariant of the runs whose subscribes come with fresh IDs. -/
structure Serving (t : Traced AgpsStateMachine Entry) : Prop where
  consistent : Consistent t.state.mStatePtr t.state.mSubscribers
  nodup : (t.state.mSubscribers.map (·.ID)).Nodup
  known : ∀ s ∈ t.state.mSubscribers, subscribed s.ID t.log
  answered : ∀ ID, subscribed ID t.log →
    Answered t.state.mStatePtr t.state.mSubscribers ID (received ID t.log)

theorem subscribed_step {t : Traced AgpsStateMachine Entry} {input : Input} {ID : UInt32} :
    subscribed ID (step t input).log ↔
      subscribed ID t.log ∨ ∃ s, input = .subscribeRsrc s ∧ s.ID = ID := by
  constructor
  · rintro ⟨state, s, hmem, hID⟩
    simp only [step, Traced.step_log, machine, List.mem_append, List.mem_cons,
      List.mem_map] at hmem
    rcases hmem with hmem | heq | ⟨e, -, heq⟩
    · exact .inl ⟨state, s, hmem, hID⟩
    · obtain ⟨-, rfl⟩ := Entry.input.inj heq
      exact .inr ⟨s, rfl, hID⟩
    · exact Entry.noConfusion heq
  · rintro (⟨state, s, hmem, hID⟩ | ⟨s, rfl, hID⟩)
    · exact ⟨state, s, List.mem_append_left _ hmem, hID⟩
    · exact ⟨t.state.mStatePtr, s, List.mem_append_right _ List.mem_cons_self, hID⟩

/-- Who is listed after a step was listed before it or came with it. -/
theorem listed_of_moves {enforce : Bool} {state next : AgpsState}
    {l l' : List Subscriber} {input : Input} {told : List (UInt32 × AgpsRsrcStatus)}
    {requests : List AGpsStatusValue}
    (hmoves : Moves enforce state l input next l' told requests) {s : Subscriber}
    (hs : s ∈ l') :
    (∃ x ∈ l, x.ID = s.ID) ∨ ∃ x, input = .subscribeRsrc x ∧ x.ID = s.ID := by
  have hadded {x : Subscriber} (hmem : s ∈ added x l) :
      (∃ y ∈ l, y.ID = s.ID) ∨ x.ID = s.ID := by
    unfold added at hmem
    split at hmem
    · exact .inl ⟨s, hmem, rfl⟩
    · rcases List.mem_cons.mp hmem with rfl | hmem
      · exact .inr (clone_ID x).symm
      · exact .inl ⟨s, hmem, rfl⟩
  cases hmoves with
  | refused | unknown | granted | ignored => exact .inl ⟨s, hs, rfl⟩
  | opened =>
      obtain rfl := List.mem_singleton.mp hs
      exact .inr ⟨_, rfl, (clone_ID _).symm⟩
  | joined | joinedGranted => exact (hadded hs).imp_right fun hID => ⟨_, rfl, hID⟩
  | left | reopened => exact .inl ⟨s, (List.mem_filter.mp hs).1, rfl⟩
  | deactivated hx =>
      rcases List.mem_or_eq_of_mem_set hs with hs | rfl
      · exact .inl ⟨s, hs, rfl⟩
      · exact .inl ⟨_, List.mem_of_getElem? hx, (inactivated_ID _).symm⟩
  | lost | closed => simp at hs

theorem serving_step (t : Traced AgpsStateMachine Entry) (input : Input) (h : Serving t)
    (hguard : freshID t input) : Serving (step t input) := by
  have hmoves := (steps_machine h.consistent input).1
  have hfresh : ∀ s, input = .subscribeRsrc s → ∀ x ∈ t.state.mSubscribers, x.ID ≠ s.ID := by
    rintro s rfl
    exact hguard
  refine ⟨consistent_of_moves h.consistent hmoves, nodup_of_moves hfresh h.nodup hmoves,
    ?_, ?_⟩
  · intro s hs
    rw [subscribed_step]
    rcases listed_of_moves hmoves hs with ⟨x, hx, hID⟩ | hnew
    · exact .inl (hID ▸ h.known x hx)
    · exact .inr hnew
  · intro ID hID
    rw [received_step]
    refine answered_of_moves hfresh h.nodup hmoves fun hother => h.answered ID ?_
    rcases subscribed_step.mp hID with hold | ⟨s, hs, hsID⟩
    · exact hold
    · exact absurd hsID (hother s hs)

/-- Every active client was granted exactly once in Acquired and not yet in
Pending and Releasing; every client that left or was refused was dismissed
exactly once, as the last thing it heard. -/
theorem clients_answered_once (type : AGpsExtType) (enforce : Bool) (inputs : List Input)
    (h : Meets step freshID (start type enforce) inputs) :
    let t := run step (start type enforce) inputs
    (∀ s ∈ t.state.mSubscribers, s.isInactive = false →
      (t.state.mStatePtr = .acquired → (received s.ID t.log).count .granted = 1) ∧
      (t.state.mStatePtr = .pending ∨ t.state.mStatePtr = .releasing →
        (received s.ID t.log).count .granted = 0)) ∧
    ∀ ID, subscribed ID t.log → (∀ s ∈ t.state.mSubscribers, s.ID ≠ ID) →
      ∃ before status, received ID t.log = before ++ [status] ∧
        isTerminal status = true ∧ ∀ x ∈ before, isTerminal x = false := by
  intro t
  have hstart : Serving (start type enforce) := by
    refine ⟨rfl, List.nodup_nil, ?_, ?_⟩
    · intro s hs
      exact absurd hs List.not_mem_nil
    · rintro ID ⟨state, s, hmem, -⟩
      exact absurd hmem List.not_mem_nil
  have hrun : Serving t := run_invariant serving_step hstart h
  constructor
  · intro s hs hactive
    have hserved := (hrun.answered s.ID (hrun.known s hs)).1 s hs rfl
    simp only [Served, hactive, Bool.false_eq_true, if_false] at hserved
    refine ⟨fun hstate => ?_, fun hstate => ?_⟩
    · simp [hserved, hstate]
    · rcases hstate with hstate | hstate <;> simp [hserved, hstate]
  · intro ID hID hgone
    obtain ⟨status, hstatus, heq | heq⟩ := (hrun.answered ID hID).2 hgone
    · exact ⟨[], status, heq, hstatus, by simp⟩
    · exact ⟨[.granted], status, heq, hstatus, by simp [isTerminal]⟩

/-- Client 1 leaves while the connection is up, client 2 keeps it. -/
theorem clients_answered_once_two_clients :
    let t := run step (start .supl false)
      [.subscribeRsrc (ATLSubscriber 1 false (Vector.replicate 16 0)), .onRsrcEvent .granted,
        .subscribeRsrc (ATLSubscriber 2 false (Vector.replicate 16 0)),
        .unsubscribeRsrc (ATLSubscriber 1 false (Vector.replicate 16 0))]
    (∀ s ∈ t.state.mSubscribers, s.isInactive = false →
      (t.state.mStatePtr = .acquired → (received s.ID t.log).count .granted = 1) ∧
      (t.state.mStatePtr = .pending ∨ t.state.mStatePtr = .releasing →
        (received s.ID t.log).count .granted = 0)) ∧
    ∀ ID, subscribed ID t.log → (∀ s ∈ t.state.mSubscribers, s.ID ≠ ID) →
      ∃ before status, received ID t.log = before ++ [status] ∧
        isTerminal status = true ∧ ∀ x ∈ before, isTerminal x = false :=
  clients_answered_once .supl false _ (by decide)

end G2Common.Agps.Nif
