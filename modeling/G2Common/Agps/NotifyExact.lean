import G2Common.Agps.NotifyStore

/-!
`notifySubscribers` tells every receiver once and deletes no other object. It goes wrong
only where it deletes the object that the notification points to before the end of the
list: the next search looks at it again.
-/

namespace G2Common.Agps

namespace ObjectMachine

variable {A : Type}

/-- The run ends without a lookup of a deleted object, the status is delivered once to each
receiver and to no other object, and only with `postNotifyDelete` these and no others are
removed and deleted. -/
def Exact [DecidableEq A] (n : ObjectNotification A) (s : ObjectMachine A) : Prop :=
  ∃ t, notifySubscribers n s = some t ∧
    t.delivered = s.delivered ++ (s.receivers n).map (fun a => (a, n.rsrcStatus)) ∧
    t.mSubscribers =
      (if n.postNotifyDelete then s.mSubscribers.filter (fun a => !isFor n s.objects a)
        else s.mSubscribers) ∧
    t.objects =
      (if n.postNotifyDelete then fun a => if a ∈ s.receivers n then none else s.objects a
        else s.objects)

/-- Where a receiver is deleted, it is the last one in the list and so are all others
deleted, before it. -/
def NoneLeft (n : ObjectNotification A) (s : ObjectMachine A) : Prop :=
  n.postNotifyDelete = true → ∀ a, n.receiver = .rcver a →
    s.mSubscribers.getLast? = some a ∧ ∀ b ∈ s.mSubscribers, isFor n s.objects b = true

section Lists

variable {l gone more : List A} {p : A → Bool}

theorem nothing_behind (hnodup : (gone ++ [a] ++ more).Nodup)
    (hin : ∀ b ∈ more, b ∈ gone ++ [a]) : more = [] := by
  obtain ⟨-, -, hdisjoint⟩ := List.nodup_append.mp hnodup
  cases more with
  | nil => rfl
  | cons b more =>
      exact absurd rfl (hdisjoint b (hin b List.mem_cons_self) b List.mem_cons_self)

/-- In a list without duplicates, the elements up to `a` that pass a filter are the whole
list only if `a` is the last one and all pass. -/
theorem all_up_to_iff (hl : l.Nodup) (hfilter : l.filter p = gone ++ [a] ++ more) :
    (∀ b ∈ l, b ∈ gone ++ [a]) ↔ l.getLast? = some a ∧ ∀ b ∈ l, p b = true := by
  have hnodup : (gone ++ [a] ++ more).Nodup := by
    rw [← hfilter]
    exact hl.filter p
  constructor
  · intro hin
    have hall : ∀ b ∈ l, p b = true := by
      intro b hb
      have hmem : b ∈ l.filter p := by
        rw [hfilter]
        exact List.mem_append_left more (hin b hb)
      exact (List.mem_filter.mp hmem).2
    rw [List.filter_eq_self.mpr hall] at hfilter
    have hnil := nothing_behind hnodup
      (fun b hb => hin b (by rw [hfilter]; exact List.mem_append_right _ hb))
    refine ⟨?_, hall⟩
    rw [hfilter, hnil, List.append_nil, List.getLast?_concat]
  · rintro ⟨hlast, hall⟩ b hb
    rw [List.filter_eq_self.mpr hall] at hfilter
    cases more with
    | nil => rwa [hfilter, List.append_nil] at hb
    | cons c more =>
        rw [hfilter, List.getLast?_append_of_ne_nil _ (List.cons_ne_nil c more)] at hlast
        obtain ⟨-, -, hdisjoint⟩ := List.nodup_append.mp hnodup
        exact absurd rfl (hdisjoint a (by simp) a (List.mem_of_getLast? hlast))

end Lists

section OneClass

theorem strncmpEq_trans {k : Nat} {r t u : List UInt8} (hr : r.length = k)
    (ht : t.length = k) (hu : u.length = k) (hrt : strncmpEq k r t) (htu : strncmpEq k t u) :
    strncmpEq k r u := by
  induction k generalizing r t u with
  | zero => rw [strncmpEq]; rintro _ _ _ _ _ ⟨⟩
  | succ k ih =>
      obtain ⟨x, r, rfl⟩ := List.exists_cons_of_length_eq_add_one hr
      obtain ⟨y, t, rfl⟩ := List.exists_cons_of_length_eq_add_one ht
      obtain ⟨z, u, rfl⟩ := List.exists_cons_of_length_eq_add_one hu
      simp only [strncmpEq, Bool.and_eq_true, Bool.or_eq_true, beq_iff_eq] at hrt htu ⊢
      obtain ⟨rfl, hrt⟩ := hrt
      obtain ⟨rfl, htu⟩ := htu
      refine ⟨rfl, ?_⟩
      rcases hrt with hzero | hrt
      · exact Or.inl hzero
      rcases htu with hzero | htu
      · exact Or.inl hzero
      · exact Or.inr (ih (by simpa using hr) (by simpa using ht) (by simpa using hu) hrt htu)

theorem equals_trans {r t u : Subscriber} (hclass : r.cls = .bit → t.cls = .bit)
    (hrt : r.equals t) (htu : t.equals u) : r.equals u := by
  have hID (x y : Subscriber) (h : x.equals y) : x.ID = y.ID := by
    unfold Subscriber.equals at h
    split at h <;> simp_all
  have hru : r.ID = u.ID := (hID r t hrt).trans (hID t u htu)
  by_cases hbit : r.cls = .bit
  · simp only [Subscriber.equals, hbit, hclass hbit, hID r t hrt, Bool.and_eq_true,
      Bool.or_eq_true] at hrt htu ⊢
    refine ⟨htu.1, ?_⟩
    rcases hrt.2 with hipv4 | hrt
    · exact Or.inl hipv4
    rcases htu.2 with hipv4 | htu
    · exact Or.inl hipv4
    · exact Or.inr (strncmpEq_trans (by simp) (by simp) (by simp) hrt htu)
  · unfold Subscriber.equals
    split
    · contradiction
    · exact beq_iff_eq.mpr hru

/-- The listed subscribers are all `BITSubscriber`s or none is. -/
def OneClass (s : ObjectMachine A) : Prop :=
  ∀ a ∈ s.mSubscribers, ∀ b ∈ s.mSubscribers, ∀ x y, s.objects a = some x →
    s.objects b = some y → x.cls = .bit → y.cls = .bit

/-- Among subscribers of one class the receiver has to be the only one listed. -/
theorem noneLeft_iff_single {n : ObjectNotification A} {s : ObjectMachine A} {a : A}
    {subscriber : Subscriber} (hs : s.Listed) (hclass : s.OneClass)
    (hfind : s.find subscriber = some a) (hdelete : n.postNotifyDelete = true)
    (hrcver : n.receiver = .rcver a) : NoneLeft n s ↔ s.mSubscribers = [a] := by
  have ha : a ∈ s.mSubscribers := List.mem_of_find?_eq_some hfind
  obtain ⟨found, hfound⟩ := Option.ne_none_iff_exists'.mp (hs.live a ha)
  obtain ⟨hequal, first, rest, hlist, hfirst⟩ := List.find?_eq_some_iff_append.mp hfind
  constructor
  · intro hnone
    obtain ⟨hlast, hall⟩ := hnone hdelete a hrcver
    have hnil : first = [] := by
      cases first with
      | nil => rfl
      | cons b first =>
          have hb : b ∈ s.mSubscribers := by rw [hlist]; simp
          obtain ⟨listed, hlisted⟩ := Option.ne_none_iff_exists'.mp (hs.live b hb)
          have hfor := hall b hb
          rw [isFor_eq (read_rcver hrcver hfound) hlisted] at hfor
          have hbefore := hfirst b List.mem_cons_self
          simp only [hlisted, hfound, Bool.not_eq_true'] at hbefore hequal
          have hmatch : listed.forMe (.matchSubscriber subscriber) = true :=
            equals_trans (hclass b hb a ha listed found hlisted hfound) hfor hequal
          rw [hbefore] at hmatch
          cases hmatch
    have hnodup := hs.nodup
    rw [hlist, hnil, List.nil_append] at hlast hnodup ⊢
    cases rest with
    | nil => rfl
    | cons b rest =>
        rw [List.getLast?_cons_cons] at hlast
        exact absurd (List.mem_of_getLast? hlast) (List.nodup_cons.mp hnodup).1
  · intro hsingle _ b hb
    rw [hrcver] at hb
    cases hb
    rw [hsingle]
    refine ⟨rfl, ?_⟩
    intro b hb
    rw [List.mem_singleton.mp hb]
    exact isFor_self hrcver hfound

end OneClass

variable [DecidableEq A] {n : ObjectNotification A} {s : ObjectMachine A} {a : A}
  {notification : Notification}

theorem read_foldl_deleted {gone : List A} (h : ∀ a ∈ gone, n.receiver ≠ .rcver a) :
    n.read (gone.foldl (deleted n) s).objects = n.read s.objects := by
  induction gone generalizing s with
  | nil => rfl
  | cons a gone ih =>
      obtain ⟨ha, hrest⟩ := List.forall_mem_cons.mp h
      rw [List.foldl_cons, ih hrest, read_deleted ha]

theorem Listed.foldl_deleted (hs : s.Listed) (n : ObjectNotification A) (gone : List A) :
    (gone.foldl (ObjectMachine.deleted n) s).Listed := by
  induction gone generalizing s with
  | nil => exact hs
  | cons a gone ih => exact ih (hs.deleted n a)

/-- What is left after objects have been notified and deleted. -/
theorem foldl_deleted_eq (gone : List A) :
    (gone.foldl (deleted n) s).delivered =
        s.delivered ++ gone.map (fun a => (a, n.rsrcStatus)) ∧
      (gone.foldl (deleted n) s).mSubscribers = s.mSubscribers.filter (fun b => b ∉ gone) ∧
      (gone.foldl (deleted n) s).objects = fun b => if b ∈ gone then none else s.objects b := by
  induction gone generalizing s with
  | nil => simp
  | cons a gone ih =>
      obtain ⟨hdelivered, hlist, hobjects⟩ := ih (s := s.deleted n a)
      rw [List.foldl_cons]
      refine ⟨?_, ?_, ?_⟩
      · rw [hdelivered, List.map_cons, ← List.singleton_append, ← List.append_assoc]
        rfl
      · rw [hlist]
        change (s.mSubscribers.filter (· ≠ a)).filter _ = _
        rw [List.filter_filter]
        apply List.filter_congr
        intro b _
        simp [List.mem_cons, not_or, Bool.and_comm]
      · rw [hobjects]
        funext b
        by_cases hb : b = a
        · subst hb
          simp [deleted]
        · simp [hb, objects_deleted hb]

/-- The turns up to a receiver that the notification points to. -/
theorem notifyAndDelete_turns (hs : s.Listed) (hn : n.rsrcStatus.isTold)
    (hread : n.read s.objects = some notification) (hdelete : n.postNotifyDelete = true)
    {gone more : List A} (hreceivers : s.receivers n = gone ++ more)
    (hgone : ∀ a ∈ gone, n.receiver ≠ .rcver a) (fuel : Nat) :
    notifyAndDelete n (gone.length + fuel) s =
        notifyAndDelete n fuel (gone.foldl (deleted n) s) ∧
      (gone.foldl (deleted n) s).receivers n = more := by
  induction gone generalizing s with
  | nil => exact ⟨by rw [List.length_nil, Nat.zero_add]; rfl, hreceivers⟩
  | cons a gone ih =>
      obtain ⟨ha, hrest⟩ := List.forall_mem_cons.mp hgone
      have hnext := ih (hs.deleted n a) ((read_deleted ha).trans hread)
        (receivers_deleted hs ha hreceivers) hrest
      rw [List.length_cons, Nat.add_right_comm, notifyAndDelete_turn hs hn hread hdelete hreceivers]
      exact hnext

/-- The last turn finds no receiver. -/
theorem notifyAndDelete_end (hs : s.Listed) (hn : n.rsrcStatus.isTold)
    (hread : n.read s.objects = some notification) (hreceivers : s.receivers n = [])
    (fuel : Nat) : notifyAndDelete n (fuel + 1) s = some s := by
  have hnone : ∀ a ∈ s.mSubscribers, isFor n s.objects a = false := by
    simpa using List.filter_eq_nil_iff.mp hreceivers
  rw [notifyAndDelete, search_none hn hread hs.live hnone]
  rfl

/-- After its receiver has been deleted, the notification is no longer looked at only if
the list is empty. -/
theorem notifyAndDelete_dangling (hread : n.read s.objects = none) (fuel : Nat) :
    notifyAndDelete n (fuel + 1) s = if s.mSubscribers = [] then some s else none := by
  cases hlist : s.mSubscribers with
  | nil =>
      rw [notifyAndDelete, hlist, if_pos rfl]
      rfl
  | cons a rest =>
      rw [notifyAndDelete, hlist, searchObjects, notifySubscriber_none hread, if_neg (by simp)]
      rfl

/-- The machine after all receivers have been notified. -/
def result (n : ObjectNotification A) (s : ObjectMachine A) : ObjectMachine A :=
  (s.receivers n).foldl (if n.postNotifyDelete then deleted n else notified n) s

theorem exact_of_run (h : notifySubscribers n s = some (result n s)) : Exact n s := by
  refine ⟨result n s, h, ?_⟩
  unfold result
  cases n.postNotifyDelete with
  | false => exact foldl_notified_eq (s.receivers n)
  | true =>
      obtain ⟨hdelivered, hlist, hobjects⟩ := foldl_deleted_eq (n := n) (s := s) (s.receivers n)
      refine ⟨hdelivered, ?_, hobjects⟩
      rw [if_pos rfl, if_pos rfl, hlist]
      apply List.filter_congr
      intro b hb
      simp [receivers, hb]

/-- Without `postNotifyDelete` nothing goes wrong. -/
theorem run_kept (hs : s.Listed) (hn : n.rsrcStatus.isTold)
    (hread : n.read s.objects = some notification) (hkeep : n.postNotifyDelete = false) :
    notifySubscribers n s = some (result n s) := by
  rw [notifySubscribers, result, hkeep, search_all hn hread hkeep hs.live]
  rfl

/-- A notification to a group never points to an object. -/
theorem run_group (hs : s.Listed) (hn : n.rsrcStatus.isTold)
    (hread : n.read s.objects = some notification) (hdelete : n.postNotifyDelete = true)
    (hgroup : ∀ a, n.receiver ≠ .rcver a) : notifySubscribers n s = some (result n s) := by
  have hle := length_receivers_le n s
  obtain ⟨fuel, hfuel⟩ : ∃ fuel, s.mSubscribers.length + 1 = (s.receivers n).length + (fuel + 1) :=
    ⟨s.mSubscribers.length - (s.receivers n).length, by omega⟩
  obtain ⟨hturns, hnone⟩ := notifyAndDelete_turns hs hn hread hdelete (List.append_nil _).symm
    (fun a _ => hgroup a) (fuel + 1)
  rw [notifySubscribers, result, if_pos hdelete, if_pos hdelete, hfuel, hturns]
  exact notifyAndDelete_end (hs.foldl_deleted n _) hn
    ((read_foldl_deleted (fun a _ => hgroup a)).trans hread) hnone fuel

/-- The run that deletes the receiver `a` fails if other objects are listed behind. -/
theorem notifySubscribers_rcver (hs : s.Listed) (hn : n.rsrcStatus.isTold)
    (hread : n.read s.objects = some notification) (hdelete : n.postNotifyDelete = true)
    (hrcver : n.receiver = .rcver a) {gone more : List A}
    (hreceivers : s.receivers n = gone ++ a :: more) (hnot : a ∉ gone) :
    notifySubscribers n s =
      if s.mSubscribers.filter (fun b => b ∉ gone ++ [a]) = [] then
        some ((gone ++ [a]).foldl (deleted n) s)
      else none := by
  have hgone (b : A) (hb : b ∈ gone) : n.receiver ≠ .rcver b := by
    rw [hrcver]
    rintro ⟨rfl⟩
    exact hnot hb
  have hlength : gone.length + 1 ≤ s.mSubscribers.length := by
    have hle := length_receivers_le n s
    simp only [hreceivers, List.length_append, List.length_cons] at hle
    omega
  obtain ⟨fuel, hfuel⟩ : ∃ fuel, s.mSubscribers.length + 1 = gone.length + (fuel + 1 + 1) :=
    ⟨s.mSubscribers.length - gone.length - 1, by omega⟩
  obtain ⟨hturns, hfirst⟩ :=
    notifyAndDelete_turns hs hn hread hdelete hreceivers hgone (fuel + 1 + 1)
  have hturn := notifyAndDelete_turn (hs.foldl_deleted n gone) hn
    ((read_foldl_deleted hgone).trans hread) hdelete hfirst (fuel + 1)
  have hlast : (gone.foldl (deleted n) s).deleted n a = (gone ++ [a]).foldl (deleted n) s := by
    rw [List.foldl_append]
    rfl
  obtain ⟨-, hlist, hobjects⟩ := foldl_deleted_eq (n := n) (s := s) (gone ++ [a])
  have hdangling : n.read ((gone ++ [a]).foldl (deleted n) s).objects = none := by
    rw [hobjects, ObjectNotification.read, hrcver]
    simp
  rw [notifySubscribers, if_pos hdelete, hfuel, hturns, hturn, hlast,
    notifyAndDelete_dangling hdangling, hlist]

/-- A notification to one listed object. -/
theorem run_rcver (hs : s.Listed) (hn : n.rsrcStatus.isTold)
    (hdelete : n.postNotifyDelete = true) (hrcver : n.receiver = .rcver a)
    (ha : a ∈ s.mSubscribers) :
    notifySubscribers n s =
      if s.mSubscribers.getLast? = some a ∧ ∀ b ∈ s.mSubscribers, isFor n s.objects b = true then
        some (result n s)
      else none := by
  obtain ⟨subscriber, hsub⟩ := Option.ne_none_iff_exists'.mp (hs.live a ha)
  have hmem : a ∈ s.receivers n := List.mem_filter.mpr ⟨ha, isFor_self hrcver hsub⟩
  obtain ⟨gone, more, hreceivers, hnot⟩ := List.eq_append_cons_of_mem hmem
  have hrun :=
    notifySubscribers_rcver hs hn (read_rcver hrcver hsub) hdelete hrcver hreceivers hnot
  have hleft : s.mSubscribers.filter (fun b => b ∉ gone ++ [a]) = [] ↔
      ∀ b ∈ s.mSubscribers, b ∈ gone ++ [a] := by
    simp only [List.filter_eq_nil_iff, decide_eq_true_eq, not_not]
  rw [List.append_cons] at hreceivers
  have hiff := hleft.trans (all_up_to_iff hs.nodup hreceivers)
  by_cases hnone : s.mSubscribers.getLast? = some a ∧
      ∀ b ∈ s.mSubscribers, isFor n s.objects b = true
  · have hin := (all_up_to_iff hs.nodup hreceivers).mpr hnone
    have hnodup : (gone ++ [a] ++ more).Nodup := by
      rw [← hreceivers]
      exact hs.receivers n
    have hnil : more = [] := by
      apply nothing_behind hnodup
      intro b hb
      have hreceiver : b ∈ s.receivers n := by
        rw [hreceivers]
        exact List.mem_append_right _ hb
      exact hin b (List.mem_filter.mp hreceiver).1
    rw [hrun, if_pos (hiff.mpr hnone), if_pos hnone, result, if_pos hdelete, hreceivers, hnil,
      List.append_nil]
  · rw [hrun, if_neg (mt hiff.mp hnone), if_neg hnone]

/-- A run has a result only if no subscriber is left behind a receiver that is deleted. -/
theorem run_cases (hs : s.Listed) (hn : Built n s) :
    (NoneLeft n s ∧ notifySubscribers n s = some (result n s)) ∨
      (¬ NoneLeft n s ∧ notifySubscribers n s = none) := by
  obtain ⟨notification, hread⟩ := read_built hs hn
  cases hdelete : n.postNotifyDelete with
  | false =>
      refine Or.inl ⟨?_, run_kept hs hn.1 hread hdelete⟩
      intro htrue
      rw [hdelete] at htrue
      cases htrue
  | true =>
      cases hreceiver : n.receiver with
      | rcver a =>
          obtain ⟨subscriber, hfind⟩ : ∃ subscriber, s.find subscriber = some a := by
            rcases hn.2 a hreceiver with hfound | ⟨hkeep, -⟩
            · exact hfound
            · rw [hdelete] at hkeep
              cases hkeep
          have hrun := run_rcver hs hn.1 hdelete hreceiver (List.mem_of_find?_eq_some hfind)
          by_cases hleft : s.mSubscribers.getLast? = some a ∧
              ∀ b ∈ s.mSubscribers, isFor n s.objects b = true
          · refine Or.inl ⟨?_, by rw [hrun, if_pos hleft]⟩
            intro _ b hb
            rw [hreceiver] at hb
            cases hb
            exact hleft
          · refine Or.inr ⟨?_, by rw [hrun, if_neg hleft]⟩
            exact fun hnone => hleft (hnone hdelete a hreceiver)
      | groupID group =>
          have hgroup (a : A) : n.receiver ≠ .rcver a := by
            rw [hreceiver]
            exact fun h => by cases h
          refine Or.inl ⟨?_, run_group hs hn.1 hread hdelete hgroup⟩
          intro _ a ha
          exact absurd ha (hgroup a)

theorem machine_foldl_deleted {gone : List A} (hgone : gone.Nodup) :
    (gone.foldl (deleted n) s).machine =
      (gone.filterMap s.objects).foldl (Subscriber.told n.rsrcStatus) s.machine := by
  induction gone generalizing s with
  | nil => rfl
  | cons a gone ih =>
      obtain ⟨hnot, hrest⟩ := List.nodup_cons.mp hgone
      have hsame : gone.filterMap (s.deleted n a).objects = gone.filterMap s.objects := by
        apply List.filterMap_congr
        intro b hb
        have hne : b ≠ a := by
          rintro rfl
          exact hnot hb
        exact objects_deleted hne
      rw [List.foldl_cons, ih hrest, hsame, List.filterMap_cons]
      cases ha : s.objects a <;> simp [deleted, notified, ha]

/-- A run with a result does to the objects what `notifySubscribers` does to a list of
subscribers. -/
theorem notifySubscribers_refines {t : ObjectMachine A} (hs : s.Listed) (hn : Built n s)
    (hread : n.read s.objects = some notification) (ht : notifySubscribers n s = some t) :
    t.view = s.view.notifySubscribers notification := by
  have hresult : t = result n s := by
    rcases run_cases hs hn with ⟨-, hrun⟩ | ⟨-, hrun⟩
    · rw [hrun] at ht
      exact (Option.some.inj ht).symm
    · rw [hrun] at ht
      cases ht
  obtain ⟨hstatus, hdelete⟩ := read_eq hread
  have htold : notification.rsrcStatus.isTold := by
    rw [hstatus]
    exact hn.1
  have hfor : (s.receivers n).filterMap s.objects =
      (s.mSubscribers.filterMap s.objects).filter (·.forMe notification) :=
    filterMap_isFor hread id s.mSubscribers
  have hnot := filterMap_isFor hread not s.mSubscribers
  rw [AgpsStateMachine.notifySubscribers_eq htold, hresult, view, view, result,
    Subscriber.foldl_told_withSubscribers, hdelete, hstatus, ← hfor]
  cases n.postNotifyDelete with
  | false =>
      obtain ⟨-, hlist, hobjects⟩ := foldl_notified_eq (n := n) (s := s) (s.receivers n)
      simp only [Bool.false_eq_true, if_false]
      rw [machine_foldl_notified, hlist, hobjects]
  | true =>
      obtain ⟨-, hlist, hobjects⟩ := foldl_deleted_eq (n := n) (s := s) (s.receivers n)
      have hleft : (s.mSubscribers.filter (fun b => b ∉ s.receivers n)).filterMap
          (fun b => if b ∈ s.receivers n then none else s.objects b) =
            (s.mSubscribers.filter (fun b => !isFor n s.objects b)).filterMap s.objects := by
        have hmem (b : A) (hb : b ∈ s.mSubscribers) :
            decide (b ∉ s.receivers n) = !isFor n s.objects b := by
          simp [receivers, hb]
        rw [List.filter_congr hmem]
        apply List.filterMap_congr
        intro b hb
        obtain ⟨hb, hkept⟩ := List.mem_filter.mp hb
        rw [← hmem b hb] at hkept
        exact if_neg (of_decide_eq_true hkept)
      simp only [if_true]
      rw [machine_foldl_deleted (hs.receivers n), hlist, hobjects, hleft, hnot]

/-- A notification is delivered exactly, and no deleted subscriber is looked at, if and only
if no other subscriber is left when the one it points to is deleted. -/
theorem notify_exact (hs : s.Listed) (hn : Built n s) : Exact n s ↔ NoneLeft n s := by
  rcases run_cases hs hn with ⟨hnone, hrun⟩ | ⟨hleft, hrun⟩
  · exact iff_of_true (exact_of_run hrun) hnone
  · apply iff_of_false _ hleft
    rintro ⟨t, ht, -⟩
    rw [hrun] at ht
    cases ht

end ObjectMachine

open ObjectMachine

/-- Two clients of one resource, in a store where they are objects 1 and 2. -/
def twoClients : ObjectMachine Nat where
  mSubscribers := [1, 2]
  objects
    | 1 => some (ATLSubscriber 1 false (Vector.replicate 16 0))
    | 2 => some (ATLSubscriber 2 false (Vector.replicate 16 0))
    | _ => none
  machine := { AgpsStateMachine.new .supl false with mStatePtr := .acquired }
  delivered := []

theorem twoClients_listed : twoClients.Listed where
  nodup := by decide
  live := by decide

/-- A released resource, which both clients are told. -/
theorem notify_exact_released :
    Exact ⟨.groupID .all, .released, true⟩ twoClients ↔
      NoneLeft ⟨.groupID .all, .released, true⟩ twoClients := by
  apply notify_exact twoClients_listed
  constructor
  · decide
  · intro a ha
    cases ha

/-- The first client leaves. It is deleted, and then compared with the second one. -/
theorem deleted_receiver_compared :
    twoClients.Listed ∧ Built ⟨.rcver 1, .unsubscribe, true⟩ twoClients ∧
      ¬Exact ⟨.rcver 1, .unsubscribe, true⟩ twoClients := by
  refine ⟨twoClients_listed, ?_, ?_⟩
  · constructor
    · decide
    · rintro a ⟨rfl⟩
      exact Or.inl ⟨ATLSubscriber 1 false (Vector.replicate 16 0), by decide⟩
  · rintro ⟨t, ht, -⟩
    have hrun : notifySubscribers ⟨.rcver 1, .unsubscribe, true⟩ twoClients = none := rfl
    rw [hrun] at ht
    cases ht

end G2Common.Agps
