import G2Common.Agps.Notify
import Mathlib.Logic.Function.Basic

/-!
`notifySubscribers` on a store of objects. The list holds pointers, and a notification for
one subscriber points to a listed object. A run that looks up an object which has been
deleted has no result.
-/

namespace G2Common.Agps

variable {A : Type}

inductive ObjectReceiver (A : Type) where
  | rcver (object : A)
  | groupID (group : Broadcast)
  deriving DecidableEq, Repr

/-- A notification that points to its receiver. -/
structure ObjectNotification (A : Type) where
  receiver : ObjectReceiver A
  rsrcStatus : AgpsRsrcStatus
  postNotifyDelete : Bool
  deriving DecidableEq, Repr

/-- A state machine whose subscribers are objects in a store. `machine` has what the
subscribers read and write of it beside the list, and `delivered` which objects have been
notified. -/
structure ObjectMachine (A : Type) where
  mSubscribers : List A
  objects : A → Option Subscriber
  machine : AgpsStateMachine
  delivered : List (A × AgpsRsrcStatus)

/-- The notification with the object it points to. -/
def ObjectNotification.read (n : ObjectNotification A) (objects : A → Option Subscriber) :
    Option Notification :=
  match n.receiver with
  | .rcver object =>
      (objects object).map (fun subscriber =>
        ⟨.rcver subscriber, n.rsrcStatus, n.postNotifyDelete⟩)
  | .groupID group => some ⟨.groupID group, n.rsrcStatus, n.postNotifyDelete⟩

/-- The loop of `linked_list_search`, with a callback that may fail. -/
def searchObjects {σ : Type} (equal : A → σ → Option (Bool × σ)) :
    List A → σ → Option (Option (A × List A) × σ)
  | [], state => some (none, state)
  | a :: rest, state => do
      let (found, state) ← equal a state
      if found then some (some (a, rest), state)
      else
        let (result, state) ← searchObjects equal rest state
        some (result.map (fun pair => (pair.1, a :: pair.2)), state)

/-- The search goes on behind an element that the callback does not accept. -/
theorem searchObjects_skip {σ : Type} {equal : A → σ → Option (Bool × σ)} {a : A}
    {state next : σ} (h : equal a state = some (false, next)) (rest : List A) :
    searchObjects equal (a :: rest) state =
      (searchObjects equal rest next).map (fun found =>
        (found.1.map (fun pair => (pair.1, a :: pair.2)), found.2)) := by
  rw [searchObjects, h]
  cases hrest : searchObjects equal rest next <;> simp [hrest]

namespace ObjectMachine

/-- The callback `notifySubscriber` on a listed object. -/
def notifySubscriber (n : ObjectNotification A) (a : A) (s : ObjectMachine A) :
    Option (Bool × ObjectMachine A) := do
  let subscriber ← s.objects a
  let notification ← n.read s.objects
  let (notified, machine) := subscriber.notifyRsrcStatus notification s.machine
  let delivered := if notified then s.delivered ++ [(a, n.rsrcStatus)] else s.delivered
  some (notified && n.postNotifyDelete, { s with machine := machine, delivered := delivered })

/-- `delete` of an object that is there. -/
def delete [DecidableEq A] (a : A) (s : ObjectMachine A) : Option (ObjectMachine A) := do
  let _ ← s.objects a
  some { s with objects := Function.update s.objects a none }

/-- The loop for `postNotifyDelete`. Each turn but the last takes a subscriber out. -/
def notifyAndDelete [DecidableEq A] (n : ObjectNotification A) :
    Nat → ObjectMachine A → Option (ObjectMachine A)
  | 0, _ => none
  | fuel + 1, s => do
      let (found, s) ← searchObjects (notifySubscriber n) s.mSubscribers s
      match found with
      | some (a, others) =>
          let s ← { s with mSubscribers := others }.delete a
          notifyAndDelete n fuel s
      | none => some s

def notifySubscribers [DecidableEq A] (n : ObjectNotification A) (s : ObjectMachine A) :
    Option (ObjectMachine A) :=
  if n.postNotifyDelete then notifyAndDelete n (s.mSubscribers.length + 1) s
  else (searchObjects (notifySubscriber n) s.mSubscribers s).map Prod.snd

/-- The object that `unsubscribeRsrc` finds for its caller's subscriber. -/
def find (subscriber : Subscriber) (s : ObjectMachine A) : Option A :=
  s.mSubscribers.find? (fun a =>
    match s.objects a with
    | some listed => listed.forMe (.matchSubscriber subscriber)
    | none => false)

/-- The listed objects are different ones and have not been deleted. -/
structure Listed (s : ObjectMachine A) : Prop where
  nodup : s.mSubscribers.Nodup
  live : ∀ a ∈ s.mSubscribers, s.objects a ≠ none

/-- A notification as the states build it: to a group, to the object that `unsubscribeRsrc`
has found or, where a subscribe is granted, to the caller's own object. -/
def Built (n : ObjectNotification A) (s : ObjectMachine A) : Prop :=
  n.rsrcStatus.isTold ∧ ∀ a, n.receiver = .rcver a →
    (∃ subscriber, s.find subscriber = some a) ∨
      (n.postNotifyDelete = false ∧ s.objects a ≠ none)

/-- Whether the notification is for the object, before anything is deleted. -/
def isFor (n : ObjectNotification A) (objects : A → Option Subscriber) (a : A) : Bool :=
  match objects a, n.read objects with
  | some subscriber, some notification => subscriber.forMe notification
  | _, _ => false

/-- The listed objects that the notification is for. -/
def receivers (n : ObjectNotification A) (s : ObjectMachine A) : List A :=
  s.mSubscribers.filter (isFor n s.objects)

variable {n : ObjectNotification A} {s : ObjectMachine A} {a b : A} {subscriber : Subscriber}
  {notification : Notification}

theorem Listed.receivers (hs : s.Listed) (n : ObjectNotification A) : (s.receivers n).Nodup :=
  hs.nodup.filter _

theorem length_receivers_le (n : ObjectNotification A) (s : ObjectMachine A) :
    (s.receivers n).length ≤ s.mSubscribers.length := List.length_filter_le _ _

/-- The machine after an object has been notified. -/
def notified (n : ObjectNotification A) (s : ObjectMachine A) (a : A) : ObjectMachine A :=
  { s with
    machine := (s.objects a).elim s.machine (Subscriber.told n.rsrcStatus s.machine)
    delivered := s.delivered ++ [(a, n.rsrcStatus)] }

theorem read_eq {objects : A → Option Subscriber} (h : n.read objects = some notification) :
    notification.rsrcStatus = n.rsrcStatus ∧
      notification.postNotifyDelete = n.postNotifyDelete := by
  unfold ObjectNotification.read at h
  split at h
  · obtain ⟨other, -, rfl⟩ := Option.map_eq_some_iff.mp h
    exact ⟨rfl, rfl⟩
  · cases h
    exact ⟨rfl, rfl⟩

theorem isFor_eq (hread : n.read s.objects = some notification)
    (ha : s.objects a = some subscriber) :
    isFor n s.objects a = subscriber.forMe notification := by
  rw [isFor, ha, hread]

theorem notifySubscriber_eq (hn : n.rsrcStatus.isTold)
    (hread : n.read s.objects = some notification) (ha : s.objects a ≠ none) :
    notifySubscriber n a s = some (isFor n s.objects a && n.postNotifyDelete,
      if isFor n s.objects a then s.notified n a else s) := by
  obtain ⟨subscriber, hsub⟩ := Option.ne_none_iff_exists'.mp ha
  obtain ⟨hstatus, -⟩ := read_eq hread
  have hfor := isFor_eq hread hsub
  have htold : notification.rsrcStatus.isTold := by rwa [hstatus]
  rw [hfor, notifySubscriber, hsub, hread]
  simp only [Option.bind_eq_bind, Option.bind_some, Subscriber.notifyRsrcStatus_eq htold, notified,
    hsub, hstatus]
  cases subscriber.forMe notification <;> rfl

/-- A notification that points to a deleted object cannot be looked at. -/
theorem notifySubscriber_none (hread : n.read s.objects = none) (a : A) :
    notifySubscriber n a s = none := by
  rw [notifySubscriber, hread]
  cases s.objects a <;> rfl

theorem read_rcver (h : n.receiver = .rcver a) (ha : s.objects a = some subscriber) :
    n.read s.objects = some ⟨.rcver subscriber, n.rsrcStatus, n.postNotifyDelete⟩ := by
  simp [ObjectNotification.read, h, ha]

theorem isFor_self (h : n.receiver = .rcver a) (ha : s.objects a = some subscriber) :
    isFor n s.objects a = true := by
  simp [isFor, read_rcver h ha, ha, Subscriber.forMe]

theorem read_built (hs : s.Listed) (hn : Built n s) :
    ∃ notification, n.read s.objects = some notification := by
  cases hreceiver : n.receiver with
  | rcver a =>
      have hlive : s.objects a ≠ none := by
        rcases hn.2 a hreceiver with ⟨subscriber, hfind⟩ | ⟨-, hlive⟩
        · exact hs.live a (List.mem_of_find?_eq_some hfind)
        · exact hlive
      obtain ⟨subscriber, hsub⟩ := Option.ne_none_iff_exists'.mp hlive
      exact ⟨_, read_rcver hreceiver hsub⟩
  | groupID group =>
      rw [ObjectNotification.read, hreceiver]
      exact ⟨_, rfl⟩

/-- Without `postNotifyDelete` one search notifies all receivers. -/
theorem search_all (hn : n.rsrcStatus.isTold) (hread : n.read s.objects = some notification)
    (hkeep : n.postNotifyDelete = false) {l : List A} (hl : ∀ a ∈ l, s.objects a ≠ none) :
    searchObjects (notifySubscriber n) l s =
      some (none, (l.filter (isFor n s.objects)).foldl (notified n) s) := by
  induction l generalizing s with
  | nil => rfl
  | cons a l ih =>
      obtain ⟨ha, hrest⟩ := List.forall_mem_cons.mp hl
      have hcall := notifySubscriber_eq hn hread ha
      rw [hkeep, Bool.and_false] at hcall
      rw [searchObjects_skip hcall, List.filter_cons]
      split
      · rw [ih (s := s.notified n a) hread hrest]
        rfl
      · rw [ih hread hrest]
        rfl

theorem foldl_notified_eq (told : List A) :
    (told.foldl (notified n) s).delivered =
        s.delivered ++ told.map (fun a => (a, n.rsrcStatus)) ∧
      (told.foldl (notified n) s).mSubscribers = s.mSubscribers ∧
      (told.foldl (notified n) s).objects = s.objects := by
  induction told generalizing s with
  | nil => simp
  | cons a told ih =>
      obtain ⟨hdelivered, hlist, hobjects⟩ := ih (s := s.notified n a)
      refine ⟨?_, hlist, hobjects⟩
      rw [List.foldl_cons, hdelivered, List.map_cons, ← List.singleton_append,
        ← List.append_assoc]
      rfl

theorem machine_foldl_notified (told : List A) :
    (told.foldl (notified n) s).machine =
      (told.filterMap s.objects).foldl (Subscriber.told n.rsrcStatus) s.machine := by
  induction told generalizing s with
  | nil => rfl
  | cons a told ih =>
      rw [List.foldl_cons, ih, List.filterMap_cons]
      cases ha : s.objects a <;> simp [notified, ha]

/-- A search without a receiver. -/
theorem search_none (hn : n.rsrcStatus.isTold) (hread : n.read s.objects = some notification)
    {l : List A} (hl : ∀ a ∈ l, s.objects a ≠ none) (hfor : ∀ a ∈ l, isFor n s.objects a = false) :
    searchObjects (notifySubscriber n) l s = some (none, s) := by
  induction l with
  | nil => rfl
  | cons a l ih =>
      obtain ⟨ha, hrest⟩ := List.forall_mem_cons.mp hl
      obtain ⟨hnot, hnone⟩ := List.forall_mem_cons.mp hfor
      have hcall := notifySubscriber_eq hn hread ha
      rw [hnot, Bool.false_and, if_neg Bool.false_ne_true] at hcall
      rw [searchObjects_skip hcall, ih hrest hnone]
      rfl

/-- With `postNotifyDelete` a search stops at the first receiver. -/
theorem search_found (hn : n.rsrcStatus.isTold) (hread : n.read s.objects = some notification)
    (hdelete : n.postNotifyDelete = true) {first rest : List A}
    (hl : ∀ b ∈ first, s.objects b ≠ none) (hfor : ∀ b ∈ first, isFor n s.objects b = false)
    (ha : isFor n s.objects a = true) (hlive : s.objects a ≠ none) :
    searchObjects (notifySubscriber n) (first ++ a :: rest) s =
      some (some (a, first ++ rest), s.notified n a) := by
  induction first with
  | nil =>
      rw [List.nil_append, searchObjects, notifySubscriber_eq hn hread hlive, ha, hdelete]
      rfl
  | cons b first ih =>
      obtain ⟨hb, hrest⟩ := List.forall_mem_cons.mp hl
      obtain ⟨hnot, hnone⟩ := List.forall_mem_cons.mp hfor
      have hcall := notifySubscriber_eq hn hread hb
      rw [hnot, Bool.false_and, if_neg Bool.false_ne_true] at hcall
      rw [List.cons_append, searchObjects_skip hcall, ih hrest hnone]
      rfl

/-- The machine with the listed objects in the place of the pointers. -/
def view (s : ObjectMachine A) : AgpsStateMachine :=
  { s.machine with mSubscribers := s.mSubscribers.filterMap s.objects }

/-- The subscribers that the notification is for, or the others. -/
theorem filterMap_isFor (hread : n.read s.objects = some notification) (keep : Bool → Bool)
    (l : List A) :
    (l.filter (fun a => keep (isFor n s.objects a))).filterMap s.objects =
      (l.filterMap s.objects).filter (fun subscriber => keep (subscriber.forMe notification)) := by
  induction l with
  | nil => rfl
  | cons a l ih =>
      cases ha : s.objects a with
      | none =>
          rw [List.filterMap_cons_none ha, List.filter_cons]
          split
          · rw [List.filterMap_cons_none ha, ih]
          · exact ih
      | some subscriber =>
          rw [List.filterMap_cons_some ha, List.filter_cons, List.filter_cons,
            isFor_eq hread ha]
          split
          · rw [List.filterMap_cons_some ha, ih]
          · exact ih

variable [DecidableEq A]

/-- The machine after an object has been notified and deleted. -/
def deleted (n : ObjectNotification A) (s : ObjectMachine A) (a : A) : ObjectMachine A :=
  { s.notified n a with
    mSubscribers := s.mSubscribers.filter (· ≠ a)
    objects := Function.update s.objects a none }

theorem objects_deleted (hne : b ≠ a) : (s.deleted n a).objects b = s.objects b := by
  change Function.update s.objects a none b = s.objects b
  rw [Function.update_of_ne hne]

theorem Listed.deleted (hs : s.Listed) (n : ObjectNotification A) (a : A) :
    (s.deleted n a).Listed where
  nodup := hs.nodup.filter _
  live b hb := by
    obtain ⟨hmem, hne⟩ := List.mem_filter.mp hb
    rw [objects_deleted (by simpa using hne)]
    exact hs.live b hmem

theorem read_deleted (h : n.receiver ≠ .rcver a) :
    n.read (s.deleted n a).objects = n.read s.objects := by
  unfold ObjectNotification.read
  split
  · rename_i object hobject
    have hne : object ≠ a := by
      rintro rfl
      exact h hobject
    rw [objects_deleted hne]
  · rfl

theorem isFor_deleted (h : n.receiver ≠ .rcver a) (hne : b ≠ a) :
    isFor n (s.deleted n a).objects b = isFor n s.objects b := by
  rw [isFor, read_deleted h, objects_deleted hne, isFor]

theorem receivers_deleted (hs : s.Listed) (h : n.receiver ≠ .rcver a) {more : List A}
    (hreceivers : s.receivers n = a :: more) : (s.deleted n a).receivers n = more := by
  have hnodup : (a :: more).Nodup := by
    rw [← hreceivers]
    exact hs.receivers n
  have hkeep : (s.deleted n a).receivers n =
      (s.mSubscribers.filter (· ≠ a)).filter (isFor n s.objects) := by
    apply List.filter_congr
    intro b hb
    have hne : b ≠ a := by simpa using (List.mem_filter.mp hb).2
    exact isFor_deleted h hne
  have hswap : (s.mSubscribers.filter (· ≠ a)).filter (isFor n s.objects) =
      (s.receivers n).filter (· ≠ a) := by
    rw [receivers, List.filter_filter, List.filter_filter]
    exact List.filter_congr (fun b _ => Bool.and_comm _ _)
  rw [hkeep, hswap, hreceivers, List.filter_cons_of_neg (by simp)]
  apply List.filter_eq_self.mpr
  intro b hb
  have hne : b ≠ a := by
    rintro rfl
    exact (List.nodup_cons.mp hnodup).1 hb
  simpa using hne

/-- A turn deletes the first receiver. -/
theorem notifyAndDelete_turn (hs : s.Listed) (hn : n.rsrcStatus.isTold)
    (hread : n.read s.objects = some notification) (hdelete : n.postNotifyDelete = true)
    {more : List A} (hreceivers : s.receivers n = a :: more) (fuel : Nat) :
    notifyAndDelete n (fuel + 1) s = notifyAndDelete n fuel (s.deleted n a) := by
  obtain ⟨first, rest, hlist, hfirst, ha, -⟩ := List.filter_eq_cons_iff.mp hreceivers
  have hfor : ∀ b ∈ first, isFor n s.objects b = false := by simpa using hfirst
  have hlive (b : A) (hb : b ∈ first ++ a :: rest) : s.objects b ≠ none :=
    hs.live b (by rwa [hlist])
  have hsearch : searchObjects (notifySubscriber n) (first ++ a :: rest) s =
      some (some (a, first ++ rest), s.notified n a) :=
    search_found hn hread hdelete (fun b hb => hlive b (List.mem_append_left _ hb)) hfor ha
      (hlive a (by simp))
  have hrest : first ++ rest = s.mSubscribers.filter (· ≠ a) := by
    have hnodup := hs.nodup
    rw [hlist] at hnodup ⊢
    obtain ⟨-, hcons, hdisjoint⟩ := List.nodup_append.mp hnodup
    have hnot : a ∉ rest := (List.nodup_cons.mp hcons).1
    rw [List.filter_append, List.filter_cons_of_neg (by simp)]
    congr 1
    · apply (List.filter_eq_self.mpr _).symm
      intro b hb
      simpa using hdisjoint b hb a List.mem_cons_self
    · apply (List.filter_eq_self.mpr _).symm
      intro b hb
      have hne : b ≠ a := by
        rintro rfl
        exact hnot hb
      simpa using hne
  obtain ⟨subscriber, hsub⟩ := Option.ne_none_iff_exists'.mp (hlive a (by simp))
  rw [notifyAndDelete, hlist, hsearch]
  simp only [Option.bind_eq_bind, Option.bind_some, delete, notified, hsub, hrest]
  simp only [ObjectMachine.deleted, notified, hsub]

end ObjectMachine

end G2Common.Agps
