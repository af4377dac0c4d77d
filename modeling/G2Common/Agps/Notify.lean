import G2Common.Agps.StateMachine

/-!
What `notifySubscribers` amounts to: every listed subscriber that the
notification is for is told once, in list order, and with `postNotifyDelete`
exactly these leave the list. The later modules use the closed form only and
never look into the search loop again.
-/

namespace G2Common.Agps

section Search

variable {α σ : Type*} {equal : α → σ → Bool × σ} {l : List α}

theorem linkedListSearch_none {act : σ → α → σ}
    (h : ∀ x ∈ l, ∀ state, equal x state = (false, act state x)) (state : σ) :
    linkedListSearch equal l state = (none, l.foldl act state) := by
  induction l generalizing state with
  | nil => rfl
  | cons x rest ih =>
      have hrest := ih (fun y hy => h y (by simp [hy])) (act state x)
      simp [linkedListSearch, h x (by simp) state, hrest]

theorem linkedListSearch_some {first : List α} {x : α} {rest : List α} {state next : σ}
    (hfirst : ∀ y ∈ first, ∀ state, equal y state = (false, state))
    (hx : equal x state = (true, next)) :
    linkedListSearch equal (first ++ x :: rest) state =
      (some (x, first ++ rest), next) := by
  induction first with
  | nil => simp [linkedListSearch, hx]
  | cons y more ih =>
      have hmore := ih (fun z hz => hfirst z (by simp [hz]))
      simp [linkedListSearch, hfirst y (by simp) state, hmore]

end Search

@[simp] theorem strncmpEq_self (n : Nat) (bytes : List UInt8) :
    strncmpEq n bytes bytes = true := by
  induction n generalizing bytes with
  | zero => rfl
  | succ n ih => cases bytes <;> simp [strncmpEq, ih]

@[simp] theorem equals_self (s : Subscriber) : s.equals s = true := by
  obtain ⟨id, bytes, cls⟩ := s
  cases cls <;> simp [Subscriber.equals]

@[simp] theorem inactivated_ID (s : Subscriber) : s.inactivated.ID = s.ID := by
  obtain ⟨id, bytes, cls⟩ := s
  cases cls <;> rfl

theorem inactivated_isInactive {s : Subscriber} (h : s.waitForCloseComplete = true) :
    s.inactivated.isInactive = true := by
  obtain ⟨id, bytes, cls⟩ := s
  cases cls <;> simp_all [Subscriber.waitForCloseComplete, Subscriber.inactivated,
    Subscriber.isInactive]

namespace AgpsStateMachine

theorem search_active (m : AgpsStateMachine) :
    m.search (.matchGroup .active) = m.mSubscribers.find? (!·.isInactive) := rfl

theorem hasActiveSubscribers_eq (m : AgpsStateMachine) :
    m.hasActiveSubscribers = m.mSubscribers.any (!·.isInactive) := by
  rw [hasActiveSubscribers, search_active, List.isSome_find?]

end AgpsStateMachine

/-- The statuses that the `notifyRsrcStatus` switches have a case for. -/
def AgpsRsrcStatus.isTold : AgpsRsrcStatus → Bool
  | .unsubscribe | .released | .denied | .granted => true
  | _ => false

namespace Subscriber

def isDS (s : Subscriber) : Bool :=
  match s.cls with
  | .ds _ => true
  | _ => false

/-- The calls by which a subscriber of machine `m` passes a status on. -/
def calls (m : AgpsStateMachine) (status : AgpsRsrcStatus) (s : Subscriber) : List Effect :=
  match s.cls, status with
  | .bit, .unsubscribe | .bit, .released => [.dataConn .gpsoneDaemon .releaseSuccess]
  | .bit, .denied => [.dataConn .gpsoneDaemon .failure]
  | .bit, .granted => [.dataConn .gpsoneDaemon .requestSuccess]
  | .atl _, .unsubscribe | .atl _, .released => [.atlCloseStatus s.ID true]
  | .atl compatible, .denied =>
      [.atlOpenStatus s.ID false m.mAPN m.mBearer (if compatible then .invalid else m.mType)]
  | .atl compatible, .granted =>
      [.atlOpenStatus s.ID true m.mAPN m.mBearer (if compatible then .invalid else m.mType)]
  | .wifi _ _ senderId _, .released => [.dataConn senderId .releaseSuccess]
  | .wifi _ _ senderId _, .denied => [.dataConn senderId .failure]
  | .wifi _ _ senderId _, .granted => [.dataConn senderId .requestSuccess]
  | .ds _, .unsubscribe => [.atlCloseStatus s.ID true]
  | .ds _, .released => [.closeDataCall]
  | .ds _, .denied => [.requestATL s.ID .supl]
  | .ds _, .granted => [.atlOpenStatus s.ID true none .invalid .invalid]
  | _, _ => []

/-- The machine after telling one subscriber. -/
def told (status : AgpsRsrcStatus) (m : AgpsStateMachine) (s : Subscriber) :
    AgpsStateMachine :=
  { m with
    effects := m.effects ++ .notified s.ID status :: s.calls m status
    mRetries := if s.isDS && decide (status = .denied) then 0 else m.mRetries }

theorem notifyRsrcStatus_eq {n : Notification} (hn : n.rsrcStatus.isTold) (s : Subscriber)
    (m : AgpsStateMachine) :
    s.notifyRsrcStatus n m =
      if s.forMe n then (true, told n.rsrcStatus m s) else (false, m) := by
  obtain ⟨receiver, status, delete⟩ := n
  obtain ⟨id, bytes, cls⟩ := s
  by_cases hme : Subscriber.forMe ⟨id, bytes, cls⟩ ⟨receiver, status, delete⟩
  · cases cls <;> cases status <;>
      simp_all [AgpsRsrcStatus.isTold, notifyRsrcStatus, BITSubscriber.notifyRsrcStatus,
        ATLSubscriber.notifyRsrcStatus, WIFISubscriber.notifyRsrcStatus,
        DSSubscriber.notifyRsrcStatus, notifyWith, told, calls, isDS,
        AgpsStateMachine.did, AgpsStateMachine.informStatus]
  · cases cls <;>
      simp_all [notifyRsrcStatus, BITSubscriber.notifyRsrcStatus,
        ATLSubscriber.notifyRsrcStatus, WIFISubscriber.notifyRsrcStatus,
        DSSubscriber.notifyRsrcStatus, notifyWith]

/-- Telling subscribers and replacing the list commute. -/
theorem told_withSubscribers (status : AgpsRsrcStatus) (s : Subscriber)
    (m : AgpsStateMachine) (l : List Subscriber) :
    told status { m with mSubscribers := l } s =
      { told status m s with mSubscribers := l } := rfl

theorem foldl_told_withSubscribers (status : AgpsRsrcStatus) (ss : List Subscriber)
    (m : AgpsStateMachine) (l : List Subscriber) :
    ss.foldl (told status) { m with mSubscribers := l } =
      { ss.foldl (told status) m with mSubscribers := l } := by
  induction ss generalizing m with
  | nil => rfl
  | cons s rest ih =>
      simp only [List.foldl_cons, told_withSubscribers]
      exact ih (told status m s)

theorem foldl_told (status : AgpsRsrcStatus) (ss : List Subscriber) (m : AgpsStateMachine) :
    ss.foldl (told status) m =
      { m with
        effects := m.effects ++
          ss.flatMap fun s => .notified s.ID status :: s.calls m status
        mRetries :=
          if ss.any (·.isDS) && decide (status = .denied) then 0 else m.mRetries } := by
  induction ss generalizing m with
  | nil => simp
  | cons s rest ih =>
      rw [List.foldl_cons, ih]
      have hcalls (t : Subscriber) : t.calls (told status m s) status = t.calls m status := rfl
      by_cases hden : status = .denied <;> cases hds : s.isDS <;>
        simp [told, hds, hden, List.append_assoc]
      all_goals rfl

end Subscriber

namespace AgpsStateMachine

open Subscriber

theorem notifyAndDelete_eq {n : Notification} (hn : n.rsrcStatus.isTold)
    (hdel : n.postNotifyDelete = true) (fuel : Nat) (m : AgpsStateMachine)
    (hfuel : (m.mSubscribers.filter (·.forMe n)).length < fuel) :
    notifyAndDelete n fuel m =
      { (m.mSubscribers.filter (·.forMe n)).foldl (told n.rsrcStatus) m with
        mSubscribers := m.mSubscribers.filter (!·.forMe n) } := by
  have hcallback (s : Subscriber) (m : AgpsStateMachine) :
      notifySubscriber n s m = if s.forMe n then (true, told n.rsrcStatus m s) else (false, m) := by
    simp only [notifySubscriber, notifyRsrcStatus_eq hn, hdel]
    split <;> rfl
  induction fuel generalizing m with
  | zero => omega
  | succ fuel ih =>
      cases hmatch : m.mSubscribers.filter (·.forMe n) with
      | nil =>
          have hnone : ∀ s ∈ m.mSubscribers, s.forMe n = false := by
            simpa using List.filter_eq_nil_iff.mp hmatch
          have hsearch : linkedListSearch (notifySubscriber n) m.mSubscribers m =
              (none, m.mSubscribers.foldl (fun m _ => m) m) :=
            linkedListSearch_none (fun s hs m => by simp [hcallback, hnone s hs]) m
          have hstay : m.mSubscribers.filter (!·.forMe n) = m.mSubscribers :=
            List.filter_eq_self.mpr (fun s hs => by simp [hnone s hs])
          have hid : m.mSubscribers.foldl (fun m _ => m) m = m := by
            generalize m.mSubscribers = l
            induction l <;> simp_all
          simp [notifyAndDelete, hsearch, hstay, hid]
      | cons s rest =>
          obtain ⟨first, last, hlist, hfirst, hs, hlast⟩ := List.filter_eq_cons_iff.mp hmatch
          have hfirst' : ∀ y ∈ first, y.forMe n = false := by simpa using hfirst
          have hsearch : linkedListSearch (notifySubscriber n) (first ++ s :: last) m =
              (some (s, first ++ last), told n.rsrcStatus m s) :=
            linkedListSearch_some (fun y hy m => by simp [hcallback, hfirst' y hy])
              (by simp [hcallback, hs])
          have hothers : (first ++ last).filter (·.forMe n) = rest := by
            simp [List.filter_append, hlast, List.filter_eq_nil_iff.mpr hfirst]
          have hkept : (first ++ last).filter (!·.forMe n) =
              m.mSubscribers.filter (!·.forMe n) := by
            simp [hlist, List.filter_append, hs]
          have hrec := ih { told n.rsrcStatus m s with mSubscribers := first ++ last }
            (by simp only [hothers]; rw [hmatch] at hfuel; simpa using hfuel)
          simp only [notifyAndDelete, hlist, hsearch]
          rw [hrec, foldl_told_withSubscribers]
          simp only [hothers, hkept, hlist, List.foldl_cons]

/-- The closed form of `notifySubscribers`. -/
theorem notifySubscribers_eq {n : Notification} (hn : n.rsrcStatus.isTold)
    (m : AgpsStateMachine) :
    m.notifySubscribers n =
      { (m.mSubscribers.filter (·.forMe n)).foldl (told n.rsrcStatus) m with
        mSubscribers :=
          if n.postNotifyDelete then m.mSubscribers.filter (!·.forMe n)
          else m.mSubscribers } := by
  unfold notifySubscribers
  split
  · next hdel =>
    exact notifyAndDelete_eq hn hdel _ m (Nat.lt_succ_of_le (List.length_filter_le _ _))
  · next hdel =>
    have hsearch : linkedListSearch (notifySubscriber n) m.mSubscribers m =
        (none, m.mSubscribers.foldl (fun m s => (s.notifyRsrcStatus n m).2) m) :=
      linkedListSearch_none (fun s _ m => by simp [notifySubscriber, hdel]) m
    have hfold : ∀ (l : List Subscriber) (m : AgpsStateMachine),
        l.foldl (fun m s => (s.notifyRsrcStatus n m).2) m =
          (l.filter (·.forMe n)).foldl (told n.rsrcStatus) m := by
      intro l
      induction l with
      | nil => intro m; rfl
      | cons s rest ih =>
          intro m
          rw [List.foldl_cons, ih, notifyRsrcStatus_eq hn]
          by_cases hme : s.forMe n <;> simp [hme]
    rw [hsearch, hfold, foldl_told]

section Fields

variable {n : Notification} (hn : n.rsrcStatus.isTold) (m : AgpsStateMachine)

include hn

theorem notifySubscribers_mSubscribers :
    (m.notifySubscribers n).mSubscribers =
      if n.postNotifyDelete then m.mSubscribers.filter (!·.forMe n) else m.mSubscribers := by
  rw [notifySubscribers_eq hn]

theorem notifySubscribers_effects :
    (m.notifySubscribers n).effects =
      m.effects ++ (m.mSubscribers.filter (·.forMe n)).flatMap fun s =>
        .notified s.ID n.rsrcStatus :: s.calls m n.rsrcStatus := by
  rw [notifySubscribers_eq hn, foldl_told]

theorem notifySubscribers_mStatePtr :
    (m.notifySubscribers n).mStatePtr = m.mStatePtr := by
  rw [notifySubscribers_eq hn, foldl_told]

theorem notifySubscribers_mEnforceSingleSubscriber :
    (m.notifySubscribers n).mEnforceSingleSubscriber = m.mEnforceSingleSubscriber := by
  rw [notifySubscribers_eq hn, foldl_told]

end Fields

end AgpsStateMachine

end G2Common.Agps
