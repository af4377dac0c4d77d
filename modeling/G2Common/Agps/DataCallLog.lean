import G2Common.Agps.DataCallStep

/-!
What the log of a run tells about a handle: whether the modem asks for it, and
whether it was closed, opened or handed over since. The second part says which
steps these entries come from.
-/

namespace G2Common.Agps.DataCall

open Transition AgpsStateMachine DSStateMachine

def isRequestOf (h : UInt32) : Entry → Bool
  | .input (.requestSuplEs handle _) => handle == h
  | _ => false

def isReleaseOf (h : UInt32) : Entry → Bool
  | .input (.releaseATL handle _) => handle == h
  | _ => false

def isHandOver (h : UInt32) : Entry → Bool
  | .effect (.requestATL handle _) => handle == h
  | _ => false

def isCloseOf (h : UInt32) (entry : Entry) : Bool :=
  entry == .effect (.atlCloseStatus h true)

def isOpenOf (h : UInt32) : Entry → Bool
  | .effect (.atlOpenStatus handle isSucc _ _ _) => handle == h && isSucc
  | _ => false

def isStop (entry : Entry) : Bool := entry == .effect .stopDataCall

/-- The modem's last message about the handle was a request. -/
def asked (h : UInt32) (log : List Entry) : Bool :=
  latch (isRequestOf h) (isReleaseOf h) false log

/-- The handle was passed to `requestATL` since the modem last requested it. -/
def handed (h : UInt32) (log : List Entry) : Bool :=
  latch (isHandOver h) (isRequestOf h) false log

/-- `atlCloseStatus(h, 1)` was called since the modem last requested the
handle. -/
def closed (h : UInt32) (log : List Entry) : Bool :=
  latch (isCloseOf h) (isRequestOf h) false log

/-- What ends an open data call for the handle: a new request, a closing, the
hand-over to `requestATL` or a forced release. -/
def isEndOf (h : UInt32) (entry : Entry) : Bool :=
  isRequestOf h entry || isCloseOf h entry || isHandOver h entry ||
    entry == .effect (.notified h .released)

/-- The call was reported open for the handle, and not ended for it since. -/
def opened (h : UInt32) (log : List Entry) : Bool :=
  latch (isOpenOf h) (isEndOf h) false log

/-- What a step adds to the log. -/
def newEntries (s : System) (input : Input) : List Entry :=
  (step s input).log.drop s.log.length

theorem SystemStep.newEntries_eq {s : System} {input : Input} {entries : List Entry}
    (h : SystemStep s input (step s input) entries) : newEntries s input = entries := by
  rw [newEntries, h.log_eq, List.drop_left]

theorem asked_input {h : UInt32} {input : Input} {effects : List Effect} {log : List Entry}
    (hasked : asked h (log ++ .input input :: effects.map .effect) = true) :
    isRequestOf h (.input input) = true ∨
      (asked h log = true ∧ isReleaseOf h (.input input) = false) := by
  rw [asked, latch_append] at hasked
  rcases latch_cases hasked with ⟨entry, hentry, hset⟩ | ⟨hbefore, hclears⟩
  · rcases List.mem_cons.mp hentry with rfl | hentry
    · exact .inl hset
    · obtain ⟨e, -, rfl⟩ := List.mem_map.mp hentry
      cases hset
  · exact .inr ⟨hbefore, hclears _ List.mem_cons_self⟩

theorem asked_stays {h : UInt32} {input : Input} {effects : List Effect} {log : List Entry}
    (hasked : isRequestOf h (.input input) = true ∨ asked h log = true)
    (hinput : isReleaseOf h (.input input) = false) :
    asked h (log ++ .input input :: effects.map .effect) = true := by
  have hclears : ∀ entry ∈ .input input :: effects.map Entry.effect,
      isReleaseOf h entry = false := by
    intro entry hentry
    rcases List.mem_cons.mp hentry with rfl | hentry
    · exact hinput
    · obtain ⟨e, -, rfl⟩ := List.mem_map.mp hentry
      rfl
  rw [asked, latch_append]
  rcases hasked with hrequest | hasked
  · exact latch_set hclears ⟨_, List.mem_cons_self, hrequest⟩
  · exact latch_stays hclears hasked

theorem handed_cases {h : UInt32} {input : Input} {effects : List Effect} {log : List Entry}
    (hhanded : handed h (log ++ .input input :: effects.map .effect) = true) :
    (∃ e ∈ effects, isHandOver h (.effect e) = true) ∨
      (handed h log = true ∧ isRequestOf h (.input input) = false) := by
  rw [handed, latch_append] at hhanded
  rcases latch_cases hhanded with ⟨entry, hentry, hset⟩ | ⟨hbefore, hclears⟩
  · rcases List.mem_cons.mp hentry with rfl | hentry
    · cases hset
    · obtain ⟨e, he, rfl⟩ := List.mem_map.mp hentry
      exact .inl ⟨e, he, hset⟩
  · exact .inr ⟨hbefore, hclears _ List.mem_cons_self⟩

theorem release_of_takes {posted posted' : List UInt32} {input : Input} {answers : Answers}
    {h : UInt32} (htakes : Takes posted input (.release h) answers posted') :
    isReleaseOf h (.input input) = true := by
  cases htakes
  simp [isReleaseOf]

theorem firstHandle_spec {l : List Subscriber} (h : ∃ x ∈ l, x.isInactive = false) :
    ∃ x ∈ l, x.isInactive = false ∧ firstHandle l = x.ID := by
  cases hfind : l.find? (!·.isInactive) with
  | none =>
      obtain ⟨x, hx, hactive⟩ := h
      have hnone := List.find?_eq_none.mp hfind x hx
      simp [hactive] at hnone
  | some x =>
      refine ⟨x, List.mem_of_find?_eq_some hfind, by simpa using List.find?_some hfind, ?_⟩
      simp [firstHandle, hfind]

theorem mem_startCall {answers : Answers} {first : UInt32} {retries : UInt8} {e : Effect}
    (he : e ∈ (startCall answers first retries).2) :
    e = .openAndStartDataCall answers.ret ∨
      (fallsBack answers.ret retries = true ∧ e = .requestATL first .supl) ∨
      ∃ armed, e = .locTimerStart armed := by
  unfold startCall at he
  split at he
  · next hfalls =>
      simp only [List.mem_cons, List.not_mem_nil, or_false] at he
      rcases he with rfl | rfl
      · exact .inl rfl
      · exact .inr (.inl ⟨hfalls, rfl⟩)
  · split at he
    · simp only [List.mem_cons, List.not_mem_nil, or_false] at he
      rcases he with rfl | rfl
      · exact .inl rfl
      · exact .inr (.inr ⟨_, rfl⟩)
    · exact .inl (by simpa using he)

/-- The calls that come with a notification. -/
inductive Informed (h : UInt32) : AgpsRsrcStatus → Effect → Prop
  | notified {status} : Informed h status (.notified h status)
  | closed : Informed h .unsubscribe (.atlCloseStatus h true)
  | forced : Informed h .released .closeDataCall
  | handed : Informed h .denied (.requestATL h .supl)
  | opened : Informed h .granted (.atlOpenStatus h true none .invalid .invalid)

theorem mem_informs {status : AgpsRsrcStatus} {h : UInt32} {e : Effect}
    (he : e ∈ informs status h) : Informed h status e := by
  cases status <;> simp only [informs, List.mem_cons, List.not_mem_nil, or_false] at he <;>
    rcases he with rfl | rfl <;> constructor

theorem mem_flatMap_informs {status : AgpsRsrcStatus} {told : List Subscriber} {e : Effect}
    (he : e ∈ told.flatMap (informs status ·.ID)) :
    ∃ x ∈ told, Informed x.ID status e := by
  obtain ⟨x, hx, he⟩ := List.mem_flatMap.mp he
  exact ⟨x, hx, mem_informs he⟩

/-- A call is reported open to who joins in Acquired, and to the active clients
on a grant in Pending. -/
theorem open_mem_moves {answers : Answers} {state next : AgpsState} {l l' : List Subscriber}
    {retries retries' : UInt8} {op : Op} {effects : List Effect} {h : UInt32} {entry : Entry}
    (hmoves : Moves answers state l retries op next l' retries' effects)
    (hentry : entry ∈ effects.map Entry.effect) (hopen : isOpenOf h entry = true) :
    next = .acquired ∧
      ((op = .request h ∧ state = .acquired ∧ l' = join h l) ∨
        (state = .pending ∧ l' = l ∧ ∃ x ∈ l, x.isInactive = false ∧ x.ID = h)) := by
  obtain ⟨e, he, rfl⟩ := List.mem_map.mp hentry
  have hstart {first : UInt32} {retries : UInt8} : e ∉ (startCall answers first retries).2 := by
    intro hmem
    rcases mem_startCall hmem with rfl | ⟨-, rfl⟩ | ⟨armed, rfl⟩ <;> cases hopen
  have htold {status : AgpsRsrcStatus} {g : UInt32} (hinformed : Informed g status e) :
      status = .granted ∧ g = h := by
    cases hinformed with
    | opened => exact ⟨rfl, by simpa [isOpenOf] using hopen⟩
    | _ => cases hopen
  cases hmoves with
  | started => exact absurd he hstart
  | joined | unknown | ignored => cases he
  | joinedGranted =>
      obtain ⟨-, rfl⟩ := htold (mem_informs he)
      exact ⟨rfl, .inl ⟨rfl, rfl, rfl⟩⟩
  | toldOnly => cases (htold (mem_informs he)).1
  | deactivated =>
      obtain rfl := List.mem_singleton.mp he
      cases hopen
  | stopped =>
      obtain rfl | rfl : e = .atlCloseStatus _ true ∨ e = .stopDataCall := by simpa using he
      · cases hopen
      · cases hopen
  | granted =>
      obtain ⟨x, hx, hinformed⟩ := mem_flatMap_informs he
      obtain ⟨hx, hactive⟩ := List.mem_filter.mp hx
      exact ⟨rfl, .inr ⟨rfl, rfl, x, hx, by simpa using hactive, (htold hinformed).2⟩⟩
  | denied | forced =>
      obtain ⟨x, -, hinformed⟩ := mem_flatMap_informs he
      cases (htold hinformed).1
  | closed hevent =>
      obtain ⟨x, -, hinformed⟩ := mem_flatMap_informs he
      obtain ⟨rfl, -⟩ := htold hinformed
      simp at hevent
  | reopened hevent =>
      rcases List.mem_append.mp he with he | he
      · obtain ⟨x, -, hinformed⟩ := mem_flatMap_informs he
        obtain ⟨rfl, -⟩ := htold hinformed
        simp at hevent
      · exact absurd he hstart

end G2Common.Agps.DataCall
