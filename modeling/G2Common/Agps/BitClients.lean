import Mathlib.Data.Fintype.Basic
import G2Common.Agps.NifLease

/-!
`LocEngReqRelBIT`: the clients of the BIT daemon, told apart by their addresses.
`BITSubscriber::equals` compares the IPv6 address with `strncmp`, which stops at
a common zero byte.
-/

namespace G2Common.Agps.Nif

open Transition AgpsStateMachine

/-- The address of a BIT client. -/
structure Address where
  ipv4 : UInt32
  ipv6 : Vector UInt8 16
  deriving DecidableEq, Repr

def Address.subscriber (a : Address) : Subscriber := BITSubscriber a.ipv4 a.ipv6

/-- What a machine with BIT clients only is driven by: a `LocEngReqRelBIT`
message that requests or releases, or an event from the servicer. -/
inductive BitInput where
  | request (address : Address)
  | release (address : Address)
  | onRsrcEvent (event : AgpsRsrcStatus)
  deriving DecidableEq, Repr

/-- `LocEngReqRelBIT::proc` -/
def BitInput.proc : BitInput → Input
  | .request address => .subscribeRsrc address.subscriber
  | .release address => .unsubscribeRsrc address.subscriber
  | .onRsrcEvent event => .onRsrcEvent event

def bitStep (t : Traced AgpsStateMachine Entry) (input : BitInput) :
    Traced AgpsStateMachine Entry :=
  step t input.proc

def BitInput.address : BitInput → Option Address
  | .request address | .release address => some address
  | .onRsrcEvent _ => none

/-- The addresses that a run hears of. -/
def addresses (inputs : List BitInput) : List Address := inputs.filterMap (·.address)

/-- Two addresses of one client: the IPv6 address counts where there is no IPv4
address. -/
def SameAddress (a b : Address) : Prop :=
  a.ipv4 = b.ipv4 ∧ (a.ipv4 = inaddrNone → a.ipv6 = b.ipv6)

instance (a b : Address) : Decidable (SameAddress a b) :=
  inferInstanceAs (Decidable (_ ∧ _))

/-- Two IPv6 addresses that differ, but only behind a zero byte that they share. -/
def Confusable (a b : Address) : Prop :=
  a.ipv4 = inaddrNone ∧ b.ipv4 = inaddrNone ∧ a.ipv6 ≠ b.ipv6 ∧
    ∃ i : Fin 16, a.ipv6[i] = 0 ∧ ∀ j ≤ i, a.ipv6[j] = b.ipv6[j]

instance (a b : Address) : Decidable (Confusable a b) :=
  inferInstanceAs (Decidable (_ ∧ _ ∧ _ ∧ _))

def addressOf (s : Subscriber) : Address := ⟨s.ID, s.mIPv6Addr⟩

/-- The listed clients that an address denotes. -/
def denoted (address : Address) (l : List Subscriber) : List Subscriber :=
  l.filter (fun s => SameAddress (addressOf s) address)

/-- What the list is to be after a step: a request adds a client with a new
address, a release removes the client with its address and no other. -/
def GoesByAddress (t : Traced AgpsStateMachine Entry) (input : BitInput) : Prop :=
  let l := t.state.mSubscribers
  let next := (bitStep t input).state.mSubscribers
  match input with
  | .request a => next = if denoted a l = [] then a.subscriber :: l else l
  | .release a => next = l.filter (fun s => ¬SameAddress (addressOf s) a)
  | .onRsrcEvent _ => True

instance (t : Traced AgpsStateMachine Entry) : DecidablePred (GoesByAddress t)
  | .request _ | .release _ => inferInstanceAs (Decidable (_ = _))
  | .onRsrcEvent _ => isTrue trivial

/-- The messages that a machine does not turn away: one that enforces a single
subscriber denies a new client while it has another one. -/
def TakesClient (t : Traced AgpsStateMachine Entry) (input : BitInput) : Prop :=
  match input with
  | .request a =>
      t.state.mEnforceSingleSubscriber = true → t.state.mSubscribers ≠ [] →
        denoted a t.state.mSubscribers ≠ []
  | _ => True

theorem strncmpEq_iff {n : Nat} {as bs : List UInt8} (ha : as.length = n)
    (hb : bs.length = n) :
    strncmpEq n as bs = true ↔
      as = bs ∨ ∃ i < n, as[i]? = some 0 ∧ ∀ j ≤ i, as[j]? = bs[j]? := by
  induction n generalizing as bs with
  | zero =>
      rw [List.length_eq_zero_iff.mp ha, List.length_eq_zero_iff.mp hb]
      simp [strncmpEq]
  | succ n ih =>
      obtain ⟨a, as, rfl⟩ := List.exists_cons_of_length_eq_add_one ha
      obtain ⟨b, bs, rfl⟩ := List.exists_cons_of_length_eq_add_one hb
      have hrest := @ih as bs (by simpa using ha) (by simpa using hb)
      simp only [strncmpEq, Bool.and_eq_true, Bool.or_eq_true, beq_iff_eq, hrest,
        List.cons.injEq]
      constructor
      · rintro ⟨rfl, hzero | heq | ⟨i, hi, hzero, hsame⟩⟩
        · refine .inr ⟨0, by omega, by simp [hzero], ?_⟩
          intro j hj
          rw [Nat.le_zero.mp hj]
          rfl
        · exact .inl ⟨rfl, heq⟩
        · refine .inr ⟨i + 1, by omega, by simpa using hzero, ?_⟩
          intro j hj
          cases j with
          | zero => rfl
          | succ j => simpa using hsame j (by omega)
      · rintro (⟨rfl, rfl⟩ | ⟨i, hi, hzero, hsame⟩)
        · exact ⟨rfl, .inr (.inl rfl)⟩
        · have hfirst : a = b := by simpa using hsame 0 (by omega)
          cases i with
          | zero => exact ⟨hfirst, .inl (by simpa using hzero)⟩
          | succ i =>
              refine ⟨hfirst, .inr (.inr ⟨i, by omega, by simpa using hzero, ?_⟩)⟩
              intro j hj
              simpa using hsame (j + 1) (by omega)

theorem strncmpEq_ipv6 (a b : Vector UInt8 16) :
    strncmpEq 16 a.toList b.toList = true ↔
      a = b ∨ ∃ i : Fin 16, a[i] = 0 ∧ ∀ j ≤ i, a[j] = b[j] := by
  rw [strncmpEq_iff (by simp) (by simp), Vector.toList_inj]
  apply or_congr Iff.rfl
  constructor
  · rintro ⟨i, hi, hzero, hsame⟩
    refine ⟨⟨i, hi⟩, by simpa [hi] using hzero, ?_⟩
    rintro ⟨j, hj⟩ hle
    simpa [hj] using hsame j hle
  · rintro ⟨⟨i, hi⟩, hzero, hsame⟩
    refine ⟨i, hi, by simpa [hi] using hzero, ?_⟩
    intro j hj
    have hj' : j < 16 := by omega
    simpa [hj'] using hsame ⟨j, hj'⟩ hj

/-- Requests with the same address denote one subscriber, and so do those with
confusable ones. -/
theorem equals_subscriber (a b : Address) :
    a.subscriber.equals b.subscriber = true ↔ SameAddress a b ∨ Confusable a b := by
  have hequals : a.subscriber.equals b.subscriber = true ↔
      a.ipv4 = b.ipv4 ∧ (a.ipv4 = inaddrNone →
        strncmpEq 16 a.ipv6.toList b.ipv6.toList = true) := by
    simp [Address.subscriber, BITSubscriber, Subscriber.equals, imp_iff_not_or]
  rw [hequals, strncmpEq_ipv6]
  constructor
  · rintro ⟨hipv4, himp⟩
    by_cases hsame : a.ipv4 = inaddrNone → a.ipv6 = b.ipv6
    · exact .inl ⟨hipv4, hsame⟩
    · obtain ⟨hnone, hne⟩ := Classical.not_imp.mp hsame
      exact .inr ⟨hnone, hipv4 ▸ hnone, hne, (himp hnone).resolve_left hne⟩
  · rintro (⟨hipv4, hsame⟩ | ⟨hnone, hnone', -, hzero⟩)
    · exact ⟨hipv4, fun hnone => .inl (hsame hnone)⟩
    · exact ⟨hnone.trans hnone'.symm, fun _ => .inr hzero⟩

theorem Confusable.not_same {a b : Address} (h : Confusable a b) : ¬SameAddress a b :=
  fun hsame => h.2.2.1 (hsame.2 h.1)

/-- Identity goes by the address exactly where the two are not confusable. -/
theorem equals_iff_same (a b : Address) :
    (a.subscriber.equals b.subscriber = true ↔ SameAddress a b) ↔ ¬Confusable a b := by
  rw [equals_subscriber]
  constructor
  · intro h hconf
    exact hconf.not_same (h.mp (.inr hconf))
  · intro h
    exact or_iff_left h

section List

variable {enforce : Bool} {state next : AgpsState} {l l' : List Subscriber} {s : Subscriber}
  {told : List (UInt32 × AgpsRsrcStatus)} {requests : List AGpsStatusValue}

theorem added_of_moves
    (hmoves : Moves enforce state l (.subscribeRsrc s) next l' told requests)
    (htaken : ¬(enforce = true ∧ l ≠ [])) : l' = added s l := by
  cases hmoves with
  | refused henforce hl => exact absurd ⟨henforce, hl⟩ htaken
  | opened | joined | joinedGranted => rfl

theorem left_of_moves
    (hmoves : Moves enforce state l (.unsubscribeRsrc s) next l' told requests)
    (hwait : ∀ x ∈ l, x.waitForCloseComplete = false) :
    l' = l ∧ (∀ x ∈ l, x.equals s = false) ∨
      ∃ x ∈ l, x.equals s = true ∧ l' = l.filter (!·.equals x) := by
  cases hmoves with
  | unknown hs => exact .inl ⟨rfl, hs⟩
  | left hx heq => exact .inr ⟨_, hx, heq, rfl⟩
  | deactivated hx _ hwaits => simp [hwait _ (List.mem_of_getElem? hx)] at hwaits

theorem kept_of_moves {event : AgpsRsrcStatus}
    (hmoves : Moves enforce state l (.onRsrcEvent event) next l' told requests)
    (hs : s ∈ l') : s ∈ l := by
  cases hmoves with
  | granted | ignored => exact hs
  | lost | closed => simp at hs
  | reopened => exact (List.mem_filter.mp hs).1

end List

/-- The clients of a machine whose messages come from the addresses `known`. -/
structure Clients (known : List Address) (t : Traced AgpsStateMachine Entry) : Prop where
  consistent : Consistent t.state.mStatePtr t.state.mSubscribers
  listed : ∀ s ∈ t.state.mSubscribers, ∃ a ∈ known, s = a.subscriber

section Step

variable {known : List Address} {t : Traced AgpsStateMachine Entry}

theorem denoted_ne_nil {a : Address} {l : List Subscriber} :
    denoted a l ≠ [] ↔ ∃ s ∈ l, SameAddress (addressOf s) a := by
  simp [denoted, List.filter_eq_nil_iff]

theorem SameAddress.congr {a b c : Address} (h : SameAddress a b) :
    SameAddress c a ↔ SameAddress c b := by
  constructor
  · rintro ⟨hipv4, hipv6⟩
    refine ⟨hipv4.trans h.1, fun hnone => ?_⟩
    exact (hipv6 hnone).trans (h.2 (hipv4 ▸ hnone))
  · rintro ⟨hipv4, hipv6⟩
    refine ⟨hipv4.trans h.1.symm, fun hnone => ?_⟩
    exact (hipv6 hnone).trans (h.2 (h.1.trans (hipv4.symm.trans hnone))).symm

/-- Among addresses that are not confusable, the search of the list goes by the address. -/
theorem Clients.equals_iff (h : Clients known t)
    (hknown : ∀ a ∈ known, ∀ b ∈ known, ¬Confusable a b) {s : Subscriber} {a : Address}
    (hs : s ∈ t.state.mSubscribers) (ha : a ∈ known) :
    s.equals a.subscriber = true ↔ SameAddress (addressOf s) a := by
  obtain ⟨b, hb, rfl⟩ := h.listed s hs
  exact (equals_iff_same b a).mpr (hknown b hb a ha)

/-- What a request leaves in the list. -/
theorem list_request (h : Clients known t) (a : Address) :
    (bitStep t (.request a)).state.mSubscribers =
      if t.state.mEnforceSingleSubscriber = true ∧ t.state.mSubscribers ≠ [] then
        t.state.mSubscribers
      else
        added a.subscriber t.state.mSubscribers := by
  split
  case isTrue hrefuse =>
    have hm : ({ t.state with effects := [] } : AgpsStateMachine).effects = [] := rfl
    have hview := view_refused hm (by simpa [hasSubscribers] using hrefuse) a.subscriber
    exact congrArg View.mSubscribers hview
  case isFalse htaken =>
    exact added_of_moves (steps_machine h.consistent (.subscribeRsrc a.subscriber)).1 htaken

/-- What a release leaves in the list. -/
theorem list_release (h : Clients known t) (a : Address) :
    (bitStep t (.release a)).state.mSubscribers = t.state.mSubscribers ∧
        (∀ s ∈ t.state.mSubscribers, s.equals a.subscriber = false) ∨
      ∃ x ∈ t.state.mSubscribers, x.equals a.subscriber = true ∧
        (bitStep t (.release a)).state.mSubscribers =
          t.state.mSubscribers.filter (!·.equals x) := by
  apply left_of_moves (steps_machine h.consistent (.unsubscribeRsrc a.subscriber)).1
  intro x hx
  obtain ⟨b, -, rfl⟩ := h.listed x hx
  rfl

theorem clients_step (h : Clients known t) {input : BitInput}
    (hinput : ∀ a, input.address = some a → a ∈ known) : Clients known (bitStep t input) := by
  have hmoves := (steps_machine h.consistent input.proc).1
  refine ⟨consistent_of_moves h.consistent hmoves, ?_⟩
  intro s hs
  cases input with
  | request a =>
      rw [list_request h] at hs
      split at hs
      · exact h.listed s hs
      · unfold added at hs
        split at hs
        · exact h.listed s hs
        · rcases List.mem_cons.mp hs with rfl | hs
          · exact ⟨a, hinput a rfl, rfl⟩
          · exact h.listed s hs
  | release a =>
      rcases list_release h a with ⟨hlist, -⟩ | ⟨x, -, -, hlist⟩
      · exact h.listed s (hlist ▸ hs)
      · rw [hlist] at hs
        exact h.listed s (List.mem_filter.mp hs).1
  | onRsrcEvent event => exact h.listed s (kept_of_moves hmoves hs)

/-- Where the addresses are not confusable, a machine goes by them in each step that does
not turn a new client away. -/
theorem goesByAddress_iff (h : Clients known t)
    (hknown : ∀ a ∈ known, ∀ b ∈ known, ¬Confusable a b) {input : BitInput}
    (hinput : ∀ a, input.address = some a → a ∈ known) :
    GoesByAddress t input ↔ TakesClient t input := by
  cases input with
  | request a =>
      have hany : t.state.mSubscribers.any (·.equals a.subscriber) =
          decide (denoted a t.state.mSubscribers ≠ []) := by
        rw [Bool.eq_iff_iff, List.any_eq_true, decide_eq_true_iff, denoted_ne_nil]
        apply exists_congr
        intro s
        apply and_congr_right
        intro hs
        exact h.equals_iff hknown hs (hinput a rfl)
      simp only [GoesByAddress, TakesClient, list_request h, added, hany]
      by_cases hnew : denoted a t.state.mSubscribers = []
      · by_cases hrefuse : t.state.mEnforceSingleSubscriber = true ∧ t.state.mSubscribers ≠ []
        · simp [hnew, hrefuse]
        · apply iff_of_true
          · simp only [hnew, hrefuse, ne_eq, not_true, decide_false, if_false, if_true]
            rfl
          · intro henforce hl
            exact absurd ⟨henforce, hl⟩ hrefuse
      · simp [hnew]
  | release a =>
      apply iff_of_true _ trivial
      have hequals {s : Subscriber} (hs : s ∈ t.state.mSubscribers) :=
        h.equals_iff hknown hs (hinput a rfl)
      rcases list_release h a with ⟨hlist, hnone⟩ | ⟨x, hx, heq, hlist⟩
      · apply hlist.trans
        symm
        apply List.filter_eq_self.mpr
        intro s hs
        have hdiffers := hnone s hs
        rw [← Bool.not_eq_true, hequals hs] at hdiffers
        exact decide_eq_true hdiffers
      · apply hlist.trans
        apply List.filter_congr
        intro s hs
        obtain ⟨b, hb, rfl⟩ := h.listed x hx
        have hsame : SameAddress b a := (hequals hx).mp heq
        rw [Bool.eq_iff_iff, Bool.not_eq_true', ← Bool.not_eq_true, decide_eq_true_iff,
          h.equals_iff hknown hs hb]
        exact not_congr hsame.congr
  | onRsrcEvent event => exact Iff.rfl

theorem goesByAddress_run {inputs : List BitInput} (h : Clients known t)
    (hknown : ∀ a ∈ known, ∀ b ∈ known, ¬Confusable a b)
    (hinputs : ∀ a ∈ addresses inputs, a ∈ known) :
    Meets bitStep GoesByAddress t inputs ↔ Meets bitStep TakesClient t inputs := by
  induction inputs generalizing t with
  | nil => exact Iff.rfl
  | cons input rest ih =>
      have hinput (a : Address) (ha : input.address = some a) : a ∈ known :=
        hinputs a (List.mem_filterMap.mpr ⟨input, List.mem_cons_self, ha⟩)
      have hrest (a : Address) (ha : a ∈ addresses rest) : a ∈ known := by
        obtain ⟨other, hother, ha⟩ := List.mem_filterMap.mp ha
        exact hinputs a (List.mem_filterMap.mpr ⟨other, List.mem_cons_of_mem _ hother, ha⟩)
      rw [Meets, Meets, goesByAddress_iff h hknown hinput, ih (clients_step h hinput) hrest]

end Step

/-- A machine with BIT clients tells them apart by their addresses and lists and drops them
accordingly in every step of a run exactly if no two addresses of the run share a zero byte
before they differ and it has no client that keeps a new one out. -/
theorem bit_clients_by_address (type : AGpsExtType) (enforce : Bool) (inputs : List BitInput) :
    (∀ a ∈ addresses inputs, ∀ b ∈ addresses inputs,
        (a.subscriber.equals b.subscriber = true ↔ SameAddress a b)) ∧
      Meets bitStep GoesByAddress (start type enforce) inputs ↔
    (∀ a ∈ addresses inputs, ∀ b ∈ addresses inputs, ¬Confusable a b) ∧
      Meets bitStep TakesClient (start type enforce) inputs := by
  simp only [equals_iff_same]
  apply and_congr_right
  intro hknown
  have hstart : Clients (addresses inputs) (start type enforce) := ⟨rfl, by simp [start, new]⟩
  exact goesByAddress_run hstart hknown (fun a ha => ha)

/-- fe80::1 and fe80::2 -/
def linkLocal (last : UInt8) : Address :=
  ⟨inaddrNone, #v[0xFE, 0x80, 0, 0, 0, 0, 0, 0, 0, 0, 0, 0, 0, 0, 0, last]⟩

/-- The second client is taken for the first one: its request does not list it, and its
release removes the first one. -/
theorem link_local_clients_mixed_up :
    (¬SameAddress (linkLocal 1) (linkLocal 2) ∧
        (linkLocal 1).subscriber.equals (linkLocal 2).subscriber = true) ∧
      ¬Meets bitStep GoesByAddress (start .supl false)
        [.request (linkLocal 1), .request (linkLocal 2)] ∧
      ¬Meets bitStep GoesByAddress (start .supl false)
        [.request (linkLocal 1), .onRsrcEvent .granted, .release (linkLocal 2)] := by
  decide +kernel

end G2Common.Agps.Nif
