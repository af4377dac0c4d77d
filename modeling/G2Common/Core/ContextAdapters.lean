import G2Common.Core.Contexts

/-!
What a restart of the engine, a request of the engine and the start of the message thread come to
for those who use the contexts: the adapters that are registered with a context, and the callers
that give a function for the thread.
-/

namespace G2Common.Core

open Transition

namespace LocApiBase

variable {A : Type*}

/-- A table passes a call to its adapters in order until one handles it. -/
theorem toFirstHandling_table (handles : A → Bool) (adapters : List A) (n : Nat) :
    ∃ rest, adapters = toFirstHandling handles
        (adapters.map some ++ List.replicate n none) ++ rest ∧
      (toFirstHandling handles (adapters.map some ++ List.replicate n none)).countP
        handles = (adapters.any handles).toNat ∧
      (adapters.any handles = false → rest = []) := by
  induction adapters with
  | nil =>
      cases n with
      | zero => exact ⟨[], rfl, rfl, fun _ => rfl⟩
      | succ n => exact ⟨[], rfl, rfl, fun _ => rfl⟩
  | cons adapter adapters ih =>
      obtain ⟨rest, hrest, hcount, hall⟩ := ih
      rw [List.map_cons, List.cons_append, toFirstHandling, List.any_cons]
      cases hhandles : handles adapter with
      | true =>
          refine ⟨adapters, rfl, ?_, ?_⟩
          · rw [if_pos rfl, List.countP_singleton, if_pos hhandles]
            rfl
          · intro h
            cases h
      | false =>
          rw [if_neg Bool.false_ne_true]
          refine ⟨rest, ?_, ?_, hall⟩
          · rw [List.cons_append, ← hrest]
          · rw [List.countP_cons, hcount, hhandles]
            rfl

end LocApiBase

section Adapters

variable {A T : Type} {kind : ContextKind}

/-- The adapter that is told that its engine is up. -/
def ContextEffect.upTo : ContextEffect A T → Option A
  | .handleEngineUpEvent adapter => some adapter
  | _ => none

/-- The calls that change the table of a context. -/
def ContextInput.call (kind : ContextKind) : ContextInput A T → Option (LocApiBase.Input A)
  | .addAdapter other adapter evtMask =>
      if other = kind then some (.addAdapter adapter evtMask) else none
  | .removeAdapter other adapter evtMask =>
      if other = kind then some (.removeAdapter adapter evtMask) else none
  | _ => none

theorem call_append (given : List (ContextInput A T)) (input : ContextInput A T)
    (kind : ContextKind) : (given ++ [input]).filterMap (ContextInput.call kind) =
      given.filterMap (ContextInput.call kind) ++ (input.call kind).toList := by
  rw [List.filterMap_append]
  cases h : input.call kind with
  | none => rw [List.filterMap_cons_none h, List.filterMap_nil]; rfl
  | some call => rw [List.filterMap_cons_some h, List.filterMap_nil]; rfl

variable [DecidableEq A]

/-- The adapters that are registered with a context. -/
def registeredWith (kind : ContextKind) (inputs : List (ContextInput A T)) : Finset A :=
  LocApiBase.registered (inputs.filterMap (ContextInput.call kind))

/-- The table of a context is what its calls make of it. -/
structure Tables (t : LocDualContext.ContextRun A T) (given : List (ContextInput A T)) :
    Prop where
  made : ∀ kind context, t.state.context kind = some context →
    context.mLocApi = LocApiBase.after kind.exclMask (given.filterMap (ContextInput.call kind))
  none : ∀ kind, t.state.context kind = none → given.filterMap (ContextInput.call kind) = []

namespace LocDualContext

variable {s : LocDualContext A T} {t : ContextRun A T} {given : List (ContextInput A T)}

/-- What calls no table keeps all tables. -/
theorem tables_frame (ht : Tables t given) {s' : LocDualContext A T}
    (log : List (ContextEffect A T)) {input : ContextInput A T}
    (hcontext : s'.context = t.state.context) (hcall : ∀ kind, input.call kind = none) :
    Tables ⟨s', log⟩ (given ++ [input]) := by
  constructor
  · intro kind context h
    rw [hcontext] at h
    rw [call_append, hcall, ht.made kind context h, Option.toList_none, List.append_nil]
  · intro kind h
    rw [hcontext] at h
    rw [call_append, hcall, ht.none kind h]
    rfl

theorem tables_getLocContext (ht : Tables t given) (kind : ContextKind) (starter : Starter T)
    (log : List (ContextEffect A T)) :
    Tables ⟨(t.state.getLocContext kind starter).1, log⟩
      (given ++ [.getLocContext kind starter]) := by
  cases h : t.state.context kind with
  | some context =>
      apply tables_frame ht log _ fun _ => rfl
      rw [getLocContext, makeContext, h]
      dsimp only
      split
      all_goals rfl
  | none =>
      obtain ⟨address, task, -, -, -, -, -, hcontexts, -⟩ := getLocContext_new starter h
      constructor
      · intro other context hother
        dsimp only at hother
        rw [hcontexts] at hother
        rw [call_append]
        by_cases hne : other = kind
        · rw [hne, Function.update_self] at hother
          cases hother
          rw [hne, ht.none kind h]
          rfl
        · rw [Function.update_of_ne hne] at hother
          rw [ht.made other context hother]
          exact congrArg _ (List.append_nil _).symm
      · intro other hother
        dsimp only at hother
        rw [hcontexts] at hother
        by_cases hne : other = kind
        · rw [hne, Function.update_self] at hother
          cases hother
        · rw [Function.update_of_ne hne] at hother
          rw [call_append, ht.none other hother]
          rfl

theorem tables_callApi (ht : Tables t given) {kind : ContextKind} {context : ContextBase A}
    {input : ContextInput A T} (call : LocApiBase.Input A) (log : List (ContextEffect A T))
    (hself : input.call kind = some call) (hother : ∀ other, other ≠ kind → input.call other = none)
    (h : t.state.context kind = some context) :
    Tables ⟨(t.state.callApi kind context (context.mLocApi.machine call)).1, log⟩
      (given ++ [input]) := by
  constructor
  · intro other context' hcontext
    rw [call_append]
    by_cases hne : other = kind
    · rw [hne, callApi, setContext] at hcontext
      dsimp only at hcontext
      rw [Function.update_self] at hcontext
      cases hcontext
      rw [hne, hself, ht.made kind context h, LocApiBase.after, LocApiBase.after,
        Option.toList_some, run_append]
      rfl
    · rw [callApi, setContext] at hcontext
      dsimp only at hcontext
      rw [Function.update_of_ne hne] at hcontext
      rw [hother other hne, ht.made other context' hcontext, Option.toList_none, List.append_nil]
  · intro other hcontext
    rw [callApi, setContext] at hcontext
    dsimp only at hcontext
    by_cases hne : other = kind
    · rw [hne, Function.update_self] at hcontext
      cases hcontext
    · rw [Function.update_of_ne hne] at hcontext
      rw [call_append, hother other hne, ht.none other hcontext]
      rfl

theorem tables_step (t : ContextRun A T) (input : ContextInput A T)
    (given : List (ContextInput A T)) (ht : Tables t given) (hmade : Made t input) :
    Tables (step t input) (given ++ [input]) := by
  rw [step, Traced.step]
  cases input with
  | getLocContext kind starter => exact tables_getLocContext ht kind starter _
  | addAdapter kind adapter evtMask =>
      obtain ⟨context, h⟩ := Option.isSome_iff_exists.mp hmade
      rw [machine, h]
      apply tables_callApi ht (.addAdapter adapter evtMask) _ _ _ h
      · exact if_pos rfl
      · intro other hne
        exact if_neg hne.symm
  | removeAdapter kind adapter evtMask =>
      obtain ⟨context, h⟩ := Option.isSome_iff_exists.mp hmade
      rw [machine, h]
      apply tables_callApi ht (.removeAdapter adapter evtMask) _ _ _ h
      · exact if_pos rfl
      · intro other hne
        exact if_neg hne.symm
  | handleEngineUpEvent kind =>
      apply tables_frame ht _ _ fun _ => rfl
      rw [machine]
      split
      all_goals rfl
  | request kind handles => exact tables_frame ht _ rfl fun _ => rfl
  | msgTask evtMask =>
      apply tables_frame ht _ _ fun _ => rfl
      rw [machine]
      split
      all_goals rfl

end LocDualContext

/-- What happens to a context in this state: a restart of its engine is told to each adapter once,
and opens the engine for their events; and a request is passed on until one adapter takes it. -/
structure Reaches (s : LocDualContext A T) (kind : ContextKind) (registered : Finset A) : Prop where
  told : ∀ adapter, ((s.machine (.handleEngineUpEvent kind)).2.filterMap
    ContextEffect.upTo).count adapter = if adapter ∈ registered then 1 else 0
  opened : ∀ evtMask, s.proc evtMask (.locSsrMsg kind) =
    [.closed kind, .opened kind (LocApiBase.unionMask evtMask registered &&& ~~~ kind.exclMask)]
  asked : ∀ handles, ∃ adapters : List A,
    (s.machine (.request kind handles)).2 = adapters.map .asked ∧ adapters.Nodup ∧
      (∀ adapter ∈ adapters, adapter ∈ registered) ∧
      adapters.countP handles = (if ∃ adapter ∈ registered, handles adapter = true then 1 else 0) ∧
      ((∀ adapter ∈ registered, handles adapter = false) → adapters.toFinset = registered)

theorem reaches_of_holds {s : LocDualContext A T} {context : ContextBase A}
    {registered : Finset A} {adapters : List A} (hcontext : s.context kind = some context)
    (h : LocApiBase.Holds kind.exclMask context.mLocApi registered adapters) :
    Reaches s kind registered := by
  obtain ⟨htable, hlength, hnodup, rfl⟩ := h
  have hadapters : LocApiBase.toAllAdapters context.mLocApi.mLocAdapters = adapters := by
    rw [htable, LocApiBase.toAllAdapters_table]
  constructor
  · intro adapter
    have hinjects : (s.injectFeatureConfig context.address).filterMap ContextEffect.upTo = [] := by
      rw [List.filterMap_eq_nil_iff]
      intro effect heffect
      rw [LocDualContext.mem_injectFeatureConfig heffect]
      rfl
    have hup : (adapters.map (fun adapter => (ContextEffect.handleEngineUpEvent adapter :
        ContextEffect A T))).filterMap ContextEffect.upTo = adapters := by
      rw [List.filterMap_map]
      exact List.filterMap_some
    rw [LocDualContext.machine, hcontext]
    dsimp only
    rw [LocDualContext.handleEngineUpEvent, List.filterMap_append, hinjects, hadapters, hup,
      List.nil_append, hnodup.count]
    simp only [List.mem_toFinset]
  · intro evtMask
    rw [LocDualContext.proc, hcontext, Option.toList_some, List.flatMap_singleton, htable,
      LocApiBase.getEvtMask_table evtMask hnodup]
  · intro handles
    obtain ⟨rest, hrest, hcount, hall⟩ := LocApiBase.toFirstHandling_table handles adapters
      (MAX_ADAPTERS - adapters.length)
    have hasked : (s.machine (.request kind handles)).2 =
        (LocApiBase.toFirstHandling handles (LocApiBase.table adapters)).map .asked := by
      rw [LocDualContext.machine, hcontext, Option.toList_some, List.flatMap_singleton, htable]
    rw [LocApiBase.table] at hasked
    generalize LocApiBase.toFirstHandling handles _ = asked at hrest hcount hasked
    refine ⟨asked, hasked, ?_, ?_, ?_, ?_⟩
    · rw [hrest] at hnodup
      exact hnodup.sublist (List.sublist_append_left asked rest)
    · intro adapter hadapter
      rw [List.mem_toFinset, hrest]
      exact List.mem_append_left rest hadapter
    · rw [hcount]
      split
      case isTrue hany =>
        obtain ⟨adapter, hadapter, hhandles⟩ := hany
        rw [List.any_eq_true.mpr ⟨adapter, List.mem_toFinset.mp hadapter, hhandles⟩]
        rfl
      case isFalse hnone =>
        rw [List.any_eq_false.mpr]
        · rfl
        · intro adapter hadapter hhandles
          exact hnone ⟨adapter, List.mem_toFinset.mpr hadapter, hhandles⟩
    · intro hnone
      have hany : adapters.any handles = false := by
        rw [List.any_eq_false]
        intro adapter hadapter
        rw [hnone adapter (List.mem_toFinset.mpr hadapter)]
        exact Bool.false_ne_true
      rw [hrest, hall hany, List.append_nil]

/-- In every state that the calls lead to, each adapter that is registered with a context is
reached. -/
theorem adapters_reached (inputs : List (ContextInput A T))
    (h : Meets LocDualContext.step Made LocDualContext.start inputs)
    (hfits : ∀ kind, Meets LocApiBase.register LocApiBase.Fits ∅
      (inputs.filterMap (ContextInput.call kind))) (kind : ContextKind) :
    let t := run LocDualContext.step (LocDualContext.start : LocDualContext.ContextRun A T) inputs
    (t.state.context kind).isSome → Reaches t.state kind (registeredWith kind inputs) := by
  intro t hsome
  obtain ⟨context, hcontext⟩ := Option.isSome_iff_exists.mp hsome
  have hstart : Tables (LocDualContext.start : LocDualContext.ContextRun A T) [] := by
    constructor
    · intro kind context hcontext
      cases hcontext
    · intro kind _
      rfl
  have ht : Tables t ([] ++ contributions LocDualContext.step (fun _ input => [input])
      LocDualContext.start inputs) :=
    run_contributions (fun t input given ht hmade =>
      LocDualContext.tables_step t input given ht hmade) hstart h
  rw [contributions_eq_flatMap, List.flatMap_singleton', List.nil_append] at ht
  have hinit : LocApiBase.Holds kind.exclMask (LocApiBase.init kind.exclMask : LocApiBase A) ∅ [] :=
    ⟨rfl, Nat.zero_le _, List.nodup_nil, rfl⟩
  obtain ⟨adapters, hholds⟩ := LocApiBase.run_holds hinit (hfits kind)
  apply reaches_of_holds hcontext
  rw [ht.made kind context hcontext]
  exact hholds

end Adapters

/-- Two adapters of the foreground. -/
def twoRegistered : List (ContextInput Nat Nat) :=
  [.getLocContext .fg (.create none), .addAdapter .fg 7 fun _ => 1, .addAdapter .fg 8 fun _ => 2]

theorem adapters_reached_two :
    Reaches (run LocDualContext.step (LocDualContext.start : LocDualContext.ContextRun Nat Nat)
      twoRegistered).state .fg (registeredWith .fg twoRegistered) := by
  apply adapters_reached twoRegistered ⟨trivial, rfl, rfl, trivial⟩ _ .fg rfl
  intro kind
  cases kind
  · change Meets LocApiBase.register LocApiBase.Fits ∅
      [LocApiBase.Input.addAdapter 7 fun _ => 1, .addAdapter 8 fun _ => 2]
    simp only [Meets, LocApiBase.Fits, LocApiBase.register]
    decide
  · trivial

section Associators

variable {A T : Type}

def ContextEffect.tAssociate : ContextEffect A T → Option T
  | .associated tAssociate => some tAssociate
  | _ => none

def Work.tAssociate : Work T → Option T
  | .associate tAssociate => some tAssociate
  | _ => none

/-- The function that a caller gives, if its call makes the context. -/
def givenBy (t : LocDualContext.ContextRun A T) : ContextInput A T → List T
  | .getLocContext kind (.associate tAssociate) =>
      if t.state.context kind = none then tAssociate.toList else []
  | _ => []

theorem tAssociate_works (starter : Starter T) :
    starter.works.filterMap Work.tAssociate =
      match starter with
      | .create _ => []
      | .associate tAssociate => tAssociate.toList := by
  cases starter with
  | create => rfl
  | associate tAssociate =>
      cases tAssociate
      all_goals rfl

/-- What a thread is given to do is called or waits. -/
def Calls (t : LocDualContext.ContextRun A T) (given : List T) : Prop :=
  t.log.filterMap ContextEffect.tAssociate ++ t.state.queue.filterMap Work.tAssociate = given

theorem Calls.frame {t : LocDualContext.ContextRun A T} {given : List T} (hc : Calls t given)
    {s' : LocDualContext A T} {effects : List (ContextEffect A T)} (works : List (Work T))
    (heffects : effects.filterMap ContextEffect.tAssociate = [])
    (hqueue : s'.queue = t.state.queue ++ works) :
    Calls ⟨s', t.log ++ effects⟩ (given ++ works.filterMap Work.tAssociate) := by
  rw [Calls] at hc ⊢
  rw [List.filterMap_append, heffects, List.append_nil, hqueue, List.filterMap_append,
    ← List.append_assoc, hc]

theorem calls_getLocContext {t : LocDualContext.ContextRun A T} {given : List T}
    (hc : Calls t given) (kind : ContextKind) (starter : Starter T) :
    Calls ⟨(t.state.getLocContext kind starter).1, t.log ++ (t.state.getLocContext kind starter).2⟩
      (given ++ givenBy t (.getLocContext kind starter)) := by
  cases h : t.state.context kind with
  | some context =>
      have hgiven : givenBy t (.getLocContext kind starter) = [] := by
        cases starter with
        | create => rfl
        | associate tAssociate =>
            rw [givenBy, h]
            rfl
      rw [hgiven]
      apply hc.frame []
      · rw [LocDualContext.getLocContext, LocDualContext.makeContext, h]
        dsimp only
        split
        · rw [LocDualContext.injectFeatureConfig]
          split
          all_goals rfl
        · rfl
      · rw [LocDualContext.getLocContext, LocDualContext.makeContext, h]
        dsimp only
        split
        all_goals exact (List.append_nil _).symm
  | none =>
      obtain ⟨address, task, -, -, -, -, -, -, hqueue, heffects⟩ :=
        LocDualContext.getLocContext_new starter h
      have hgiven : givenBy t (.getLocContext kind starter) =
          starter.works.filterMap Work.tAssociate := by
        rw [tAssociate_works]
        cases starter with
        | create => rfl
        | associate tAssociate => exact if_pos h
      rw [hgiven]
      apply hc.frame starter.works
      · rw [heffects]
        split
        all_goals split
        all_goals rfl
      · exact hqueue

theorem calls_callApi {t : LocDualContext.ContextRun A T} {given : List T} (hc : Calls t given)
    (kind : ContextKind) (context : ContextBase A)
    (result : LocApiBase A × List LocApiBase.Call) :
    Calls ⟨(t.state.callApi kind context result).1,
      t.log ++ (t.state.callApi kind context result).2⟩ (given ++ []) := by
  have hworks : (result.2.filterMap (LocDualContext.sent kind)).filterMap
      (Work.tAssociate (T := T)) = [] := by
    rw [List.filterMap_filterMap, List.filterMap_eq_nil_iff]
    intro call _
    cases call
    all_goals rfl
  rw [← hworks]
  apply hc.frame
  · rw [LocDualContext.callApi, List.filterMap_filterMap, List.filterMap_eq_nil_iff]
    intro call _
    cases call
    all_goals rfl
  · rfl

theorem calls_step [DecidableEq A] (t : LocDualContext.ContextRun A T) (input : ContextInput A T)
    (given : List T) (hc : Calls t given) :
    Calls (LocDualContext.step t input) (given ++ givenBy t input) := by
  have hnothing : Calls ⟨t.state, t.log ++ []⟩ (given ++ []) :=
    hc.frame [] rfl (List.append_nil _).symm
  rw [LocDualContext.step, Traced.step]
  cases input with
  | getLocContext kind starter => exact calls_getLocContext hc kind starter
  | addAdapter kind adapter evtMask =>
      rw [LocDualContext.machine]
      cases t.state.context kind with
      | none => exact hnothing
      | some context => exact calls_callApi hc kind context _
  | removeAdapter kind adapter evtMask =>
      rw [LocDualContext.machine]
      cases t.state.context kind with
      | none => exact hnothing
      | some context => exact calls_callApi hc kind context _
  | handleEngineUpEvent kind =>
      rw [LocDualContext.machine]
      cases t.state.context kind with
      | none => exact hnothing
      | some context =>
          apply hc.frame [.locSsrMsg kind] _ rfl
          rw [List.filterMap_eq_nil_iff]
          intro effect heffect
          rcases List.mem_append.mp heffect with hinjects | hadapter
          · rw [LocDualContext.mem_injectFeatureConfig hinjects]
            rfl
          · obtain ⟨adapter, -, rfl⟩ := List.mem_map.mp hadapter
            rfl
  | request kind handles =>
      apply hc.frame [] _ (List.append_nil _).symm
      rw [List.filterMap_eq_nil_iff]
      intro effect heffect
      obtain ⟨context, -, hasked⟩ := List.mem_flatMap.mp heffect
      obtain ⟨adapter, -, rfl⟩ := List.mem_map.mp hasked
      rfl
  | msgTask evtMask =>
      rw [LocDualContext.machine]
      cases hqueue : t.state.queue with
      | nil => exact hnothing
      | cons work queue =>
          have hproc : (t.state.proc evtMask work).filterMap ContextEffect.tAssociate =
              [work].filterMap Work.tAssociate := by
            cases work with
            | associate => rfl
            | locOpenMsg => rfl
            | locSsrMsg kind =>
                rw [LocDualContext.proc]
                cases t.state.context kind
                all_goals rfl
          rw [Calls] at hc ⊢
          rw [List.filterMap_append, hproc, List.append_assoc, ← List.filterMap_append,
            List.singleton_append, ← hqueue, hc]
          exact (List.append_nil given).symm

/-- A function that is given for the message thread is called on it once, and in order, if the
call it came with made a context, and never otherwise. -/
theorem associators_called [DecidableEq A] (inputs : List (ContextInput A T)) :
    let t := run LocDualContext.step (LocDualContext.start : LocDualContext.ContextRun A T) inputs
    t.log.filterMap ContextEffect.tAssociate ++ t.state.queue.filterMap Work.tAssociate =
      contributions LocDualContext.step givenBy LocDualContext.start inputs := by
  intro t
  have hstart : Calls (LocDualContext.start : LocDualContext.ContextRun A T) [] := rfl
  exact run_contributions (fun t input given hc _ => calls_step t input given hc) hstart
    (meets_true _ _ inputs)

end Associators

end G2Common.Core
