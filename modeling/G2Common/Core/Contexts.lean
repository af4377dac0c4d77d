import G2Common.Core.LocApiBase
import G2Common.Progress
import Mathlib.Logic.Function.Basic

/-!
The two contexts of `LocDualContext.cpp`, one for the foreground and one for the background, with
the adapters that are registered with each. They are made when they are first asked for, and share
one message thread. The libraries that a context loads are not part of the repository; what they
are asked for is.
-/

namespace G2Common.Core

open Transition

inductive ContextKind where
  | fg | bg
  deriving DecidableEq, Repr

def mFgExclMask : UInt32 := 0

/-- The reports of positions, satellites, NMEA sentences, `ioctl`s, the status and geofences. -/
def mBgExclMask : UInt32 := 0x418F

def ContextKind.exclMask : ContextKind → UInt32
  | .fg => mFgExclMask
  | .bg => mBgExclMask

/-- A context at its address. -/
structure ContextBase (A : Type*) where
  address : Nat
  mMsgTask : Nat
  mLocApi : LocApiBase A

/-- How the message thread is to be started: by a function of the caller, or with one that it
calls first. Either may be `NULL`. -/
inductive Starter (T : Type*) where
  | create (tCreator : Option T)
  | associate (tAssociate : Option T)

/-- What the message thread has to do. -/
inductive Work (T : Type*) where
  | associate (tAssociate : T)
  | locOpenMsg (kind : ContextKind) (mask : UInt32)
  | locSsrMsg (kind : ContextKind)

def Starter.creator {T : Type*} : Starter T → Option T
  | .create tCreator => tCreator
  | .associate _ => none

/-- What a thread is given to do, at its start or later. -/
def Starter.works {T : Type*} : Starter T → List (Work T)
  | .create _ => []
  | .associate tAssociate => tAssociate.toList.map .associate

/-- The calls out of the contexts, and the context that a caller gets. -/
inductive ContextEffect (A T : Type*) where
  | createThread (tCreator : Option T)
  | associated (tAssociate : T)
  | returned (kind : ContextKind) (address : Nat)
  | injectFeatureConfig (address : Nat)
  | opened (kind : ContextKind) (mask : UInt32)
  | closed (kind : ContextKind)
  | handleEngineUpEvent (adapter : A)
  | asked (adapter : A)

/-- The static members of `LocDualContext`, where `context` has `mFgContext` and `mBgContext`.
The objects have addresses below `allocated`. -/
structure LocDualContext (A T : Type*) where
  mMsgTask : Option Nat
  context : ContextKind → Option (ContextBase A)
  mInjectContext : Option Nat
  allocated : Nat
  queue : List (Work T)

/-- A request tells which adapters would handle it. The masks are those at the time. -/
inductive ContextInput (A T : Type*) where
  | getLocContext (kind : ContextKind) (starter : Starter T)
  | addAdapter (kind : ContextKind) (adapter : A) (evtMask : A → UInt32)
  | removeAdapter (kind : ContextKind) (adapter : A) (evtMask : A → UInt32)
  | handleEngineUpEvent (kind : ContextKind)
  | request (kind : ContextKind) (handles : A → Bool)
  | msgTask (evtMask : A → UInt32)

namespace LocApiBase

variable {A : Type*}

/-- The adapters that `TO_1ST_HANDLING_ADAPTER` calls, up to the one that handles the call. -/
def toFirstHandling (handles : A → Bool) : List (Option A) → List A
  | some adapter :: rest =>
      adapter :: if handles adapter then [] else toFirstHandling handles rest
  | _ => []

end LocApiBase

namespace LocDualContext

variable {A T : Type}

def setContext (s : LocDualContext A T) (kind : ContextKind) (context : ContextBase A) :
    LocDualContext A T :=
  { s with context := Function.update s.context kind (some context) }

/-- `getMsgTask`, for either way to start the thread. -/
def getMsgTask (s : LocDualContext A T) (starter : Starter T) :
    LocDualContext A T × Nat × List (ContextEffect A T) :=
  match s.mMsgTask with
  | none =>
      ({ s with
          mMsgTask := some s.allocated
          allocated := s.allocated + 1
          queue := s.queue ++ starter.works }, s.allocated, [.createThread starter.creator])
  | some mMsgTask => ({ s with queue := s.queue ++ starter.works }, mMsgTask, [])

/-- The proxy of the context is asked only for the context that injects. -/
def injectFeatureConfig (s : LocDualContext A T) (curContext : Nat) :
    List (ContextEffect A T) :=
  if s.mInjectContext = some curContext then [.injectFeatureConfig curContext] else []

/-- The part of the four functions that makes the context. -/
def makeContext (s : LocDualContext A T) (kind : ContextKind) (starter : Starter T) :
    LocDualContext A T × ContextBase A × List (ContextEffect A T) :=
  match s.context kind with
  | some context => (s, context, [])
  | none =>
      let (s, msgTask, effects) := s.getMsgTask starter
      let context := ⟨s.allocated, msgTask, LocApiBase.init kind.exclMask⟩
      ({ s with allocated := s.allocated + 1 }.setContext kind context, context, effects)

/-- `getLocFgContext` and `getLocBgContext`, each for both ways to start the thread. -/
def getLocContext (s : LocDualContext A T) (kind : ContextKind) (starter : Starter T) :
    LocDualContext A T × List (ContextEffect A T) :=
  let (s, context, effects) := s.makeContext kind starter
  if s.mInjectContext = none then
    let s := { s with mInjectContext := some context.address }
    (s, effects ++ s.injectFeatureConfig context.address ++ [.returned kind context.address])
  else (s, effects ++ [.returned kind context.address])

def getLocFgContext (s : LocDualContext A T) (starter : Starter T) :=
  s.getLocContext .fg starter

def getLocBgContext (s : LocDualContext A T) (starter : Starter T) :=
  s.getLocContext .bg starter

/-- The message that a call of the table of adapters sends to the thread. -/
def sent (kind : ContextKind) : LocApiBase.Call → Option (Work T)
  | .locOpenMsg mask => some (.locOpenMsg kind mask)
  | .close => none

/-- The call of the table of adapters that does not wait for the thread. -/
def called (kind : ContextKind) : LocApiBase.Call → Option (ContextEffect A T)
  | .locOpenMsg _ => none
  | .close => some (.closed kind)

/-- A call of the table of adapters, whose messages go to the shared thread. -/
def callApi (s : LocDualContext A T) (kind : ContextKind) (context : ContextBase A)
    (result : LocApiBase A × List LocApiBase.Call) :
    LocDualContext A T × List (ContextEffect A T) :=
  ({ s.setContext kind { context with mLocApi := result.1 } with
      queue := s.queue ++ result.2.filterMap (sent kind) },
    result.2.filterMap (called kind))

/-- `LocApiBase::handleEngineUpEvent`. -/
def handleEngineUpEvent (s : LocDualContext A T) (kind : ContextKind) (context : ContextBase A) :
    LocDualContext A T × List (ContextEffect A T) :=
  ({ s with queue := s.queue ++ [.locSsrMsg kind] },
    s.injectFeatureConfig context.address ++
      (LocApiBase.toAllAdapters context.mLocApi.mLocAdapters).map .handleEngineUpEvent)

/-- `proc` of the messages. -/
def proc (s : LocDualContext A T) (evtMask : A → UInt32) : Work T → List (ContextEffect A T)
  | .associate tAssociate => [.associated tAssociate]
  | .locOpenMsg kind mask => [.opened kind mask]
  | .locSsrMsg kind =>
      (s.context kind).toList.flatMap fun context =>
        [.closed kind, .opened kind (context.mLocApi.getEvtMask evtMask)]

/-- Nothing calls a context before it is made. -/
def machine [DecidableEq A] (s : LocDualContext A T) :
    ContextInput A T → LocDualContext A T × List (ContextEffect A T)
  | .getLocContext kind starter => s.getLocContext kind starter
  | .addAdapter kind adapter evtMask =>
      match s.context kind with
      | some context => s.callApi kind context (context.mLocApi.addAdapter adapter evtMask)
      | none => (s, [])
  | .removeAdapter kind adapter evtMask =>
      match s.context kind with
      | some context => s.callApi kind context (context.mLocApi.removeAdapter adapter evtMask)
      | none => (s, [])
  | .handleEngineUpEvent kind =>
      match s.context kind with
      | some context => s.handleEngineUpEvent kind context
      | none => (s, [])
  | .request kind handles =>
      (s, (s.context kind).toList.flatMap fun context =>
        (LocApiBase.toFirstHandling handles context.mLocApi.mLocAdapters).map .asked)
  | .msgTask evtMask =>
      match s.queue with
      | [] => (s, [])
      | work :: queue => ({ s with queue := queue }, s.proc evtMask work)

abbrev ContextRun (A T : Type) := Traced (LocDualContext A T) (ContextEffect A T)

def step [DecidableEq A] : ContextRun A T → ContextInput A T → ContextRun A T :=
  Traced.step machine

def start : ContextRun A T := ⟨⟨none, fun _ => none, none, 0, []⟩, []⟩

end LocDualContext

section Shared

variable {A T : Type}

def ContextInput.gets : ContextInput A T → Option ContextKind
  | .getLocContext kind _ => some kind
  | _ => none

def ContextInput.isUp (kind : ContextKind) : ContextInput A T → Bool
  | .handleEngineUpEvent other => kind = other
  | _ => false

def ContextEffect.createsThread : ContextEffect A T → Bool
  | .createThread _ => true
  | _ => false

def ContextEffect.injected : ContextEffect A T → Option Nat
  | .injectFeatureConfig address => some address
  | _ => none

/-- The context that is asked for first. -/
def firstKind (inputs : List (ContextInput A T)) : Option ContextKind :=
  inputs.findSome? ContextInput.gets

/-- Only a context that was made has adapters, and an engine that calls it. -/
def Made (t : LocDualContext.ContextRun A T) : ContextInput A T → Prop
  | .addAdapter kind _ _ | .removeAdapter kind _ _ | .handleEngineUpEvent kind |
    .request kind _ => (t.state.context kind).isSome
  | .getLocContext _ _ | .msgTask _ => True

namespace LocDualContext

variable {s : LocDualContext A T} {t : ContextRun A T} {given : List (ContextInput A T)}
  {kind : ContextKind}

/-- The address of the context and that of its thread. -/
def identity (s : LocDualContext A T) (kind : ContextKind) : Option (Nat × Nat) :=
  (s.context kind).map fun context => (context.address, context.mMsgTask)

theorem getMsgTask_spec (s : LocDualContext A T) (starter : Starter T) :
    (s.getMsgTask starter).1.context = s.context ∧
      (s.getMsgTask starter).1.mInjectContext = s.mInjectContext ∧
      (s.getMsgTask starter).1.mMsgTask = some (s.getMsgTask starter).2.1 ∧
      s.allocated ≤ (s.getMsgTask starter).1.allocated ∧
      (s.getMsgTask starter).1.queue = s.queue ++ starter.works ∧
      (s.getMsgTask starter).2.2 =
        (if s.mMsgTask = none then [.createThread starter.creator] else []) ∧
      ∀ mMsgTask, s.mMsgTask = some mMsgTask → (s.getMsgTask starter).2.1 = mMsgTask := by
  obtain ⟨task, context, mInjectContext, allocated, queue⟩ := s
  cases task with
  | none =>
      refine ⟨rfl, rfl, rfl, Nat.le_succ _, rfl, rfl, ?_⟩
      intro mMsgTask h
      cases h
  | some task =>
      refine ⟨rfl, rfl, rfl, Nat.le_refl _, rfl, rfl, ?_⟩
      intro mMsgTask h
      exact Option.some.inj h

/-- What the callers share after these inputs. -/
structure Kept (t : ContextRun A T) (given : List (ContextInput A T)) : Prop where
  task : ∀ kind address task, t.state.identity kind = some (address, task) →
    address < t.state.allocated ∧ t.state.mMsgTask = some task
  distinct : ∀ kind other address task task', t.state.identity kind = some (address, task) →
    t.state.identity other = some (address, task') → kind = other
  empty : firstKind given = none → t.state.mMsgTask = none ∧ t.state.mInjectContext = none ∧
    (∀ kind, t.state.identity kind = none) ∧ t.log.filterMap ContextEffect.injected = [] ∧
    ∀ kind, given.countP (ContextInput.isUp kind) = 0
  first : ∀ kind, firstKind given = some kind →
    ∃ address task, t.state.identity kind = some (address, task) ∧
      t.state.mInjectContext = some address ∧
      t.log.filterMap ContextEffect.injected =
        List.replicate (1 + given.countP (ContextInput.isUp kind)) address
  threads : t.log.countP ContextEffect.createsThread = (firstKind given).toList.length
  returned : ∀ kind address, .returned kind address ∈ t.log →
    ∃ task, t.state.identity kind = some (address, task)

theorem kept_start : Kept (start : ContextRun A T) [] where
  task _ _ _ h := by cases h
  distinct _ _ _ _ _ h := by cases h
  empty _ := ⟨rfl, rfl, fun _ => rfl, rfl, fun _ => rfl⟩
  first _ h := by cases h
  threads := rfl
  returned _ _ h := absurd h List.not_mem_nil

theorem firstKind_append (given : List (ContextInput A T)) (input : ContextInput A T) :
    firstKind (given ++ [input]) = (firstKind given).or input.gets := by
  rw [firstKind, List.findSome?_append, List.findSome?_singleton]
  rfl

/-- What makes no context keeps them. -/
theorem Kept.frame (hk : Kept t given) {s' : LocDualContext A T}
    {effects : List (ContextEffect A T)} {input : ContextInput A T}
    (hfirst : firstKind (given ++ [input]) = firstKind given)
    (hidentity : s'.identity = t.state.identity) (htask : s'.mMsgTask = t.state.mMsgTask)
    (hinject : s'.mInjectContext = t.state.mInjectContext)
    (hallocated : s'.allocated = t.state.allocated)
    (hthread : ∀ effect ∈ effects, effect.createsThread = false)
    (hreturned : ∀ kind address, .returned kind address ∈ effects →
      ∃ task, t.state.identity kind = some (address, task))
    (hnone : firstKind given = none → effects.filterMap ContextEffect.injected = [] ∧
      ∀ kind, input.isUp kind = false)
    (hinjected : ∀ kind address task, firstKind given = some kind →
      t.state.identity kind = some (address, task) → t.state.mInjectContext = some address →
        effects.filterMap ContextEffect.injected =
          List.replicate (input.isUp kind).toNat address) :
    Kept ⟨s', t.log ++ effects⟩ (given ++ [input]) := by
  have hcount (kind : ContextKind) : (given ++ [input]).countP (ContextInput.isUp kind) =
      given.countP (ContextInput.isUp kind) + (input.isUp kind).toNat := by
    rw [List.countP_append, List.countP_singleton]
    cases input.isUp kind
    all_goals rfl
  constructor
  · intro kind address task h
    rw [hidentity] at h
    rw [hallocated, htask]
    exact hk.task kind address task h
  · intro kind other address task task' h h'
    rw [hidentity] at h h'
    exact hk.distinct kind other address task task' h h'
  · intro h
    rw [hfirst] at h
    obtain ⟨hmMsgTask, hmInject, hcontexts, hlog, hups⟩ := hk.empty h
    refine ⟨htask.trans hmMsgTask, hinject.trans hmInject, ?_, ?_, ?_⟩
    · rw [hidentity]
      exact hcontexts
    · rw [List.filterMap_append, hlog, (hnone h).1]
      rfl
    · intro kind
      rw [hcount, hups, (hnone h).2]
      rfl
  · intro kind h
    rw [hfirst] at h
    obtain ⟨address, task, hkind, hmInject, hlog⟩ := hk.first kind h
    refine ⟨address, task, ?_, hinject.trans hmInject, ?_⟩
    · rw [hidentity]
      exact hkind
    · rw [List.filterMap_append, hlog, hinjected kind address task h hkind hmInject,
        List.replicate_append_replicate, hcount, Nat.add_assoc]
  · rw [hfirst, List.countP_append, hk.threads, List.countP_eq_zero.mpr, Nat.add_zero]
    intro effect heffect
    rw [hthread effect heffect]
    exact Bool.false_ne_true
  · intro kind address h
    rw [hidentity]
    rcases List.mem_append.mp h with hlog | heffect
    · exact hk.returned kind address hlog
    · exact hreturned kind address heffect

/-- A context that is there is returned. -/
theorem getLocContext_made {context : ContextBase A} (starter : Starter T)
    (h : s.context kind = some context) (hinject : s.mInjectContext ≠ none) :
    s.getLocContext kind starter = (s, [.returned kind context.address]) := by
  rw [getLocContext, makeContext, h]
  dsimp only
  rw [if_neg hinject]
  rfl

/-- A context that is not there is made, and injects if it is the first. -/
theorem getLocContext_new (starter : Starter T) (h : s.context kind = none) :
    ∃ address task, s.allocated ≤ address ∧
      (s.getLocContext kind starter).1.allocated = address + 1 ∧
      (s.getLocContext kind starter).1.mMsgTask = some task ∧
      (∀ mMsgTask, s.mMsgTask = some mMsgTask → task = mMsgTask) ∧
      (s.getLocContext kind starter).1.mInjectContext =
        some (s.mInjectContext.getD address) ∧
      (s.getLocContext kind starter).1.context = Function.update s.context kind
        (some ⟨address, task, LocApiBase.init kind.exclMask⟩) ∧
      (s.getLocContext kind starter).1.queue = s.queue ++ starter.works ∧
      (s.getLocContext kind starter).2 =
        (if s.mMsgTask = none then [.createThread starter.creator] else []) ++
          (if s.mInjectContext = none then [.injectFeatureConfig address] else []) ++
          [.returned kind address] := by
  obtain ⟨hcontext, hinject, hmMsgTask, hle, hqueue, heffects, htask⟩ :=
    getMsgTask_spec s starter
  refine ⟨(s.getMsgTask starter).1.allocated, (s.getMsgTask starter).2.1, hle, ?_⟩
  rw [getLocContext, makeContext, h]
  dsimp only
  split
  case isTrue hnone =>
    have hs : s.mInjectContext = none := hinject.symm.trans hnone
    refine ⟨rfl, hmMsgTask, htask, ?_, ?_, hqueue, ?_⟩
    · rw [hs]
      rfl
    · rw [← hcontext]
      rfl
    · rw [heffects, if_pos hs, injectFeatureConfig, if_pos rfl]
  case isFalse hsome =>
    have hs : s.mInjectContext ≠ none := fun hs => hsome (hinject.trans hs)
    obtain ⟨address, haddress⟩ := Option.ne_none_iff_exists'.mp hs
    refine ⟨rfl, hmMsgTask, htask, ?_, ?_, hqueue, ?_⟩
    · rw [haddress]
      exact hinject.trans haddress
    · rw [← hcontext]
      rfl
    · rw [heffects, if_neg hs, List.append_nil]

theorem Kept.present (hk : Kept t given) (h : firstKind given = some kind) :
    t.state.identity kind ≠ none ∧ t.state.mMsgTask ≠ none ∧ t.state.mInjectContext ≠ none := by
  obtain ⟨address, task, hidentity, hinject, -⟩ := hk.first kind h
  rw [hidentity, hinject, (hk.task _ _ _ hidentity).2]
  exact ⟨Option.some_ne_none _, Option.some_ne_none _, Option.some_ne_none _⟩

/-- A new context is the only one at its address, and the first of all injects. -/
theorem kept_new (hk : Kept t given) (kind : ContextKind) (starter : Starter T)
    (hcontext : t.state.context kind = none) :
    Kept ⟨(t.state.getLocContext kind starter).1, t.log ++ (t.state.getLocContext kind starter).2⟩
      (given ++ [.getLocContext kind starter]) := by
  obtain ⟨address, task, hle, hallocated, htask, hsame, hinject, hcontexts, -, heffects⟩ :=
    getLocContext_new starter hcontext
  generalize t.state.getLocContext kind starter = result at *
  obtain ⟨s', effects⟩ := result
  dsimp only at *
  have hself : s'.identity kind = some (address, task) := by
    rw [identity, hcontexts, Function.update_self]
    rfl
  have hother : ∀ other, other ≠ kind → s'.identity other = t.state.identity other := by
    intro other hne
    rw [identity, hcontexts, Function.update_of_ne hne]
    rfl
  have hups (first : ContextKind) :
      (given ++ [ContextInput.getLocContext kind starter]).countP (ContextInput.isUp first) =
        given.countP (ContextInput.isUp first) := by
    rw [List.countP_append]
    rfl
  have hnone : t.state.identity kind = none := by
    rw [identity, hcontext]
    rfl
  have hold : ∀ other address' task', s'.identity other = some (address', task') → other ≠ kind →
      address' < address ∧ t.state.mMsgTask = some task' := by
    intro other address' task' h hne
    rw [hother other hne] at h
    obtain ⟨hlt, hmMsgTask⟩ := hk.task other address' task' h
    exact ⟨Nat.lt_of_lt_of_le hlt hle, hmMsgTask⟩
  constructor
  · intro other address' task' h
    by_cases hne : other = kind
    · rw [hne, hself] at h
      cases h
      exact ⟨hallocated ▸ Nat.lt_succ_self _, htask⟩
    · obtain ⟨hlt, hmMsgTask⟩ := hold other address' task' h hne
      rw [hallocated, htask, hsame task' hmMsgTask]
      exact ⟨Nat.lt_succ_of_lt hlt, rfl⟩
  · intro one other address' task₁ task₂ h h'
    by_cases hone : one = kind
    · by_cases hne : other = kind
      · exact hone.trans hne.symm
      · rw [hone, hself] at h
        cases h
        exact absurd (hold other _ _ h' hne).1 (Nat.lt_irrefl _)
    · by_cases hne : other = kind
      · rw [hne, hself] at h'
        cases h'
        exact absurd (hold one _ _ h hone).1 (Nat.lt_irrefl _)
      · rw [hother one hone] at h
        rw [hother other hne] at h'
        exact hk.distinct one other address' task₁ task₂ h h'
  · intro h
    rw [firstKind_append, Option.or_eq_none_iff] at h
    cases h.2
  · intro first h
    rw [firstKind_append] at h
    cases hgiven : firstKind given with
    | none =>
        rw [hgiven] at h
        cases h
        obtain ⟨hmMsgTask, hmInject, -, hlog, hnoUps⟩ := hk.empty hgiven
        refine ⟨address, task, hself, ?_, ?_⟩
        · rw [hinject, hmInject]
          rfl
        · rw [hups, hnoUps, List.filterMap_append, hlog, heffects, if_pos hmMsgTask,
            if_pos hmInject]
          rfl
    | some old =>
        rw [hgiven] at h
        cases h
        obtain ⟨hpresent, hmMsgTask, hmInject⟩ := hk.present hgiven
        obtain ⟨address', task', hidentity, hmInject', hlog⟩ := hk.first first hgiven
        refine ⟨address', task', ?_, ?_, ?_⟩
        · rw [hother first fun heq => hpresent (heq ▸ hnone)]
          exact hidentity
        · rw [hinject, hmInject']
          rfl
        · rw [hups, List.filterMap_append, hlog, heffects, if_neg hmMsgTask, if_neg hmInject]
          exact List.append_nil _
  · rw [List.countP_append, hk.threads, firstKind_append, heffects]
    cases hgiven : firstKind given with
    | none =>
        obtain ⟨hmMsgTask, hmInject, -⟩ := hk.empty hgiven
        rw [if_pos hmMsgTask, if_pos hmInject]
        rfl
    | some first =>
        obtain ⟨-, hmMsgTask, hmInject⟩ := hk.present hgiven
        rw [if_neg hmMsgTask, if_neg hmInject]
        rfl
  · intro other address' h
    rcases List.mem_append.mp h with hlog | heffect
    · obtain ⟨task', hidentity⟩ := hk.returned other address' hlog
      have hne : other ≠ kind := by
        rintro rfl
        rw [hnone] at hidentity
        cases hidentity
      rw [hother other hne]
      exact ⟨task', hidentity⟩
    · rw [heffects, List.mem_append, List.mem_append] at heffect
      obtain (hthread | hinjects) | hreturned := heffect
      · split at hthread
        all_goals simp at hthread
      · split at hinjects
        all_goals simp at hinjects
      · cases List.mem_singleton.mp hreturned
        exact ⟨task, hself⟩

theorem kept_getLocContext (hk : Kept t given) (kind : ContextKind) (starter : Starter T) :
    Kept ⟨(t.state.getLocContext kind starter).1, t.log ++ (t.state.getLocContext kind starter).2⟩
      (given ++ [.getLocContext kind starter]) := by
  cases hcontext : t.state.context kind with
  | some context =>
      have hidentity : t.state.identity kind = some (context.address, context.mMsgTask) := by
        rw [identity, hcontext]
        rfl
      have hfirst : firstKind given ≠ none := by
        intro hnone
        rw [(hk.empty hnone).2.2.1 kind] at hidentity
        cases hidentity
      obtain ⟨first, hkind⟩ := Option.ne_none_iff_exists'.mp hfirst
      rw [getLocContext_made starter hcontext (hk.present hkind).2.2]
      apply hk.frame
      · rw [firstKind_append, hkind]
        rfl
      · rfl
      · rfl
      · rfl
      · rfl
      · intro effect heffect
        rw [List.mem_singleton.mp heffect]
        rfl
      · intro other address h
        cases List.mem_singleton.mp h
        exact ⟨context.mMsgTask, hidentity⟩
      · intro hnone
        exact absurd hnone hfirst
      · intros
        rfl
  | none => exact kept_new hk kind starter hcontext

/-- What is about neither threads nor contexts. -/
def Plain (effect : ContextEffect A T) : Prop :=
  effect.createsThread = false ∧ effect.injected = none ∧
    ∀ kind address, effect ≠ .returned kind address

theorem Kept.plain (hk : Kept t given) {s' : LocDualContext A T}
    {effects : List (ContextEffect A T)} {input : ContextInput A T} (hgets : input.gets = none)
    (hup : ∀ kind, input.isUp kind = false) (hidentity : s'.identity = t.state.identity)
    (htask : s'.mMsgTask = t.state.mMsgTask)
    (hinject : s'.mInjectContext = t.state.mInjectContext)
    (hallocated : s'.allocated = t.state.allocated) (heffects : ∀ effect ∈ effects, Plain effect) :
    Kept ⟨s', t.log ++ effects⟩ (given ++ [input]) := by
  have hinjected : effects.filterMap ContextEffect.injected = [] :=
    List.filterMap_eq_nil_iff.mpr fun effect heffect => (heffects effect heffect).2.1
  apply hk.frame
  · rw [firstKind_append, hgets, Option.or_none]
  · exact hidentity
  · exact htask
  · exact hinject
  · exact hallocated
  · intro effect heffect
    exact (heffects effect heffect).1
  · intro kind address h
    exact absurd rfl ((heffects _ h).2.2 kind address)
  · intro _
    exact ⟨hinjected, hup⟩
  · intro kind address task _ _ _
    rw [hinjected, hup]
    rfl

/-- A change of its table leaves a context what it is. -/
theorem identity_setContext {context : ContextBase A} (h : s.context kind = some context)
    (mLocApi : LocApiBase A) :
    (s.setContext kind { context with mLocApi := mLocApi }).identity = s.identity := by
  funext other
  rw [identity, identity, setContext]
  dsimp only
  by_cases hne : other = kind
  · rw [hne, Function.update_self, h]
    rfl
  · rw [Function.update_of_ne hne]

theorem kept_callApi (hk : Kept t given) {context : ContextBase A} {input : ContextInput A T}
    (hgets : input.gets = none) (hup : ∀ kind, input.isUp kind = false)
    (h : t.state.context kind = some context) (result : LocApiBase A × List LocApiBase.Call) :
    Kept ⟨(t.state.callApi kind context result).1, t.log ++ (t.state.callApi kind context result).2⟩
      (given ++ [input]) := by
  apply hk.plain hgets hup
  · exact identity_setContext h result.1
  · rfl
  · rfl
  · rfl
  · intro effect heffect
    obtain ⟨call, -, hcall⟩ := List.mem_filterMap.mp heffect
    cases call with
    | locOpenMsg => cases hcall
    | close =>
        cases hcall
        exact ⟨rfl, rfl, fun _ _ h => by cases h⟩

theorem mem_injectFeatureConfig {address : Nat} {effect : ContextEffect A T}
    (h : effect ∈ s.injectFeatureConfig address) : effect = .injectFeatureConfig address := by
  rw [injectFeatureConfig] at h
  split at h
  case isTrue => exact List.mem_singleton.mp h
  case isFalse => exact absurd h List.not_mem_nil

theorem kept_engineUp (hk : Kept t given) {context : ContextBase A}
    (h : t.state.context kind = some context) :
    Kept ⟨(t.state.handleEngineUpEvent kind context).1,
        t.log ++ (t.state.handleEngineUpEvent kind context).2⟩
      (given ++ [.handleEngineUpEvent kind]) := by
  have hidentity : t.state.identity kind = some (context.address, context.mMsgTask) := by
    rw [identity, h]
    rfl
  have hadapters (adapters : List A) : (adapters.map (fun adapter =>
      (ContextEffect.handleEngineUpEvent adapter : ContextEffect A T))).filterMap
        ContextEffect.injected = [] := by
    rw [List.filterMap_eq_nil_iff]
    intro effect heffect
    obtain ⟨adapter, -, rfl⟩ := List.mem_map.mp heffect
    rfl
  apply hk.frame
  · rw [firstKind_append]
    exact Option.or_none
  · rfl
  · rfl
  · rfl
  · rfl
  · intro effect heffect
    rcases List.mem_append.mp heffect with hinjects | hadapter
    · exact (mem_injectFeatureConfig hinjects) ▸ rfl
    · obtain ⟨adapter, -, rfl⟩ := List.mem_map.mp hadapter
      rfl
  · intro other address heffect
    rcases List.mem_append.mp heffect with hinjects | hadapter
    · cases mem_injectFeatureConfig hinjects
    · obtain ⟨adapter, -, heq⟩ := List.mem_map.mp hadapter
      cases heq
  · intro hnone
    rw [(hk.empty hnone).2.2.1 kind] at hidentity
    cases hidentity
  · intro first address task hfirst hother hinject
    rw [handleEngineUpEvent, List.filterMap_append, hadapters, List.append_nil,
      injectFeatureConfig, hinject, ContextInput.isUp]
    by_cases heq : address = context.address
    · have hsame : first = kind :=
        hk.distinct first kind address task context.mMsgTask hother (heq ▸ hidentity)
      rw [if_pos (congrArg some heq), decide_eq_true hsame, heq]
      rfl
    · have hne : first ≠ kind := by
        rintro rfl
        rw [hidentity] at hother
        cases hother
        exact heq rfl
      rw [if_neg (fun h => heq (Option.some.inj h)), decide_eq_false hne]
      rfl

theorem plain_proc (s : LocDualContext A T) (evtMask : A → UInt32) (work : Work T) :
    ∀ effect ∈ s.proc evtMask work, Plain effect := by
  intro effect heffect
  cases work with
  | associate tAssociate =>
      rw [List.mem_singleton.mp heffect]
      exact ⟨rfl, rfl, fun _ _ h => by cases h⟩
  | locOpenMsg kind mask =>
      rw [List.mem_singleton.mp heffect]
      exact ⟨rfl, rfl, fun _ _ h => by cases h⟩
  | locSsrMsg kind =>
      obtain ⟨context, -, hpair⟩ := List.mem_flatMap.mp heffect
      rcases List.mem_pair.mp hpair with rfl | rfl
      all_goals exact ⟨rfl, rfl, fun _ _ h => by cases h⟩

theorem identity_eq_some {address task : Nat} :
    s.identity kind = some (address, task) ↔
      ∃ context, s.context kind = some context ∧ context.address = address ∧
        context.mMsgTask = task := by
  simp [identity]

theorem kept_step [DecidableEq A] (t : ContextRun A T) (input : ContextInput A T)
    (given : List (ContextInput A T)) (hk : Kept t given) (hmade : Made t input) :
    Kept (step t input) (given ++ [input]) := by
  have hnothing (hgets : input.gets = none) (hup : ∀ kind, input.isUp kind = false) :
      Kept ⟨t.state, t.log ++ []⟩ (given ++ [input]) := by
    apply hk.plain hgets hup rfl rfl rfl rfl
    intro effect heffect
    exact absurd heffect List.not_mem_nil
  rw [step, Traced.step]
  cases input with
  | getLocContext kind starter => exact kept_getLocContext hk kind starter
  | addAdapter kind adapter evtMask =>
      rw [machine]
      cases h : t.state.context kind with
      | none => exact hnothing rfl fun _ => rfl
      | some context => exact kept_callApi hk rfl (fun _ => rfl) h _
  | removeAdapter kind adapter evtMask =>
      rw [machine]
      cases h : t.state.context kind with
      | none => exact hnothing rfl fun _ => rfl
      | some context => exact kept_callApi hk rfl (fun _ => rfl) h _
  | handleEngineUpEvent kind =>
      rw [machine]
      cases h : t.state.context kind with
      | none =>
          rw [Made, h] at hmade
          cases hmade
      | some context => exact kept_engineUp hk h
  | request kind handles =>
      apply hk.plain rfl (fun _ => rfl) rfl rfl rfl rfl
      intro effect heffect
      obtain ⟨context, -, hasked⟩ := List.mem_flatMap.mp heffect
      obtain ⟨adapter, -, rfl⟩ := List.mem_map.mp hasked
      exact ⟨rfl, rfl, fun _ _ h => by cases h⟩
  | msgTask evtMask =>
      rw [machine]
      cases h : t.state.queue with
      | nil => exact hnothing rfl fun _ => rfl
      | cons work queue =>
          apply hk.plain rfl fun _ => rfl
          · rfl
          · rfl
          · rfl
          · rfl
          · exact plain_proc t.state evtMask work

end LocDualContext

/-- Whatever the order of the calls, all callers get the same two contexts, which differ and share
one message thread. The feature configuration is injected through the context that was asked for
first, when it is made and at each restart of its engine. -/
theorem contexts_shared [DecidableEq A] (inputs : List (ContextInput A T))
    (h : Meets LocDualContext.step Made LocDualContext.start inputs) :
    let t := run LocDualContext.step (LocDualContext.start : LocDualContext.ContextRun A T) inputs
    (∀ kind address, .returned kind address ∈ t.log → ∃ context,
      t.state.context kind = some context ∧ context.address = address ∧
        t.state.mMsgTask = some context.mMsgTask) ∧
    (∀ foreground background, t.state.context .fg = some foreground →
      t.state.context .bg = some background → foreground.address ≠ background.address) ∧
    t.log.countP ContextEffect.createsThread = (firstKind inputs).toList.length ∧
    ∀ kind, firstKind inputs = some kind → ∃ context, t.state.context kind = some context ∧
      t.log.filterMap ContextEffect.injected =
        List.replicate (1 + inputs.countP (ContextInput.isUp kind)) context.address := by
  intro t
  have hk : LocDualContext.Kept t inputs := by
    have hrun : LocDualContext.Kept t ([] ++ contributions LocDualContext.step
        (fun _ input => [input]) LocDualContext.start inputs) :=
      run_contributions (fun t input given hk hmade =>
        LocDualContext.kept_step t input given hk hmade) LocDualContext.kept_start h
    rw [contributions_eq_flatMap, List.flatMap_singleton', List.nil_append] at hrun
    exact hrun
  refine ⟨?_, ?_, hk.threads, ?_⟩
  · intro kind address hlog
    obtain ⟨task, hidentity⟩ := hk.returned kind address hlog
    obtain ⟨context, hcontext, haddress, rfl⟩ := LocDualContext.identity_eq_some.mp hidentity
    exact ⟨context, hcontext, haddress, (hk.task kind address _ hidentity).2⟩
  · intro foreground background hfg hbg heq
    have hkind := hk.distinct .fg .bg foreground.address foreground.mMsgTask background.mMsgTask
      (LocDualContext.identity_eq_some.mpr ⟨foreground, hfg, rfl, rfl⟩)
      (LocDualContext.identity_eq_some.mpr ⟨background, hbg, heq.symm, rfl⟩)
    cases hkind
  · intro kind hkind
    obtain ⟨address, task, hidentity, -, hlog⟩ := hk.first kind hkind
    obtain ⟨context, hcontext, rfl, -⟩ := LocDualContext.identity_eq_some.mp hidentity
    exact ⟨context, hcontext, hlog⟩

end Shared

/-- The background is asked for first, and both engines restart. -/
def restarted : List (ContextInput Nat Nat) :=
  [.getLocContext .bg (.create none), .getLocContext .fg (.associate (some 5)),
    .handleEngineUpEvent .bg, .handleEngineUpEvent .fg, .getLocContext .bg (.create none)]

theorem contexts_shared_restarted :
    (run LocDualContext.step (LocDualContext.start : LocDualContext.ContextRun Nat Nat)
      restarted).log.filterMap ContextEffect.injected = [1, 1] := by
  obtain ⟨context, hcontext, hlog⟩ := (contexts_shared restarted
    ⟨trivial, trivial, rfl, rfl, trivial, trivial⟩).2.2.2 .bg rfl
  cases hcontext
  exact hlog

end G2Common.Core
