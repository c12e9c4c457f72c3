import Guicpp.InjectUtil
import Guicpp.Hoare
import Mathlib.Logic.Function.Basic

namespace Guicpp.Singleton

open Guicpp.Types Guicpp.At Guicpp.Entries Guicpp.InjectUtil Guicpp.Hoare

/-- `ScopeSetupContext`: `injector_`, `init_list_`, the filled prefix
`cleanup_list_[0, cleanup_list_size_)` and the length of the array `Init` allocates for
`cleanup_list_` (zero before `Init`, while the array is null). -/
structure ScopeSetupContext where
  injector : Option Nat
  initList : List Nat
  cleanupList : List Nat
  capacity : Nat

def ScopeSetupContext.new : ScopeSetupContext := ⟨none, [], [], 0⟩

def addToInitListCheck : String :=
  "find(init_list_.begin(), init_list_.end(), init) == init_list_.end()"

def addToCleanupListCheck : String :=
  "find(init_list_.begin(), init_list_.end(), cleanup) != init_list_.end()"

def invokeInitNowCheck : String := "Injector cant be null at this time"

def lazySingletonInitCheck : String := "injector_ == NULL || injector_ == injector"

/-- The failures of the singleton machinery itself: its four DCHECKs and the write past
the end of `cleanup_list_`. -/
def SingletonFault : Failure → Prop
  | .dcheck c => c = addToInitListCheck ∨ c = addToCleanupListCheck ∨ c = invokeInitNowCheck ∨
      c = lazySingletonInitCheck
  | .outOfBounds => True
  | _ => False

/-- `ScopeSetupContext::AddToInitList`. -/
def ScopeSetupContext.addToInitList (c : ScopeSetupContext) (init : Nat) :
    Except Failure ScopeSetupContext :=
  if init ∈ c.initList then .error (.dcheck addToInitListCheck)
  else .ok { c with initList := c.initList ++ [init] }

/-- `ScopeSetupContext::AddToCleanupList`: the DCHECK, then the write
`cleanup_list_[cleanup_list_size_++]`, out of bounds once the array is full. -/
def ScopeSetupContext.addToCleanupList (c : ScopeSetupContext) (cleanup : Nat) :
    Except Failure ScopeSetupContext :=
  if cleanup ∉ c.initList then .error (.dcheck addToCleanupListCheck)
  else if c.cleanupList.length < c.capacity then
    .ok { c with cleanupList := c.cleanupList ++ [cleanup] }
  else .error .outOfBounds

theorem ScopeSetupContext.eq_of_addToCleanupList {c c' : ScopeSetupContext} {p : Nat}
    (h : c.addToCleanupList p = .ok c') : c' = { c with cleanupList := c.cleanupList ++ [p] } := by
  unfold addToCleanupList at h
  split_ifs at h
  cases h
  rfl

theorem ScopeSetupContext.cleanupList_of_addToCleanupList {c c' : ScopeSetupContext} {p : Nat}
    (h : c.addToCleanupList p = .ok c') : c'.cleanupList = c.cleanupList ++ [p] := by
  rw [eq_of_addToCleanupList h]

/-- The fields of a `LazySingletonProvider` that change: `once_.called_`, `injector_`
and `object_`. -/
structure LazySingletonProvider where
  called : Bool
  injector : Option Nat
  object : Val

def LazySingletonProvider.new : LazySingletonProvider := ⟨false, none, .null⟩

/-- `LazySingletonProvider::Init`. -/
def LazySingletonProvider.init (p : LazySingletonProvider) (injector : Nat) :
    Except Failure LazySingletonProvider :=
  if p.injector = none ∨ p.injector = some injector then .ok { p with injector := some injector }
  else .error (.dcheck lazySingletonInitCheck)

theorem LazySingletonProvider.object_of_init {p x : LazySingletonProvider} {injector : Nat}
    (h : p.init injector = .ok x) : x.object = p.object := by
  unfold init at h
  split_ifs at h
  cases h
  rfl

/-- What the model records as it runs: an assisted lookup with the singletons in their
`Create`, `Create` storing an object, `Get` returning it, `ScopeSetupContext::Cleanup`
starting, `LazySingletonProvider::Cleanup` deleting an object, `~LazySingletonProvider`,
`DeletePointer`, and a user's cleanup functor. -/
inductive Event where
  | assistedLookup (context : LocalContext) (tid : LabelHelper) (stack : List Nat)
  | singletonCreated (provider : Nat) (object : Val)
  | singletonGot (provider : Nat) (object : Val) (stack : List Nat)
  | contextCleanup (context : Nat)
  | objectDeleted (provider : Nat) (object : Val)
  | providerDeleted (provider : Nat)
  | pointerDeleted (ptr : Nat)
  | userCleanup (id : Nat)

/-- The heap objects resolution changes: every `ScopeSetupContext` and
`LazySingletonProvider` by address, and the log. -/
structure World where
  contexts : Nat → ScopeSetupContext
  providers : Nat → LazySingletonProvider
  log : List Event

def World.initial : World := ⟨fun _ => .new, fun _ => .new, []⟩

def World.setContext (w : World) (c : Nat) (x : ScopeSetupContext) : World :=
  { w with contexts := Function.update w.contexts c x }

def World.setProvider (w : World) (p : Nat) (x : LazySingletonProvider) : World :=
  { w with providers := Function.update w.providers p x }

def World.record (w : World) (e : Event) : World := { w with log := w.log ++ [e] }

@[simp] theorem World.contexts_setContext (w : World) (c : Nat) (x : ScopeSetupContext) (c' : Nat) :
    (w.setContext c x).contexts c' = if c' = c then x else w.contexts c' := by
  simp [setContext, Function.update_apply]

@[simp] theorem World.providers_setContext (w : World) (c : Nat) (x : ScopeSetupContext) :
    (w.setContext c x).providers = w.providers := rfl

@[simp] theorem World.log_setContext (w : World) (c : Nat) (x : ScopeSetupContext) :
    (w.setContext c x).log = w.log := rfl

@[simp] theorem World.contexts_setProvider (w : World) (p : Nat) (x : LazySingletonProvider) :
    (w.setProvider p x).contexts = w.contexts := rfl

@[simp] theorem World.providers_setProvider (w : World) (p : Nat) (x : LazySingletonProvider)
    (p' : Nat) : (w.setProvider p x).providers p' = if p' = p then x else w.providers p' := by
  simp [setProvider, Function.update_apply]

@[simp] theorem World.log_setProvider (w : World) (p : Nat) (x : LazySingletonProvider) :
    (w.setProvider p x).log = w.log := rfl

theorem World.setProvider_self (w : World) (p : Nat) : w.setProvider p (w.providers p) = w := by
  simp [setProvider]

@[simp] theorem World.contexts_record (w : World) (e : Event) :
    (w.record e).contexts = w.contexts := rfl

@[simp] theorem World.providers_record (w : World) (e : Event) :
    (w.record e).providers = w.providers := rfl

@[simp] theorem World.log_record (w : World) (e : Event) : (w.record e).log = w.log ++ [e] := rfl

abbrev Run := EStateM Failure World

def record (e : Event) : Run Unit := modify (·.record e)

/-- `LazySingletonProvider::Init` on the provider at `provider`. -/
def lazySingletonInit (provider injector : Nat) : Run Unit := do
  let w ← get
  let p ← ofExcept ((w.providers provider).init injector)
  set (w.setProvider provider p)

/-- `GoogleOnceDynamic::Init(fp, arg)` of the provider's `once_`: `fp(arg)` unless `called_`,
and `called_` set only after it returns. -/
def onceInit (provider : Nat) (fp : Run Unit) : Run Unit := do
  if ((← get).providers provider).called then pure ()
  else do
    fp
    modify fun w => w.setProvider provider { w.providers provider with called := true }

/-- `ScopeSetupContext::InvokeInitNow`. -/
def invokeInitNow (context provider : Nat) : Run Unit := do
  match ((← get).contexts context).injector with
  | none => throw (.dcheck invokeInitNowCheck)
  | some injector => lazySingletonInit provider injector

/-- `ScopeSetupContext::AddToCleanupList` on the context at `context`. -/
def addToCleanupList (context cleanup : Nat) : Run Unit := do
  let w ← get
  let c ← ofExcept ((w.contexts context).addToCleanupList cleanup)
  set (w.setContext context c)

/-- `ScopeSetupContext::Init`: the array for `cleanup_list_` gets the length of
`init_list_`, then each provider in `init_list_` is initialised in order. -/
def scopeSetupContextInit (context injector : Nat) : Run Unit := do
  let w ← get
  let c := w.contexts context
  set (w.setContext context { c with injector := some injector, capacity := c.initList.length })
  c.initList.forM fun p => lazySingletonInit p injector

/-- `LazySingletonProvider::Cleanup`: `delete object_; object_ = NULL;`. -/
def lazySingletonCleanup (provider : Nat) : Run Unit := do
  let w ← get
  let p := w.providers provider
  set ((w.record (.objectDeleted provider p.object)).setProvider provider { p with object := .null })

/-- `ScopeSetupContext::Cleanup`: the providers of `cleanup_list_`, last added first. -/
def scopeSetupContextCleanup (context : Nat) : Run Unit := do
  let w ← get
  set (w.record (.contextCleanup context))
  (w.contexts context).cleanupList.reverse.forM lazySingletonCleanup

section Specs

variable {P : World → Prop} {α : Type} {Q : α → World → Prop} {E : Failure → World → Prop}

theorem triple_record {e : Event} {Q : Unit → World → Prop} (h : ∀ w, P w → Q () (w.record e)) :
    Triple P (record e) Q E := triple_modify h

theorem addToCleanupList_run (context cleanup : Nat) (w : World) :
    addToCleanupList context cleanup w =
      match (w.contexts context).addToCleanupList cleanup with
      | .ok c => .ok () (w.setContext context c)
      | .error e => .error e w := by
  simp only [addToCleanupList, bind, EStateM.bind, get, getThe, MonadStateOf.get, EStateM.get]
  cases (w.contexts context).addToCleanupList cleanup <;> rfl

theorem lazySingletonInit_run (provider injector : Nat) (w : World) :
    lazySingletonInit provider injector w =
      match (w.providers provider).init injector with
      | .ok p => .ok () (w.setProvider provider p)
      | .error e => .error e w := by
  simp only [lazySingletonInit, bind, EStateM.bind, get, getThe, MonadStateOf.get, EStateM.get]
  cases (w.providers provider).init injector <;> rfl

theorem invokeInitNow_run (context provider : Nat) (w : World) :
    invokeInitNow context provider w =
      match (w.contexts context).injector with
      | none => .error (.dcheck invokeInitNowCheck) w
      | some injector => lazySingletonInit provider injector w := by
  simp only [invokeInitNow, bind, EStateM.bind, get, getThe, MonadStateOf.get, EStateM.get]
  cases (w.contexts context).injector <;> rfl

theorem invokeInitNow_idle {context provider injector : Nat} {w : World}
    (hc : (w.contexts context).injector = some injector)
    (hp : (w.providers provider).injector = some injector) :
    invokeInitNow context provider w = .ok () w := by
  rw [invokeInitNow_run, hc]
  show lazySingletonInit provider injector w = _
  rw [lazySingletonInit_run, LazySingletonProvider.init, if_pos (.inr hp), ← hp]
  exact congrArg _ (World.setProvider_self w provider)

theorem scopeSetupContextInit_run (context injector : Nat) (w : World) :
    scopeSetupContextInit context injector w =
      (w.contexts context).initList.forM (fun p => lazySingletonInit p injector)
        (w.setContext context
          { w.contexts context with
            injector := some injector
            capacity := (w.contexts context).initList.length }) := rfl

theorem forM_lazySingletonInit (injector : Nat) : ∀ (l : List Nat) (w : World),
    (∀ p ∈ l, (w.providers p).injector = none ∨ (w.providers p).injector = some injector) →
    ∃ w', l.forM (fun p => lazySingletonInit p injector) w = .ok () w' ∧
      w'.contexts = w.contexts ∧ w'.log = w.log ∧ ∀ p, w'.providers p =
        if p ∈ l then { w.providers p with injector := some injector } else w.providers p
  | [], w, _ => ⟨w, rfl, rfl, rfl, fun p => by simp⟩
  | p :: l, w, h => by
    have hinit : (w.providers p).init injector =
        .ok { w.providers p with injector := some injector } :=
      if_pos (h p (List.mem_cons_self p l))
    obtain ⟨w', hw', hc, hl, hp⟩ := forM_lazySingletonInit injector l
      (w.setProvider p { w.providers p with injector := some injector }) fun q hq => by
        by_cases hqp : q = p
        · simp [hqp]
        · simpa [hqp] using h q (List.mem_cons_of_mem p hq)
    refine ⟨w', ?_, hc, hl, fun q => ?_⟩
    · simp only [List.forM, bind, EStateM.bind, lazySingletonInit_run, hinit]
      exact hw'
    · rw [hp q]
      by_cases hqp : q = p <;> by_cases hql : q ∈ l <;> simp [hqp, hql]

def deletedProviders (log : List Event) : List Nat :=
  log.filterMap fun
    | .objectDeleted p _ => some p
    | _ => none

@[simp] theorem deletedProviders_append (l l' : List Event) :
    deletedProviders (l ++ l') = deletedProviders l ++ deletedProviders l' :=
  List.filterMap_append _ _ _

@[simp] theorem deletedProviders_objectDeleted (p : Nat) (o : Val) :
    deletedProviders [.objectDeleted p o] = [p] := rfl

@[simp] theorem deletedProviders_contextCleanup (c : Nat) :
    deletedProviders [.contextCleanup c] = [] := rfl

theorem lazySingletonCleanup_run (provider : Nat) (w : World) :
    lazySingletonCleanup provider w =
      .ok () ((w.record (.objectDeleted provider (w.providers provider).object)).setProvider
        provider { w.providers provider with object := .null }) := rfl

theorem forM_lazySingletonCleanup : ∀ (l : List Nat) (w : World),
    ∃ w', l.forM lazySingletonCleanup w = .ok () w' ∧ w'.contexts = w.contexts ∧
      (∃ evs, w'.log = w.log ++ evs ∧ deletedProviders evs = l ∧
        ∀ e ∈ evs, ∃ p o, e = .objectDeleted p o) ∧
      ∀ p, w'.providers p = if p ∈ l then { w.providers p with object := .null } else w.providers p
  | [], w => ⟨w, rfl, rfl, ⟨[], by simp, rfl, by simp⟩, fun p => by simp⟩
  | p :: l, w => by
    obtain ⟨w', hw', hc, ⟨evs, hlog, hd, he⟩, hp⟩ := forM_lazySingletonCleanup l
      ((w.record (.objectDeleted p (w.providers p).object)).setProvider p
        { w.providers p with object := .null })
    refine ⟨w', ?_, by simp [hc], ⟨.objectDeleted p (w.providers p).object :: evs,
      by simp [hlog], by simp [deletedProviders, ← hd], ?_⟩, fun q => ?_⟩
    · simp only [List.forM, bind, EStateM.bind, lazySingletonCleanup_run]
      exact hw'
    · rintro e (_ | ⟨_, he'⟩)
      · exact ⟨_, _, rfl⟩
      · exact he e he'
    · rw [hp q]
      by_cases hqp : q = p <;> by_cases hql : q ∈ l <;> simp [hqp, hql]

theorem scopeSetupContextCleanup_ok (context : Nat) (w : World) :
    ∃ w', scopeSetupContextCleanup context w = .ok () w' ∧ w'.contexts = w.contexts ∧
      (∃ evs, w'.log = w.log ++ .contextCleanup context :: evs ∧
        deletedProviders evs = (w.contexts context).cleanupList.reverse ∧
        ∀ e ∈ evs, ∃ p o, e = .objectDeleted p o) ∧
      ∀ p, w'.providers p = if p ∈ (w.contexts context).cleanupList
        then { w.providers p with object := .null } else w.providers p := by
  obtain ⟨w', hw', hc, ⟨evs, hlog, hd, he⟩, hp⟩ :=
    forM_lazySingletonCleanup (w.contexts context).cleanupList.reverse (w.record (.contextCleanup context))
  exact ⟨w', hw', hc, ⟨evs, by simp [hlog], hd, he⟩, fun p => by simpa using hp p⟩

theorem triple_of_log {m : Run α} {I : World → Prop}
    (hm : ∀ w, Sat (fun _ w' => w'.log = w.log) (fun _ w' => w'.log = w.log) (m w))
    (hI : ∀ w w', w'.log = w.log → I w → I w') : Triple I m (fun _ => I) fun _ => I :=
  fun w hw => (hm w).mono (fun _ w' h => hI w w' h hw) fun _ w' h => hI w w' h hw

theorem lazySingletonInit_log (provider injector : Nat) (w : World) :
    Sat (fun _ w' => w'.log = w.log) (fun _ w' => w'.log = w.log)
      (lazySingletonInit provider injector w) := by
  rw [lazySingletonInit_run]
  split <;> rfl

theorem invokeInitNow_log (context provider : Nat) (w : World) :
    Sat (fun _ w' => w'.log = w.log) (fun _ w' => w'.log = w.log)
      (invokeInitNow context provider w) := by
  rw [invokeInitNow_run]
  split
  · rfl
  · exact lazySingletonInit_log _ _ w

theorem addToCleanupList_log (context cleanup : Nat) (w : World) :
    Sat (fun _ w' => w'.log = w.log) (fun _ w' => w'.log = w.log)
      (addToCleanupList context cleanup w) := by
  rw [addToCleanupList_run]
  split <;> rfl

theorem invokeInitNow_fault (context provider : Nat) (w : World) :
    Sat (fun _ _ => True) (fun e _ => SingletonFault e) (invokeInitNow context provider w) := by
  rw [invokeInitNow_run]
  split
  · exact .inr (.inr (.inl rfl))
  · rw [lazySingletonInit_run, LazySingletonProvider.init]
    split_ifs <;> first | trivial | exact .inr (.inr (.inr rfl))

theorem addToCleanupList_fault (context cleanup : Nat) (w : World) :
    Sat (fun _ _ => True) (fun e _ => SingletonFault e) (addToCleanupList context cleanup w) := by
  rw [addToCleanupList_run, ScopeSetupContext.addToCleanupList]
  split_ifs <;> first | trivial | exact .inr (.inl rfl)

end Specs

end Guicpp.Singleton
