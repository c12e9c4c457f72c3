import Guicpp.Singleton
import Guicpp.Table

namespace Guicpp.Resolve

open Guicpp.Types Guicpp.At Guicpp.Entries Guicpp.InjectUtil Guicpp.Table Guicpp.Singleton
  Guicpp.Hoare

/-- The default entry an inject macro declares for a class: `GUICPP_INJECT_CTOR` binds
the class to a constructor, `GUICPP_INJECTABLE` to an `InvalidEntry`. -/
inductive DefaultEntry where
  | injectCtor (ctor : List ParamType)
  | injectable

def DefaultEntry.entry (cls : NamedType) : DefaultEntry → Entry
  | .injectCtor ctor => .bindToFunction cls ctor
  | .injectable => .invalidEntry

/-- An `Injector` as resolution sees it: its bind table, its address, and the
`GuicppGetDefaultEntry` overloads the program declares, by class. -/
structure Injector where
  bindTable : BindTable LabelHelper Entry
  id : Nat
  defaultEntry : NamedType → Option DefaultEntry

/-- `GuicppGetDefaultEntry(TypeKey<TypeSpecifier>(), ...)`; the catch-all overload
instantiates `Error<T>::Type_is_not_injectable`. -/
def Injector.guicppGetDefaultEntry (inj : Injector) : ObjType → Except Failure Entry
  | .named n _ =>
    match inj.defaultEntry n with
    | some d => .ok (d.entry n)
    | none => .error (.compileError "Type_is_not_injectable")
  | .pointer _ _ => .error (.compileError "Type_is_not_injectable")

theorem Injector.guicppGetDefaultEntry_error {inj : Injector} {s : ObjType} {f : Failure}
    (h : inj.guicppGetDefaultEntry s = .error f) : f = .compileError "Type_is_not_injectable" := by
  unfold guicppGetDefaultEntry at h
  split at h
  · split at h <;> cases h
    rfl
  · cases h
    rfl

/-- One call `InjectorUtil::GetActualType<Annotations, ActualType>(local_context)`; the
last argument lists the singletons whose `Create` is running, innermost first. -/
abbrev Resolver := Annotations → CType → LocalContext → List Nat → Run Val

section Step

variable (inj : Injector) (resolve : Resolver)

/-- `InjectorUtil::GetWithContext<T>`. -/
def getWithContext (p : ParamType) (ctx : LocalContext) (stack : List Nat) : Run Val :=
  resolve p.annotations p.actualType ctx stack

/-- `CreateHelpers::Create`: `new T(GetWithContext<A1>(local_context), ...)`, the
arguments from left to right. -/
def createHelpersCreate (cls : NamedType) (ctor : List ParamType) (ctx : LocalContext)
    (stack : List Nat) : Run Val := do
  let args ← ctor.mapM fun p => getWithContext resolve p ctx stack
  pure (.constructed cls args)

/-- `LazySingletonProvider::Create`: initialise the provider, resolve `At<UnScoped, T*>`
with a new local context, store it, and join the context's cleanup list. -/
def lazySingletonCreate (provider : Nat) (t : ObjType) (context : Nat) (stack : List Nat) :
    Run Unit := do
  invokeInitNow context provider
  let object ← resolve (labelAnnotations .unScoped) (.object (.pointer t .plain)) .empty
    (provider :: stack)
  modify fun w => (w.setProvider provider { w.providers provider with object := object }).record
    (.singletonCreated provider object)
  addToCleanupList context provider

/-- `LazySingletonProvider::Get`: `once_.Init(&Create, this)`, then `object_`. -/
def lazySingletonGet (provider : Nat) (t : ObjType) (context : Nat) (stack : List Nat) :
    Run Val := do
  onceInit provider (lazySingletonCreate resolve provider t context stack)
  let object := ((← get).providers provider).object
  record (.singletonGot provider object stack)
  pure object

/-- `GetInvoker` of guicpp_provider_helpers.h, a header outside the sources: it calls the
provider's `Get` with each of its parameters injected. -/
def getInvoker (provider : Provider) (ctx : LocalContext) (stack : List Nat) : Run Val :=
  match provider with
  | .user id params => do
    let args ← params.mapM fun p => getWithContext resolve p ctx stack
    pure (.provided id args)
  | .lazySingleton id t context => lazySingletonGet resolve id t context stack

/-- `AbstractProvider::InvokeGet`: it calls `get_invoker_fp_` and flows off its end with
no `return`, so what it returns is indeterminate. -/
def invokeGet (provider : Provider) (ctx : LocalContext) (stack : List Nat) : Run Val := do
  let _ ← getInvoker resolve provider ctx stack
  pure .indeterminate

/-- `TableEntry<T>::Get` of each entry class. `InvalidEntry` has no `Get`; the reader
rejects it first. -/
def entryGet : Entry → LocalContext → List Nat → Run Val
  | .bindToTypeEntry _ a d, ctx, stack => resolve a d ctx stack
  | .pointerTableEntry _ ptr _, _, _ => pure (.instance ptr)
  | .valueTableEntry _ v, _, _ => pure (.value v)
  | .referenceTableEntry _ ptr _, _, _ => pure (.instance ptr)
  | .bindToProviderEntry _ p _, ctx, stack => invokeGet resolve p ctx stack
  | .bindToFunction cls ctor, ctx, stack => createHelpersCreate resolve cls ctor ctx stack
  | .factoryArgumentEntry _ v, _, _ => pure v
  | .invalidEntry, _, _ | .cleanupEntry _, _, _ => pure .null

/-- `TableEntryReader<T>::Get`: the checks of `tableEntryReaderGet`, then the entry's own
`Get` through `GetBoundType`. -/
def readEntry (t : CType) (e : Entry) (ctx : LocalContext) (stack : List Nat) : Run Val := do
  let _ ← ofExcept (tableEntryReaderGet t e)
  entryGet resolve e ctx stack

/-- `NormalInjectHandler::Get`. `GuicppGetDefaultEntry` is instantiated whether or not the
key is bound, so a class without a default entry does not compile. -/
def normalInjectHandlerGet (a : Annotations) (t : CType) (ctx : LocalContext) (stack : List Nat) :
    Run Val := do
  let d ← ofExcept (inj.guicppGetDefaultEntry t.typeSpecifier)
  match inj.bindTable.findEntry (normalInjectBindId a t.typeSpecifier) with
  | some e => readEntry resolve t e ctx stack
  | none => readEntry resolve t d ctx stack

/-- `MissingDefaultTypeHandler::Get`. -/
def missingDefaultTypeHandlerGet (a : Annotations) (t : CType) (ctx : LocalContext)
    (stack : List Nat) : Run Val :=
  match inj.bindTable.findEntry (normalInjectBindId a t.typeSpecifier) with
  | some e => readEntry resolve t e ctx stack
  | none => throw (.fatal "This type can not be instantiated, missing binding")

/-- `AssistedInjectHandler::Get`: the key is looked up in the local context only. -/
def assistedInjectHandlerGet (a : Annotations) (t : CType) (ctx : LocalContext)
    (stack : List Nat) : Run Val := do
  let tid := assistedInjectBindId a t.typeSpecifier
  record (.assistedLookup ctx tid stack)
  match ctx.findEntry tid with
  | some e => readEntry resolve t e ctx stack
  | none => throw (.fatal ("Expected assisted argument (a.k.a factory argument), " ++
      "but is not present in factory parameter list."))

/-- `InternalTypeInjectHandler::Get`: a new `RealFactory` for a factory interface, the
injector itself otherwise. -/
def internalTypeInjectHandlerGet (a : Annotations) (t : CType) : Run Val :=
  match t.typeSpecifier with
  | .named (.factory f) _ => pure (.factory a f)
  | _ => pure .injector

/-- `InjectorUtil::GetActualType` one level down: the handler `GuicppGetInjectHandler`
selects, with `resolve` for the calls it makes. -/
def getActualTypeStep : Resolver := fun a t ctx stack =>
  match guicppGetInjectHandler (a.injectTypeAt .normalInject) t.typeSpecifier with
  | some .normalInject => normalInjectHandlerGet inj resolve a t ctx stack
  | some .missingDefaultType => missingDefaultTypeHandlerGet inj resolve a t ctx stack
  | some .assistedInject => assistedInjectHandlerGet resolve a t ctx stack
  | some .internalTypeInject => internalTypeInjectHandlerGet a t
  | none => throw noInjectHandler

end Step

section Frame

variable {resolve : Resolver} {I : World → Prop} {E : Failure → World → Prop}
  {ctx : LocalContext} {stack : List Nat}

theorem triple_mapM_getWithContext {params : List ParamType}
    (h : ∀ p ∈ params, Triple I (resolve p.annotations p.actualType ctx stack) (fun _ => I) E) :
    Triple I (params.mapM fun p => getWithContext resolve p ctx stack) (fun _ => I) E :=
  triple_mapM h

theorem triple_entryGet (e : Entry)
    (hreq : ∀ r ∈ e.requests, Triple I (resolve r.1 r.2 ctx stack) (fun _ => I) E)
    (hsingleton : ∀ x p t c cl, e = .bindToProviderEntry x (.lazySingleton p t c) cl →
      Triple I (lazySingletonGet resolve p t c stack) (fun _ => I) E) :
    Triple I (entryGet resolve e ctx stack) (fun _ => I) E := by
  have hparams : ∀ ps : List ParamType,
      (∀ r ∈ ps.map fun p => (p.annotations, p.actualType),
        Triple I (resolve r.1 r.2 ctx stack) (fun _ => I) E) →
      Triple I (ps.mapM fun p => getWithContext resolve p ctx stack) (fun _ => I) E :=
    fun ps h => triple_mapM_getWithContext fun p hp => h _ (List.mem_map_of_mem _ hp)
  cases e with
  | bindToTypeEntry _ a d => exact hreq _ (List.mem_singleton_self _)
  | bindToProviderEntry x p c =>
    refine triple_bind ?_ fun _ => triple_pure fun _ h => h
    cases p with
    | user id params => exact triple_bind (hparams params hreq) fun _ => triple_pure fun _ h => h
    | lazySingleton p t cx => exact hsingleton x p t cx c rfl
  | bindToFunction cls ctor => exact triple_bind (hparams ctor hreq) fun _ => triple_pure fun _ h => h
  | pointerTableEntry | valueTableEntry | referenceTableEntry | factoryArgumentEntry
  | invalidEntry | cleanupEntry => exact triple_pure fun _ h => h

theorem triple_readEntry {t : CType} {e : Entry}
    (hcast : ∀ f, tableEntryReaderGet t e = .error f → ∀ w, I w → E f w)
    (h : Triple I (entryGet resolve e ctx stack) (fun _ => I) E) :
    Triple I (readEntry resolve t e ctx stack) (fun _ => I) E :=
  triple_bind (triple_ofExcept (fun _ _ _ h => h) hcast) fun _ => h

theorem triple_lazySingletonGet_keeps {p : Nat} {t : ObjType} {c : Nat}
    (hinit : Triple I (invokeInitNow c p) (fun _ => I) E)
    (hnested : Triple I
      (resolve (labelAnnotations .unScoped) (.object (.pointer t .plain)) .empty (p :: stack))
      (fun _ => I) E)
    (hfinish : ∀ o, Triple I
      (do
        modify fun w => (w.setProvider p { w.providers p with object := o }).record
          (.singletonCreated p o)
        addToCleanupList c p)
      (fun _ => I) E)
    (hcalled : ∀ w, I w → I (w.setProvider p { w.providers p with called := true }))
    (hrecord : ∀ w e, I w → I (w.record e)) :
    Triple I (lazySingletonGet resolve p t c stack) (fun _ => I) E :=
  triple_bind (triple_get_bind fun _ _ => triple_ite (fun _ => triple_pure fun _ h => h) fun _ =>
    triple_bind (triple_bind hinit fun _ => triple_bind hnested hfinish) fun _ => triple_modify hcalled)
    fun _ => triple_get_bind fun _ _ =>
      triple_bind (triple_record fun w hw => hrecord w _ hw) fun _ => triple_pure fun _ h => h

theorem triple_lazySingletonGet_errors (hfault : ∀ f w, SingletonFault f → E f w) {p : Nat}
    {t : ObjType} {c : Nat}
    (hnested : Triple (fun _ => True)
      (resolve (labelAnnotations .unScoped) (.object (.pointer t .plain)) .empty (p :: stack))
      (fun _ _ => True) E) :
    Triple (fun _ => True) (lazySingletonGet resolve p t c stack) (fun _ _ => True) E := by
  have hf : ∀ {m : Run Unit}, (∀ w, Sat (fun _ _ => True) (fun e _ => SingletonFault e) (m w)) →
      Triple (fun _ => True) m (fun _ _ => True) E :=
    fun hm w _ => (hm w).mono (fun _ _ _ => trivial) fun e w h => hfault e w h
  refine triple_bind (R := fun _ _ => True) (triple_get_bind fun _ _ =>
    triple_ite (fun _ => triple_pure fun _ _ => trivial) fun _ => ?_) fun _ => triple_get_bind fun _ _ =>
      triple_bind (R := fun _ _ => True) (triple_record fun _ _ => trivial) fun _ =>
        triple_pure fun _ _ => trivial
  exact triple_bind (triple_bind (hf (invokeInitNow_fault c p)) fun _ => triple_bind hnested
    fun _ => triple_bind (R := fun _ _ => True) (triple_modify fun _ _ => trivial) fun _ =>
      hf (addToCleanupList_fault c p))
    fun _ => triple_modify fun _ _ => trivial

end Frame

/-- `InjectorUtil::GetActualType`, with a bound on the depth of its recursion. -/
def getActualType (inj : Injector) : Nat → Resolver
  | 0 => fun _ _ _ _ => throw .outOfFuel
  | n + 1 => getActualTypeStep inj (getActualType inj n)

/-- `Injector::Get<T>()`: resolution with a new, empty local context. -/
def injectorGet (inj : Injector) (fuel : Nat) (p : ParamType) : Run Val :=
  getActualType inj fuel p.annotations p.actualType .empty []

end Guicpp.Resolve
