import Guicpp.Configure

namespace Guicpp.Tools

open Guicpp.Types Guicpp.At Guicpp.Entries Guicpp.InjectUtil Guicpp.Table Guicpp.Singleton
  Guicpp.Hoare Guicpp.Resolve Guicpp.Configure

def scopeSetupContextArg : BindArg := ⟨emptyAnnotations, .named .scopeSetupContext .plain⟩

/-- `WrapperModule::Configure`: the context first, then the user's module, then the
cleanup action that calls `context->Cleanup()`. -/
def wrapperConfigure (userModule : Module) (context : Nat) : ConfigM Unit := do
  Binder.bindToInstance scopeSetupContextArg context .deletePointer
  configure userModule
  Binder.addCleanupAction (.invokeCleanup context)

/-- `guicpp::CreateInjector(module)`: a new `ScopeSetupContext` at `context`, the injector
`Injector::Create` builds from the wrapper module at `injector`, then
`context->Init(injector)`. -/
def createInjector (defaultEntry : NamedType → Option DefaultEntry) (module : Module)
    (context injector : Nat) : Except Failure (Injector × World) :=
  match Injector.create (wrapperConfigure module context) (ConfigState.fresh World.initial) with
  | .error e _ => .error e
  | .ok () st =>
    match scopeSetupContextInit context injector st.world with
    | .error e _ => .error e
    | .ok () w => .ok (⟨st.bindTable, injector, defaultEntry⟩, w)

theorem createInjector_ok {defaultEntry : NamedType → Option DefaultEntry} {module : Module}
    {context injector : Nat} {inj : Injector} {w : World}
    (h : createInjector defaultEntry module context injector = .ok (inj, w)) :
    ∃ st, Injector.create (wrapperConfigure module context) (ConfigState.fresh World.initial) =
        .ok () st ∧ scopeSetupContextInit context injector st.world = .ok () w ∧
      inj = ⟨st.bindTable, injector, defaultEntry⟩ := by
  unfold createInjector at h
  split at h
  · cases h
  · split at h
    · cases h
    · cases h
      exact ⟨_, ‹_›, ‹_›, rfl⟩

/-- `BindValueToProvider<int>` to a provider whose `Get` returns 7 makes `Get<int>()`
return an indeterminate value, not the provider's. -/
theorem bindValueToProvider_get_indeterminate :
    ∃ inj w, createInjector (fun _ => none)
        [.bindValueToProvider ⟨emptyAnnotations, .object (.named (.primitive 0) .plain)⟩ 7 []
          .deletePointer] 0 0 = .ok (inj, w) ∧
      ∃ w', injectorGet inj 1 ⟨emptyAnnotations, .object (.named (.primitive 0) .plain)⟩ w =
        .ok .indeterminate w' :=
  ⟨_, _, rfl, _, rfl⟩

/-- A cleanup action called on the pointer an entry holds. -/
def cleanupPointer (c : CleanupAction) (ptr : Nat) : Run Unit :=
  match c with
  | .deletePointer => record (.pointerDeleted ptr)
  | .doNothing => pure ()
  | .user id => record (.userCleanup id)

/-- `~LazySingletonProvider`: `DCHECK(object_ == NULL)`. -/
def lazySingletonDestroy (provider : Nat) : Run Unit := do
  if ((← get).providers provider).object.isNull then record (.providerDeleted provider)
  else throw (.dcheck "object_ == NULL")

theorem lazySingletonDestroy_run (provider : Nat) (w : World) :
    lazySingletonDestroy provider w =
      if (w.providers provider).object.isNull then .ok () (w.record (.providerDeleted provider))
      else .error (.dcheck "object_ == NULL") w := by
  simp only [lazySingletonDestroy, bind, EStateM.bind, get, getThe, MonadStateOf.get, EStateM.get]
  split <;> rfl

/-- The destructor of each entry class. -/
def entryDestroy : Entry → Run Unit
  | .pointerTableEntry _ ptr c | .referenceTableEntry _ ptr c => cleanupPointer c ptr
  | .bindToProviderEntry _ (.user id _) c => cleanupPointer c id
  | .bindToProviderEntry _ (.lazySingleton p _ _) c =>
    match c with
    | .deletePointer => lazySingletonDestroy p
    | .doNothing => pure ()
    | .user id => record (.userCleanup id)
  | .cleanupEntry (.invokeCleanup context) => scopeSetupContextCleanup context
  | .cleanupEntry (.user id) => record (.userCleanup id)
  | .bindToTypeEntry .. | .valueTableEntry .. | .bindToFunction .. | .factoryArgumentEntry ..
  | .invalidEntry => pure ()

/-- `~Injector`, that is `~BindTable`: each entry of `cleanup_list_`, last added first. -/
def injectorDestroy (inj : Injector) : Run Unit := inj.bindTable.destroy.forM entryDestroy

/-- The states an injector from `CreateInjector` goes through: created, then after each
request that returns. A request is `GetActualType` with an empty local context
(`Injector::Get`) or with the arguments of a factory call. -/
inductive Reachable (defaultEntry : NamedType → Option DefaultEntry) (module : Module)
    (context injector : Nat) : Injector → World → Prop
  | create {inj : Injector} {w : World} :
      createInjector defaultEntry module context injector = .ok (inj, w) →
      Reachable defaultEntry module context injector inj w
  | request {inj : Injector} {w w' : World} {fuel : Nat} {a : Annotations} {t : CType}
      {ctx : LocalContext} {v : Val} :
      Reachable defaultEntry module context injector inj w → ctx.Leaf →
      getActualType inj fuel a t ctx [] w = .ok v w' →
      Reachable defaultEntry module context injector inj w'

namespace Reachable

variable {defaultEntry : NamedType → Option DefaultEntry} {module : Module} {context injector : Nat}
  {inj : Injector} {w : World}

theorem created (h : Reachable defaultEntry module context injector inj w) :
    ∃ w₀, createInjector defaultEntry module context injector = .ok (inj, w₀) := by
  induction h with
  | create hc => exact ⟨_, hc⟩
  | request _ _ _ ih => exact ih

theorem request_of_eq_true (h : Reachable defaultEntry module context injector inj w) (fuel : Nat)
    (a : Annotations) (t : CType) (ctx : LocalContext) (hctx : ctx.Leaf) (P : World → Bool)
    (hb : (match getActualType inj fuel a t ctx [] w with
      | .ok _ w' => P w'
      | .error _ _ => false) = true) :
    ∃ w', Reachable defaultEntry module context injector inj w' ∧ P w' = true := by
  revert hb
  cases hr : getActualType inj fuel a t ctx [] w with
  | ok v w' => exact fun hb => ⟨w', .request h hctx hr, hb⟩
  | error => nofun

end Reachable

end Guicpp.Tools
