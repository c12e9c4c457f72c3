import Guicpp.SingletonScope

namespace Guicpp.Teardown

open Guicpp.Types Guicpp.At Guicpp.Entries Guicpp.InjectUtil Guicpp.Table Guicpp.Singleton
  Guicpp.Hoare Guicpp.Resolve Guicpp.KeyGraph Guicpp.Configure Guicpp.Tools Guicpp.ScopeInvariant
  Guicpp.Wiring Guicpp.Termination Guicpp.SingletonScope

/-- Every object a provider still holds belongs to a provider on the cleanup list of the
context at `c0`. -/
def Tracked (c0 : Nat) (w : World) : Prop :=
  ∀ p, (w.providers p).object = .null ∨ p ∈ (w.contexts c0).cleanupList

theorem Tracked.of_eq {c0 : Nat} {w w' : World} (h : Tracked c0 w)
    (ho : ∀ p, (w'.providers p).object = (w.providers p).object)
    (hc : (w'.contexts c0).cleanupList = (w.contexts c0).cleanupList) : Tracked c0 w' :=
  fun p => by rw [ho, hc]; exact h p

theorem tracked_of_inv {inj : Injector} {c0 : Nat} {stack : List Nat} {w : World}
    (h : Inv inj c0 stack w) : Tracked c0 w := fun p => by
  cases hc : (w.providers p).called
  · exact .inl (h.object_null p hc)
  · exact .inr ((h.called_iff p).1 hc)

def KeepsTracked (c0 : Nat) (resolve : Resolver) : Prop :=
  ∀ a t ctx stack, LocalContext.Leaf ctx →
    Triple (Tracked c0) (resolve a t ctx stack) (fun _ => Tracked c0) fun _ _ => True

section Step

variable {c0 : Nat}

theorem triple_invokeInitNow_tracked (p : Nat) :
    Triple (Tracked c0) (invokeInitNow c0 p) (fun _ => Tracked c0) fun _ _ => True := by
  intro w hw
  rw [invokeInitNow_run]
  split
  · trivial
  · rw [lazySingletonInit_run]
    split
    · rename_i x hx
      exact hw.of_eq (fun q => by
        by_cases hq : q = p <;> simp [hq, LazySingletonProvider.object_of_init hx]) rfl
    · trivial

theorem triple_finishCreate_tracked (p : Nat) (o : Val) :
    Triple (Tracked c0)
      (do
        modify fun w => (w.setProvider p { w.providers p with object := o }).record
          (.singletonCreated p o)
        addToCleanupList c0 p)
      (fun _ => Tracked c0) fun _ _ => True := by
  intro w hw
  show Sat _ _ (addToCleanupList c0 p _)
  rw [addToCleanupList_run]
  split
  · rename_i c hc
    have hcl := ScopeSetupContext.cleanupList_of_addToCleanupList hc
    simp only [World.contexts_record, World.contexts_setProvider] at hcl
    intro q
    by_cases hq : q = p
    · exact .inr (by simp [hq, hcl])
    · rcases hw q with h | h
      · exact .inl (by simp [hq, h])
      · exact .inr (by simp [hcl, h])
  · trivial

theorem triple_lazySingletonGet_tracked {resolve : Resolver} (h : KeepsTracked c0 resolve)
    (p : Nat) (t : ObjType) (stack : List Nat) :
    Triple (Tracked c0) (lazySingletonGet resolve p t c0 stack) (fun _ => Tracked c0)
      fun _ _ => True :=
  triple_lazySingletonGet_keeps (triple_invokeInitNow_tracked p)
    (h _ _ _ _ (by simp [LocalContext.Leaf, LocalContext.empty])) (triple_finishCreate_tracked p)
    (fun _ hw => hw.of_eq (fun q => by by_cases hq : q = p <;> simp [hq]) rfl)
    fun _ _ hw => hw.of_eq (fun _ => rfl) rfl

theorem keepsTracked_step {inj : Injector} (hwired : Wired inj c0) {resolve : Resolver}
    (h : KeepsTracked c0 resolve) : KeepsTracked c0 (getActualTypeStep inj resolve) :=
  fun _ _ _ stack hctx => triple_getActualTypeStep
    (fun e he => triple_readEntry (fun _ _ _ _ => trivial)
      (triple_entryGet e (fun _ _ => h _ _ _ _ hctx) fun _ p t' _ _ hx => by
        subst hx
        obtain rfl := hwired.context_eq he
        exact triple_lazySingletonGet_tracked h p t' stack))
    (fun _ hw => hw.of_eq (fun _ => rfl) rfl)
    (fun _ he => triple_readEntry_leaf hctx he fun _ _ _ _ => trivial)
    fun _ _ _ => ⟨trivial, trivial⟩

theorem keepsTracked_getActualType {inj : Injector} (hwired : Wired inj c0) :
    ∀ n, KeepsTracked c0 (getActualType inj n)
  | 0 => fun _ _ _ _ _ => triple_throw fun _ _ => trivial
  | n + 1 => keepsTracked_step hwired (keepsTracked_getActualType hwired n)

end Step

section Reachable

variable {defaultEntry : NamedType → Option DefaultEntry} {module : Module} {context injector : Nat}

theorem reachable_tracked {inj : Injector} {w : World}
    (h : Reachable defaultEntry module context injector inj w) :
    (∃ w₀, createInjector defaultEntry module context injector = .ok (inj, w₀)) ∧
      Tracked context w := by
  induction h with
  | create hc => exact ⟨⟨_, hc⟩, tracked_of_inv (createInjector_inv hc).2⟩
  | request _ hctx hrun ih =>
    obtain ⟨⟨w₀, hc⟩, ht⟩ := ih
    exact ⟨⟨w₀, hc⟩, (keepsTracked_getActualType (createInjector_inv hc).1 _ _ _ _ [] hctx).ok ht hrun⟩

theorem wrapperConfigure_fresh (context : Nat) :
    wrapperConfigure module context (ConfigState.fresh World.initial) =
      match configure module ⟨run [.addEntry scopeSetupContextId (contextEntry context)], 0,
          World.initial, 0, [.addEntry scopeSetupContextId (contextEntry context)]⟩ with
      | .ok () st => Binder.addCleanupAction (.invokeCleanup context) st
      | .error e st => .error e st := by
  simp only [wrapperConfigure, bind, EStateM.bind, bindToInstance_fresh]
  cases configure module _ <;> rfl

theorem createInjector_cleanupList {inj : Injector} {w : World}
    (h : createInjector defaultEntry module context injector = .ok (inj, w)) :
    ∃ st st' calls,
      Binder.bindToInstance scopeSetupContextArg context .deletePointer
        (ConfigState.fresh World.initial) = .ok () st ∧
      configure module st = .ok () st' ∧ st'.calls = st.calls ++ calls ∧
      inj.bindTable.cleanupList =
        contextEntry context :: calls.map Call.entry ++ [.cleanupEntry (.invokeCleanup context)] := by
  obtain ⟨stF, hF, -, rfl⟩ := createInjector_ok h
  have hW := (Injector.create_ok hF).1
  rw [wrapperConfigure_fresh] at hW
  split at hW
  · rename_i st' hst
    cases hW
    have hw := @configure_wiring context module _ (wiring_initial context)
    have hp := configure_calls_prefix [.addEntry scopeSetupContextId (contextEntry context)]
      module ⟨run [.addEntry scopeSetupContextId (contextEntry context)], 0, World.initial, 0,
        [.addEntry scopeSetupContextId (contextEntry context)]⟩ (List.prefix_refl _)
    rw [hst] at hw hp
    obtain ⟨calls, hcalls⟩ := hp
    refine ⟨_, st', calls, bindToInstance_fresh context, hst, hcalls.symm, ?_⟩
    simp [Binder.addCleanupAction, hw.table, ← hcalls, Call.entry]
  · cases hW

def AllNull (w : World) : Prop := ∀ p, (w.providers p).object = .null

theorem entryDestroy_allNull (e : Entry) {w : World} (h : AllNull w) :
    ∃ w', entryDestroy e w = .ok () w' ∧ AllNull w' ∧ ∃ l, w'.log = w.log ++ l := by
  have hrec : ∀ ev, ∃ w', record ev w = .ok () w' ∧ AllNull w' ∧ ∃ l, w'.log = w.log ++ l :=
    fun ev => ⟨_, rfl, h, [ev], rfl⟩
  have hpure : ∃ w', (pure () : Run Unit) w = .ok () w' ∧ AllNull w' ∧ ∃ l, w'.log = w.log ++ l :=
    ⟨w, rfl, h, [], by simp⟩
  have hptr : ∀ c ptr, ∃ w', cleanupPointer c ptr w = .ok () w' ∧ AllNull w' ∧
      ∃ l, w'.log = w.log ++ l := fun c ptr => by
    cases c
    · exact hrec _
    · exact hpure
    · exact hrec _
  cases e with
  | pointerTableEntry _ ptr c | referenceTableEntry _ ptr c => exact hptr c ptr
  | bindToProviderEntry _ p c =>
    cases p with
    | user id _ => exact hptr c id
    | lazySingleton p _ _ =>
      cases c with
      | deletePointer =>
        refine ⟨w.record (.providerDeleted p), ?_, h, [.providerDeleted p], rfl⟩
        show lazySingletonDestroy p w = _
        rw [lazySingletonDestroy_run, h p]
        rfl
      | doNothing => exact hpure
      | user id => exact hrec _
  | cleanupEntry f =>
    cases f with
    | invokeCleanup c =>
      obtain ⟨w', hw', -, ⟨evs, hlog, -, -⟩, hp⟩ := scopeSetupContextCleanup_ok c w
      exact ⟨w', hw', fun p => by rw [hp p]; split_ifs <;> simp [h p], _, hlog⟩
    | user id => exact hrec _
  | bindToTypeEntry | valueTableEntry | bindToFunction | factoryArgumentEntry | invalidEntry =>
    exact hpure

theorem forM_entryDestroy_allNull : ∀ (es : List Entry) (w : World), AllNull w →
    ∃ w', es.forM entryDestroy w = .ok () w' ∧ AllNull w' ∧ ∃ l, w'.log = w.log ++ l
  | [], w, h => ⟨w, rfl, h, [], by simp⟩
  | e :: es, w, h => by
    obtain ⟨w₁, h₁, hn₁, l₁, hl₁⟩ := entryDestroy_allNull e h
    obtain ⟨w₂, h₂, hn₂, l₂, hl₂⟩ := forM_entryDestroy_allNull es w₁ hn₁
    refine ⟨w₂, ?_, hn₂, l₁ ++ l₂, by simp [hl₂, hl₁]⟩
    simp only [List.forM, bind, EStateM.bind, h₁]
    exact h₂

/-- Injector teardown, after any requests to an injector from `CreateInjector`: the bind
table owns the context's entry, the entries the user's module handed over, in order, then
the entry that calls `ScopeSetupContext::Cleanup`. So `~Injector` always returns, the
DCHECK of `~LazySingletonProvider` never firing: it starts with `ScopeSetupContext::Cleanup`,
which deletes the singletons' objects from the end of the cleanup list, before any entry
of the module is destroyed, and it ends with the deletion of the context, after every
provider that points to it; no object is left. -/
theorem injector_teardown_order (defaultEntry : NamedType → Option DefaultEntry)
    (module : Module) (context injector : Nat) (inj : Injector) (w : World)
    (hreach : Reachable defaultEntry module context injector inj w) :
    (∃ st st' calls,
      Binder.bindToInstance scopeSetupContextArg context .deletePointer
        (ConfigState.fresh World.initial) = .ok () st ∧
      configure module st = .ok () st' ∧ st'.calls = st.calls ++ calls ∧
      inj.bindTable.cleanupList =
        contextEntry context :: calls.map Call.entry ++ [.cleanupEntry (.invokeCleanup context)]) ∧
    ∃ w', injectorDestroy inj w = .ok () w' ∧ (∀ p, (w'.providers p).object = .null) ∧
      ∃ l₁ l₂, w'.log = w.log ++ .contextCleanup context :: l₁ ++ l₂ ++ [.pointerDeleted context] ∧
        deletedProviders l₁ = (w.contexts context).cleanupList.reverse ∧
        ∀ e ∈ l₁, ∃ p o, e = .objectDeleted p o := by
  obtain ⟨⟨w₀, hc⟩, ht⟩ := reachable_tracked hreach
  obtain ⟨st, st', calls, h₁, h₂, h₃, hcl⟩ := createInjector_cleanupList hc
  refine ⟨⟨st, st', calls, h₁, h₂, h₃, hcl⟩, ?_⟩
  obtain ⟨w₁, hw₁, -, ⟨l₁, hl₁, hd₁, he₁⟩, hp₁⟩ := scopeSetupContextCleanup_ok context w
  have hn₁ : AllNull w₁ := fun p => by
    rw [hp₁ p]
    split_ifs with hp
    · rfl
    · exact (ht p).resolve_right hp
  obtain ⟨w₂, hw₂, hn₂, l₂, hl₂⟩ := forM_entryDestroy_allNull (calls.map Call.entry).reverse w₁ hn₁
  refine ⟨w₂.record (.pointerDeleted context), ?_, hn₂, l₁, l₂, by simp [hl₂, hl₁], hd₁, he₁⟩
  have e₁ : entryDestroy (.cleanupEntry (.invokeCleanup context)) w = .ok () w₁ := hw₁
  have e₂ : entryDestroy (contextEntry context) w₂ = .ok () (w₂.record (.pointerDeleted context)) :=
    rfl
  show inj.bindTable.cleanupList.reverse.forM entryDestroy w = _
  rw [hcl]
  simp only [List.reverse_cons, List.reverse_append, List.reverse_nil, List.nil_append,
    List.forM_cons', List.forM_append, List.forM_nil', bind, EStateM.bind, pure, EStateM.pure, e₁,
    hw₂, e₂]

end Reachable

theorem injector_teardown_order_nested : ∃ w,
    Reachable nestedDefaults nestedModule 0 1 nestedInjector w ∧
    (∃ st st' calls,
      Binder.bindToInstance scopeSetupContextArg 0 .deletePointer
        (ConfigState.fresh World.initial) = .ok () st ∧
      configure nestedModule st = .ok () st' ∧
      st'.calls = st.calls ++ calls ∧
      nestedInjector.bindTable.cleanupList =
        contextEntry 0 :: calls.map Call.entry ++ [.cleanupEntry (.invokeCleanup 0)]) ∧
    ∃ w', injectorDestroy nestedInjector w = .ok () w' ∧
      (∀ p, (w'.providers p).object = .null) ∧
      ∃ l₁ l₂, w'.log = w.log ++ .contextCleanup 0 :: l₁ ++ l₂ ++ [.pointerDeleted 0] ∧
        deletedProviders l₁ = (w.contexts 0).cleanupList.reverse ∧
        ∀ e ∈ l₁, ∃ p o, e = .objectDeleted p o :=
  let ⟨w, hw, _⟩ := nested_reachable
  ⟨w, hw, injector_teardown_order _ _ _ _ _ _ hw⟩

end Guicpp.Teardown
