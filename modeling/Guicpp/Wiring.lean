import Guicpp.Tools
import Guicpp.ScopeInvariant

namespace Guicpp.Wiring

open Guicpp.Types Guicpp.At Guicpp.Entries Guicpp.InjectUtil Guicpp.Table Guicpp.Singleton
  Guicpp.Hoare Guicpp.Resolve Guicpp.KeyGraph Guicpp.Configure Guicpp.Tools Guicpp.ScopeInvariant

def lazySingletonOf : Entry → Option (Nat × Nat)
  | .bindToProviderEntry _ (.lazySingleton p _ c) _ => some (p, c)
  | _ => none

/-- The key `WrapperModule::Configure` binds the context under. -/
def scopeSetupContextId : LabelHelper :=
  normalInjectBindId emptyAnnotations (.named .scopeSetupContext .plain)

/-- The entry `WrapperModule::Configure` binds the context at `context` to. -/
def contextEntry (context : Nat) : Entry :=
  .pointerTableEntry scopeSetupContextArg.pointerType context .deletePointer

def ConfigError (e : Failure) (_ : ConfigState) : Prop := ∃ m, e = .compileError m

/-- The failures of `Injector::Create` on the wrapper module: a key that does not compile,
or the count of the bindings whose key was taken. -/
def CreateError (e : Failure) : Prop :=
  (∃ m, e = .compileError m) ∨
    ∃ n, n ≠ 0 ∧ e = .fatal ("Creation of Injector failed: " ++ "Module had " ++ toString n ++ " errors. ")

/-- The binder of `CreateInjector` while the user's module configures: the context's entry
came first, the providers are new and all in the context's init list, and each provider
is held by one call. -/
structure BinderWiring (c0 : Nat) (st : ConfigState) : Prop where
  table : st.bindTable = run st.calls
  head : ∃ rest, st.calls = .addEntry scopeSetupContextId (contextEntry c0) :: rest
  providers_new : ∀ p, st.world.providers p = .new
  log_nil : st.world.log = []
  cleanup_nil : (st.world.contexts c0).cleanupList = []
  initList_nodup : (st.world.contexts c0).initList.Nodup
  initList_lt : ∀ p ∈ (st.world.contexts c0).initList, p < st.providerCount
  calls_context : ∀ x ∈ st.calls, ∀ p c, lazySingletonOf x.entry = some (p, c) →
    c = c0 ∧ p ∈ (st.world.contexts c0).initList
  calls_unique : ∀ x ∈ st.calls, ∀ y ∈ st.calls, ∀ p c c', lazySingletonOf x.entry = some (p, c) →
    lazySingletonOf y.entry = some (p, c') → x = y

def FreshEntry (c0 : Nat) (st : ConfigState) (e : Entry) : Prop :=
  ∀ p c, lazySingletonOf e = some (p, c) → c = c0 ∧ p ∈ (st.world.contexts c0).initList ∧
    ∀ x ∈ st.calls, ∀ c', lazySingletonOf x.entry ≠ some (p, c')

section Config

variable {c0 : Nat}

theorem BinderWiring.addCall {st : ConfigState} (h : BinderWiring c0 st) (x : Call LabelHelper Entry)
    (hx : FreshEntry c0 st x.entry) (n : Nat) :
    BinderWiring c0
      { st with
        bindTable := Call.apply st.bindTable x
        numErrors := n
        calls := st.calls ++ [x] } := by
  obtain ⟨rest, hr⟩ := h.head
  refine { h with
    table := by simp [h.table]
    head := ⟨rest ++ [x], by simp [hr]⟩
    calls_context := fun y hy p c hpc => ?_
    calls_unique := fun y hy₀ z hz₀ p c c' hy' hz' => ?_ }
  · rcases List.mem_append.1 hy with hy | hy
    · exact h.calls_context y hy p c hpc
    · obtain rfl := List.mem_singleton.1 hy
      exact (hx p c hpc).imp_right And.left
  · rcases List.mem_append.1 hy₀ with hy | hy <;> rcases List.mem_append.1 hz₀ with hz | hz
    · exact h.calls_unique y hy z hz p c c' hy' hz'
    · obtain rfl := List.mem_singleton.1 hz
      exact absurd hy' ((hx p c' hz').2.2 y hy c)
    · obtain rfl := List.mem_singleton.1 hy
      exact absurd hz' ((hx p c hy').2.2 z hz c')
    · rw [List.mem_singleton.1 hy, List.mem_singleton.1 hz]

theorem triple_bindEntry_wiring (a : Annotations) (t : CType) (e : Entry) :
    Triple (fun st => BinderWiring c0 st ∧ FreshEntry c0 st e) (Binder.bindEntry a t e)
      (fun _ => BinderWiring c0) ConfigError :=
  triple_bind (triple_ofExcept (fun _ _ _ h => h) fun _ hf _ _ => getBindId_error hf)
    fun tid => triple_modify fun _ ⟨h, hf⟩ => h.addCall (.addEntry tid e) hf _

theorem triple_bindEntry_plain (a : Annotations) (t : CType) {e : Entry}
    (he : lazySingletonOf e = none) :
    Triple (BinderWiring c0) (Binder.bindEntry a t e) (fun _ => BinderWiring c0) ConfigError :=
  (triple_bindEntry_wiring a t e).mono (fun _ h => ⟨h, fun p c hpc => by simp [he] at hpc⟩)
    (fun _ _ h => h) fun _ _ h => h

theorem triple_addCleanupAction_wiring (f : CleanupFunctor) :
    Triple (BinderWiring c0) (Binder.addCleanupAction f) (fun _ => BinderWiring c0) ConfigError :=
  triple_modify fun _ h => h.addCall (.addToCleanupList (.cleanupEntry f))
    (fun p c hpc => by simp [Call.entry, lazySingletonOf] at hpc) _

theorem triple_getBoundInstance_context :
    Triple (BinderWiring c0) (Binder.getBoundInstance emptyAnnotations (.named .scopeSetupContext .plain))
      (fun r st => r = some c0 ∧ BinderWiring c0 st) ConfigError := by
  refine triple_bind (R := fun tid st => tid = scopeSetupContextId ∧ BinderWiring c0 st)
    (triple_ofExcept (fun tid h _ hst => ⟨by cases h; rfl, hst⟩) fun _ h => by cases h)
    fun tid => triple_of_forall fun st ⟨htid, hst⟩ => ?_
  subst htid
  obtain ⟨rest, hr⟩ := hst.head
  have hfind : st.bindTable.findEntry scopeSetupContextId = some (contextEntry c0) := by
    simp [hst.table, run_findEntry, hr, Call.binding?]
  refine triple_get_bind_eq fun v hv => ?_
  subst hv
  rw [hfind]
  exact triple_bind (triple_ofExcept (fun _ _ _ h => h) fun _ hf => nomatch hf) fun _ =>
    triple_pure fun _ h => h ▸ ⟨rfl, hst⟩

theorem triple_newLazySingletonProvider_wiring :
    Triple (BinderWiring c0) (newLazySingletonProvider c0) (fun p st => BinderWiring c0 st ∧
      p ∈ (st.world.contexts c0).initList ∧
      ∀ x ∈ st.calls, ∀ c', lazySingletonOf x.entry ≠ some (p, c')) ConfigError := by
  intro st h
  have hfresh : st.providerCount ∉ (st.world.contexts c0).initList :=
    fun hm => Nat.lt_irrefl _ (h.initList_lt _ hm)
  rw [newLazySingletonProvider_run, ScopeSetupContext.addToInitList, if_neg hfresh]
  refine ⟨{ h with
    providers_new := fun p => by by_cases hp : p = st.providerCount <;> simp [hp, h.providers_new]
    log_nil := by simp [h.log_nil]
    cleanup_nil := by simp [h.cleanup_nil]
    initList_nodup := by
      simpa using List.nodup_append_comm.1 (List.nodup_cons.2 ⟨hfresh, h.initList_nodup⟩)
    initList_lt := fun p hp => ?_
    calls_context := fun x hx p c hpc => ?_ }, by simp, fun x hx c' hpc => ?_⟩
  · simp only [World.contexts_setContext, if_pos rfl, ite_true, List.mem_append,
      List.mem_singleton] at hp
    rcases hp with hp | rfl
    · exact Nat.lt_succ_of_lt (h.initList_lt p hp)
    · exact Nat.lt_succ_self _
  · obtain ⟨rfl, hp⟩ := h.calls_context x hx p c hpc
    exact ⟨rfl, by simp [hp]⟩
  · exact hfresh (h.calls_context x hx _ c' hpc).2

theorem triple_configureScope_wiring (l : LabelTag) (t : ObjType) :
    Triple (BinderWiring c0) (LazySingleton.configureScope l t) (fun _ => BinderWiring c0) ConfigError := by
  refine triple_bind triple_getBoundInstance_context fun r => ?_
  cases r with
  | none => exact triple_throw fun _ h => nomatch h.1
  | some c =>
    refine triple_of_forall fun st ⟨hc, hst⟩ => ?_
    cases hc
    refine Triple.mono (P := BinderWiring c0) ?_ (fun s hs => hs ▸ hst) (fun _ _ h => h) fun _ _ h => h
    refine triple_bind triple_newLazySingletonProvider_wiring fun p => ?_
    refine (triple_bindEntry_wiring _ _ _).mono (fun st ⟨h, hp, hx⟩ => ⟨h, fun q c hq => ?_⟩)
      (fun _ _ h => h) fun _ _ h => h
    simp only [lazySingletonOf, Option.some.injEq, Prod.mk.injEq] at hq
    obtain ⟨rfl, rfl⟩ := hq
    exact ⟨rfl, hp, hx⟩

theorem configure_wiring : ∀ m : Module,
    Triple (BinderWiring c0) (configure m) (fun _ => BinderWiring c0) ConfigError :=
  triple_configure fun
    | .bind .., _ | .bindValueType .., _ | .bindToInstance .., _ | .bindToValue .., _
    | .bindRefToPointed .., _ | .bindToProvider .., _ | .bindValueToProvider .., _ =>
      triple_bindEntry_plain _ _ rfl
    | .bindToScope _, _ => triple_configureScope_wiring _ _
    | .addCleanupAction f, _ => triple_addCleanupAction_wiring (.user f)
    | .install m, h => absurd rfl (h m)

theorem bindToInstance_fresh (c0 : Nat) :
    Binder.bindToInstance scopeSetupContextArg c0 .deletePointer (ConfigState.fresh World.initial) =
      .ok () ⟨run [.addEntry scopeSetupContextId (contextEntry c0)], 0, World.initial, 0,
        [.addEntry scopeSetupContextId (contextEntry c0)]⟩ := rfl

theorem wiring_initial (c0 : Nat) :
    BinderWiring c0 ⟨run [.addEntry scopeSetupContextId (contextEntry c0)], 0, World.initial, 0,
      [.addEntry scopeSetupContextId (contextEntry c0)]⟩ where
  table := rfl
  head := ⟨[], rfl⟩
  providers_new _ := rfl
  log_nil := rfl
  cleanup_nil := rfl
  initList_nodup := List.nodup_nil
  initList_lt _ h := absurd h (List.not_mem_nil _)
  calls_context x hx p c h := by
    obtain rfl := List.mem_singleton.1 hx
    cases h
  calls_unique x hx _ _ p c c' h := by
    obtain rfl := List.mem_singleton.1 hx
    cases h

theorem triple_create_wiring (M : Module) :
    Triple (· = ConfigState.fresh World.initial) (Injector.create (wrapperConfigure M c0))
      (fun _ => BinderWiring c0) fun e _ => CreateError e := by
  intro st hst
  have h : Sat (fun _ => BinderWiring c0) ConfigError (wrapperConfigure M c0 st) :=
    triple_bind (P := (· = ConfigState.fresh World.initial)) (R := fun _ => BinderWiring c0)
      (fun _ h => by rw [h, bindToInstance_fresh]; exact wiring_initial c0)
      (fun _ => triple_bind (configure_wiring M) fun _ => triple_addCleanupAction_wiring _) st hst
  rw [Injector.create_run]
  rcases hr : wrapperConfigure M c0 st with ⟨⟨⟩, st'⟩ | ⟨e, st'⟩ <;> rw [hr] at h
  · dsimp only
    split_ifs with hn
    · exact .inr ⟨_, hn, rfl⟩
    · exact h
  · exact .inl h

end Config

theorem guicppGetDefaultEntry_lazySingletonOf {inj : Injector} {s : ObjType} {e : Entry}
    (h : inj.guicppGetDefaultEntry s = .ok e) : lazySingletonOf e = none := by
  unfold Injector.guicppGetDefaultEntry at h
  split at h
  · split at h
    · rename_i d _
      cases h
      cases d <;> rfl
    · cases h
  · cases h

theorem keyEntry_lazySingleton {inj : Injector} {k : LabelHelper} {e : Entry} {pc : Nat × Nat}
    (hk : keyEntry inj k = some e) (he : lazySingletonOf e = some pc) :
    inj.bindTable.findEntry k = some e := by
  unfold keyEntry at hk
  split at hk
  · split_ifs at hk with hi hc
    · cases hf : inj.bindTable.findEntry k with
      | some e' => simpa [hf] using hk
      | none =>
        rw [hf, Option.none_or] at hk
        cases hd : inj.guicppGetDefaultEntry k.typeSpecifier with
        | ok d =>
          rw [hd] at hk
          cases hk
          simp [guicppGetDefaultEntry_lazySingletonOf hd] at he
        | error f => simp [hd, Except.toOption] at hk
    · simpa using hk
  · cases hk

theorem BinderWiring.mem_calls {c0 : Nat} {st : ConfigState} (h : BinderWiring c0 st) {inj : Injector}
    (ht : inj.bindTable = st.bindTable) {k : LabelHelper} {e : Entry} {pc : Nat × Nat}
    (hk : keyEntry inj k = some e) (he : lazySingletonOf e = some pc) : .addEntry k e ∈ st.calls := by
  have hf := keyEntry_lazySingleton hk he
  rw [ht, h.table, run_findEntry] at hf
  obtain ⟨l₁, l₂, hl, -⟩ := List.lookup_eq_some_iff.1 hf
  obtain ⟨y, hy, hyk⟩ := List.mem_filterMap.1
    (hl ▸ List.mem_append_right _ (List.mem_cons_self _ _) : (k, e) ∈ st.calls.filterMap Call.binding?)
  cases y with
  | addEntry k' e' =>
    simp only [Call.binding?, Option.some.injEq, Prod.mk.injEq] at hyk
    obtain ⟨rfl, rfl⟩ := hyk
    exact hy
  | addToCleanupList _ => cases hyk

theorem BinderWiring.wired {c0 : Nat} {st : ConfigState} (h : BinderWiring c0 st) {inj : Injector}
    (ht : inj.bindTable = st.bindTable) : Wired inj c0 where
  context_eq hk := (h.calls_context _ (h.mem_calls ht hk rfl) _ _ rfl).1
  key_unique := by
    rintro k k' p ⟨x, t, c, cl, hk⟩ ⟨x', t', c', cl', hk'⟩
    cases h.calls_unique _ (h.mem_calls ht hk rfl) _ (h.mem_calls ht hk' rfl) p c c' rfl rfl
    rfl

theorem BinderWiring.init {c0 : Nat} {st : ConfigState} (h : BinderWiring c0 st)
    (defaultEntry : NamedType → Option DefaultEntry) (id : Nat) :
    ∃ w, scopeSetupContextInit c0 id st.world = .ok () w ∧
      Inv ⟨st.bindTable, id, defaultEntry⟩ c0 [] w := by
  rw [scopeSetupContextInit_run]
  obtain ⟨w, hw, hc, hl, hp⟩ := forM_lazySingletonInit id (st.world.contexts c0).initList
    (st.world.setContext c0 { st.world.contexts c0 with
      injector := some id
      capacity := (st.world.contexts c0).initList.length })
    fun p _ => .inl (by simp [h.providers_new, LazySingletonProvider.new])
  have hcx : w.contexts c0 = { st.world.contexts c0 with
      injector := some id
      capacity := (st.world.contexts c0).initList.length } := by simp [hc]
  have hpw : ∀ p, w.providers p = if p ∈ (st.world.contexts c0).initList
      then { LazySingletonProvider.new with injector := some id } else .new := fun p => by
    simp [hp p, h.providers_new]
  have hlog : w.log = [] := by simp [hl, h.log_nil]
  have hcalled : ∀ p, (w.providers p).called = false := fun p => by rw [hpw]; split_ifs <;> rfl
  refine ⟨w, hw,
    { injector := by rw [hcx]
      capacity := by rw [hcx]
      initList_nodup := by rw [hcx]; exact h.initList_nodup
      provider_mem := fun k p hk => ?_
      provider_injector := fun p hp => ?_
      cleanup_nodup := by simp [hcx, h.cleanup_nil]
      cleanup_subset := by simp [hcx, h.cleanup_nil]
      called_iff := fun p => ?_
      creation_order := by simp [hcx, h.cleanup_nil, hlog]
      stack_fresh := by simp
      object_null := fun p _ => by rw [hpw]; split_ifs <;> rfl
      created := fun p => by rw [hlog, hcalled]; rfl
      got := fun _ _ _ hg => by simp [hlog] at hg
      got_order := fun _ _ _ hg => by simp [hlog] at hg }⟩
  · obtain ⟨x, t, c, cl, he⟩ := hk
    rw [hcx]
    exact (h.calls_context _ (h.mem_calls rfl he rfl) p c rfl).2
  · rw [hcx] at hp
    simp [hpw, hp]
  · simp [hcalled, hcx, h.cleanup_nil]

section Create

variable {defaultEntry : NamedType → Option DefaultEntry} {module : Module} {c0 id : Nat}

/-- An injector from `CreateInjector` is wired to its context and starts the invariant. -/
theorem createInjector_inv {inj : Injector} {w : World}
    (h : createInjector defaultEntry module c0 id = .ok (inj, w)) : Wired inj c0 ∧ Inv inj c0 [] w := by
  obtain ⟨st, hst, hw, rfl⟩ := createInjector_ok h
  have hc := @triple_create_wiring c0 module _ rfl
  rw [hst] at hc
  obtain ⟨w', hw', hinv⟩ := BinderWiring.init hc defaultEntry id
  cases hw.symm.trans hw'
  exact ⟨hc.wired rfl, hinv⟩

theorem createInjector_error {e : Failure}
    (h : createInjector defaultEntry module c0 id = .error e) : CreateError e := by
  unfold createInjector at h
  have hc := @triple_create_wiring c0 module _ rfl
  split at h
  · rename_i e' st hst
    rw [hst] at hc
    cases h
    exact hc
  · rename_i st hst
    rw [hst] at hc
    obtain ⟨w', hw', -⟩ := BinderWiring.init hc defaultEntry id
    rw [hw'] at h
    cases h

theorem createInjector_not_fault {e : Failure}
    (h : createInjector defaultEntry module c0 id = .error e) : ¬ SingletonFault e := by
  rcases createInjector_error h with ⟨m, rfl⟩ | ⟨n, -, rfl⟩ <;> simp [SingletonFault]

/-- `CreateInjector` fails only with the compile error of a key of the user's module or with
`Injector::Create`'s count of the bindings whose key was taken: never by a DCHECK, by the
fatal error of `GetBoundInstance` or of `ConfigureScope`, or by a write past
`cleanup_list_`. -/
theorem createInjector_failures (defaultEntry : NamedType → Option DefaultEntry) (module : Module)
    (context injector : Nat) (e : Failure)
    (h : createInjector defaultEntry module context injector = .error e) :
    (∃ m, e = .compileError m) ∨
      ∃ n, n ≠ 0 ∧ e = .fatal ("Creation of Injector failed: " ++ "Module had " ++ toString n ++
        " errors. ") :=
  createInjector_error h

end Create

def intTwice : Module :=
  [.bindToValue ⟨emptyAnnotations, .object (.named (.primitive 0) .plain)⟩ 1,
    .bindToValue ⟨emptyAnnotations, .object (.named (.primitive 0) .plain)⟩ 2]

theorem createInjector_failures_intTwice : ∃ e,
    createInjector (fun _ => none) intTwice 0 1 = .error e ∧
    ((∃ m, e = .compileError m) ∨
      ∃ n, n ≠ 0 ∧ e = .fatal ("Creation of Injector failed: " ++ "Module had " ++ toString n ++
        " errors. ")) :=
  ⟨_, rfl, createInjector_failures (fun _ => none) intTwice 0 1 _ rfl⟩

end Guicpp.Wiring
