import Guicpp.Wiring

namespace Guicpp.Bindings

open Guicpp.Types Guicpp.At Guicpp.Entries Guicpp.InjectUtil Guicpp.Table Guicpp.Singleton
  Guicpp.Hoare Guicpp.Resolve Guicpp.Configure Guicpp.Tools Guicpp.KeyGraph Guicpp.ScopeInvariant
  Guicpp.Wiring

def Bound (a : Annotations) (t : CType) (e : Entry) (st : ConfigState) : Prop :=
  ∃ tid, getBindId a t = .ok tid ∧ Call.addEntry tid e ∈ st.calls

def Persistent (Q : ConfigState → Prop) : Prop :=
  ∀ st st', List.IsPrefix st.calls st'.calls → Q st → Q st'

def ScopeBound (l : LabelTag) (T : ObjType) (st : ConfigState) : Prop :=
  ∃ p c, Bound (labelAnnotations l) (.object (.pointer T .plain))
    (.bindToProviderEntry (.object (.pointer T .plain)) (.lazySingleton p T c) .deletePointer) st

section Calls

variable {a : Annotations} {t : CType} {e : Entry} {Q : ConfigState → Prop}

theorem Persistent.bound : Persistent (Bound a t e) :=
  fun _ _ hp ⟨tid, hid, hc⟩ => ⟨tid, hid, hp.subset hc⟩

theorem Persistent.scopeBound {l : LabelTag} {T : ObjType} : Persistent (ScopeBound l T) :=
  fun _ _ hp ⟨p, c, hb⟩ => ⟨p, c, Persistent.bound _ _ hp hb⟩

theorem triple_configure_persistent (hQ : Persistent Q) (m : Module) :
    Triple Q (configure m) (fun _ => Q) fun _ _ => True := by
  refine triple_of_forall fun st hst => ?_
  have h := configure_calls_prefix st.calls m
  exact h.mono (fun _ h => h ▸ List.prefix_refl _) (fun _ _ h => hQ _ _ h hst) fun _ _ _ => trivial

theorem triple_configure_of_mem (hQ : Persistent Q) : ∀ (ops : List BinderOp) {op : BinderOp},
    op ∈ ops → Triple (fun _ => True) (configureOp op) (fun _ => Q) (fun _ _ => True) →
    Triple (fun _ => True) (configure ops) (fun _ => Q) fun _ _ => True
  | o :: os, op, hop, hq => by
    rcases List.mem_cons.1 hop with rfl | hop
    · exact triple_bind hq fun _ => triple_configure_persistent hQ os
    · exact triple_bind triple_true fun _ => triple_configure_of_mem hQ os hop hq

theorem triple_bindEntry_bound :
    Triple (fun _ => True) (Binder.bindEntry a t e) (fun _ => Bound a t e) fun _ _ => True :=
  triple_bind (triple_ofExcept (Q := fun tid _ => getBindId a t = .ok tid) (fun _ h _ _ => h)
    fun _ _ _ _ => trivial) fun tid => triple_modify fun _ hid => ⟨tid, hid, by simp⟩

theorem triple_configureOp_bound {op : BinderOp} (hb : op.binding? = some (a, t, e)) :
    Triple (fun _ => True) (configureOp op) (fun _ => Bound a t e) fun _ _ => True := by
  rw [(configureOp_of_binding hb).1]
  exact triple_bindEntry_bound

theorem triple_bindToScope_bound (s : BindArg) :
    Triple (fun _ => True) (configureOp (.bindToScope s))
      (fun _ => ScopeBound s.annotations.labelAt s.argType) fun _ _ => True :=
  triple_bind triple_true fun
    | none => triple_throw fun _ _ => trivial
    | some c => triple_bind triple_true fun p =>
      triple_bindEntry_bound.post fun _ _ h => ⟨p, c, h⟩

end Calls

theorem triple_wrapperConfigure {module : Module} {context : Nat}
    {P R S : ConfigState → Prop} {Q : Unit → ConfigState → Prop} {E : Failure → ConfigState → Prop}
    (h₀ : Triple P (Binder.bindToInstance scopeSetupContextArg context .deletePointer) (fun _ => R) E)
    (h₁ : Triple R (configure module) (fun _ => S) E)
    (h₂ : Triple S (Binder.addCleanupAction (.invokeCleanup context)) Q E) :
    Triple P (wrapperConfigure module context) Q E :=
  triple_bind h₀ fun _ => triple_bind h₁ fun _ => h₂

theorem createInjector_table {defaultEntry : NamedType → Option DefaultEntry} {module : Module}
    {context injector : Nat} {inj : Injector} {w : World}
    (h : createInjector defaultEntry module context injector = .ok (inj, w)) :
    ∃ st : ConfigState, wrapperConfigure module context (ConfigState.fresh World.initial) = .ok () st ∧
      inj.bindTable = run st.calls ∧ ((st.calls.filterMap Call.binding?).map Prod.fst).Nodup := by
  obtain ⟨st, hst, -, rfl⟩ := createInjector_ok h
  obtain ⟨hw, hn⟩ := Injector.create_ok hst
  have hc : Sat (fun _ => ConfigState.Consistent) (fun _ _ => True)
      (wrapperConfigure module context (ConfigState.fresh World.initial)) :=
    triple_wrapperConfigure (triple_bindEntry _ _ _) (configure_consistent module)
      (triple_addCleanupAction _) _ (ConfigState.fresh_consistent _)
  rw [hw] at hc
  exact ⟨st, hw, hc.1, (length_sub_card_eq_zero_iff (bindIds st.calls)).1 (hc.2 ▸ hn)⟩

theorem wrapperConfigure_of_mem {module : Module} {context : Nat} {st : ConfigState}
    (hw : wrapperConfigure module context (ConfigState.fresh World.initial) = .ok () st)
    {Q : ConfigState → Prop} (hQ : Persistent Q) {op : BinderOp} (hop : op ∈ flatten module)
    (hq : Triple (fun _ => True) (configureOp op) (fun _ => Q) fun _ _ => True) : Q st := by
  have h : Sat (fun _ => Q) (fun _ _ => True)
      (wrapperConfigure module context (ConfigState.fresh World.initial)) :=
    triple_wrapperConfigure (P := fun _ => True) triple_true
      (configure_flatten module ▸ triple_configure_of_mem hQ (flatten module) hop hq)
      (triple_modify fun st hst => hQ st _ (List.prefix_append _ _) hst) _ trivial
  rwa [hw] at h

section Request

variable {inj : Injector} (resolve : Resolver) {a : Annotations} {t : CType}

theorem getActualTypeStep_bound {tid : LabelHelper} (hid : getBindId a t = .ok tid) {e : Entry}
    (he : inj.bindTable.findEntry tid = some e)
    (hdef : t.typeSpecifier.isClassOrUnion = true →
      ∃ d, inj.guicppGetDefaultEntry t.typeSpecifier = .ok d)
    (ctx : LocalContext) (stack : List Nat) :
    getActualTypeStep inj resolve a t ctx stack = readEntry resolve t e ctx stack := by
  unfold getBindId at hid
  unfold getActualTypeStep
  split at hid
  next h hh =>
    rw [hh]
    cases h with
    | normalInject =>
      obtain ⟨hi, -, hcls⟩ := guicppGetInjectHandler_normalInject hh
      obtain ⟨d, hd⟩ := hdef hcls
      simp only [InjectHandler.getBindId, Except.ok.injEq] at hid
      subst hid
      simp only [normalInjectHandlerGet, hd, he]
      exact pure_bind _ _
    | missingDefaultType =>
      simp only [InjectHandler.getBindId, Except.ok.injEq] at hid
      subst hid
      simp only [missingDefaultTypeHandlerGet, he]
    | assistedInject => cases hid
    | internalTypeInject => cases hid
  next => cases hid

variable {e : Entry} (he : e.tableEntryType = some t) (hx : t.removeCv = t)
include he hx

theorem readEntry_self (hv : t.referredType.qual.isVolatile = false) (ctx : LocalContext)
    (stack : List Nat) : readEntry resolve t e ctx stack = entryGet resolve e ctx stack := by
  have hr : tableEntryReaderGet t e = .ok t := by
    rw [tableEntryReaderGet_eq_getAndCast he hx hv rfl, getAndCast, if_pos rfl]
    rfl
  simp only [readEntry, hr]
  exact pure_bind _ _

theorem tableEntryReaderGet_volatile (hv : t.referredType.qual.isVolatile = true) :
    tableEntryReaderGet t e = .error (.fatal ("Can not convert BoundType[" ++ categoryString t ++
      "T] to RequestedType[" ++ categoryString t ++ "T]")) := by
  rw [tableEntryReaderGet_eq he rfl]
  rcases t with (⟨n, q⟩ | ⟨p, q⟩) | p
  · obtain rfl : q = .plain := by simpa [CType.removeCv, ObjType.withQual] using hx.symm
    simp [CType.referredType, ObjType.qual, Qual.plain] at hv
  all_goals
    rcases p with ⟨n, ⟨c, v⟩⟩ | ⟨p', ⟨c, v⟩⟩ <;> obtain rfl : v = true := hv <;>
    cases c <;> simp [getAndCast, boundType, categoryString, CType.category, CType.isConst,
      CType.typeSpecifier, CType.referredType, ObjType.withQual, ObjType.qual, Qual.plain, Qual.const,
      Except.mapError]

end Request

theorem createInjector_request_bound {defaultEntry : NamedType → Option DefaultEntry}
    {module : Module} {context injector : Nat} {inj : Injector} {w : World}
    (h : createInjector defaultEntry module context injector = .ok (inj, w)) {op : BinderOp}
    (hop : op ∈ flatten module) {a : Annotations} {t : CType} {e : Entry}
    (hb : op.binding? = some (a, t, e))
    (hdef : t.typeSpecifier.isClassOrUnion = true →
      ∃ d, inj.guicppGetDefaultEntry t.typeSpecifier = .ok d) (fuel : Nat) (ctx : LocalContext)
    (stack : List Nat) :
    getActualType inj (fuel + 1) a t ctx stack = readEntry (getActualType inj fuel) t e ctx stack ∧
      e.tableEntryType = some t ∧ t.removeCv = t := by
  obtain ⟨st, hw, ht, hnodup⟩ := createInjector_table h
  obtain ⟨tid, hid, hc⟩ := wrapperConfigure_of_mem hw Persistent.bound hop (triple_configureOp_bound hb)
  exact ⟨getActualTypeStep_bound _ hid (ht ▸ run_findEntry_of_mem hnodup hc) hdef ctx stack,
    (configureOp_of_binding hb).2⟩

/-- The injector `CreateInjector` builds serves every binding of the user's module, installed
modules included: whatever the bound on its recursion, the local context and the singletons
in construction, a request for the annotations and the type a bind call used is the `Get` of
the entry that call made, once `GuicppGetDefaultEntry` of a bound class compiles and unless
volatile qualifies what the type points or refers to. -/
theorem createInjector_serves_bindings (defaultEntry : NamedType → Option DefaultEntry)
    (module : Module) (context injector : Nat) (inj : Injector) (w : World)
    (h : createInjector defaultEntry module context injector = .ok (inj, w)) (op : BinderOp)
    (hop : op ∈ flatten module) (a : Annotations) (t : CType) (e : Entry)
    (hb : op.binding? = some (a, t, e))
    (hdef : t.typeSpecifier.isClassOrUnion = true →
      ∃ d, inj.guicppGetDefaultEntry t.typeSpecifier = .ok d)
    (hv : t.referredType.qual.isVolatile = false) (fuel : Nat) (ctx : LocalContext)
    (stack : List Nat) :
    getActualType inj (fuel + 1) a t ctx stack = entryGet (getActualType inj fuel) e ctx stack := by
  obtain ⟨hr, he, hx⟩ := createInjector_request_bound h hop hb hdef fuel ctx stack
  rw [hr, readEntry_self _ he hx hv]

def bindingModule : Module :=
  [.bind ⟨emptyAnnotations, .named (.userClass 1) .plain⟩ ⟨emptyAnnotations, .named (.userClass 2) .plain⟩,
    .bindToInstance ⟨emptyAnnotations, .named (.primitive 0) .plain⟩ 5 .deletePointer]

def bindingDefaults (n : NamedType) : Option DefaultEntry :=
  if n = .userClass 1 then some .injectable else if n = .userClass 2 then some (.injectCtor []) else none

theorem createInjector_serves_bind : ∃ inj w,
    createInjector bindingDefaults bindingModule 0 1 = .ok (inj, w) ∧
    .bind ⟨emptyAnnotations, .named (.userClass 1) .plain⟩ ⟨emptyAnnotations, .named (.userClass 2) .plain⟩ ∈
      flatten bindingModule ∧
    BinderOp.binding? (.bind ⟨emptyAnnotations, .named (.userClass 1) .plain⟩
        ⟨emptyAnnotations, .named (.userClass 2) .plain⟩) =
      some (emptyAnnotations, .object (.pointer (.named (.userClass 1) .plain) .plain),
        .bindToTypeEntry (.object (.pointer (.named (.userClass 1) .plain) .plain)) emptyAnnotations
          (.object (.pointer (.named (.userClass 2) .plain) .plain))) ∧
    (CType.typeSpecifier (.object (.pointer (.named (.userClass 1) .plain) .plain))).isClassOrUnion = true ∧
    (∃ d, inj.guicppGetDefaultEntry
      (CType.typeSpecifier (.object (.pointer (.named (.userClass 1) .plain) .plain))) = .ok d) ∧
    (CType.referredType (.object (.pointer (.named (.userClass 1) .plain) .plain))).qual.isVolatile = false ∧
    getActualType inj 2 emptyAnnotations (.object (.pointer (.named (.userClass 1) .plain) .plain)) .empty [] =
      entryGet (getActualType inj 1) (.bindToTypeEntry (.object (.pointer (.named (.userClass 1) .plain) .plain))
        emptyAnnotations (.object (.pointer (.named (.userClass 2) .plain) .plain))) .empty [] :=
  ⟨_, _, rfl, List.mem_cons_self _ _, rfl, rfl, ⟨_, rfl⟩, rfl,
    createInjector_serves_bindings bindingDefaults bindingModule 0 1 _ _ rfl _
      (List.mem_cons_self _ _) _ _ _ rfl (fun _ => ⟨_, rfl⟩) rfl 1 .empty []⟩

/-- A binding whose type points or refers to a volatile type is never served: every request
for its annotations and type is fatal, with a message that names the same category twice. -/
theorem createInjector_volatile_binding_fatal (defaultEntry : NamedType → Option DefaultEntry)
    (module : Module) (context injector : Nat) (inj : Injector) (w : World)
    (h : createInjector defaultEntry module context injector = .ok (inj, w)) (op : BinderOp)
    (hop : op ∈ flatten module) (a : Annotations) (t : CType) (e : Entry)
    (hb : op.binding? = some (a, t, e))
    (hdef : t.typeSpecifier.isClassOrUnion = true →
      ∃ d, inj.guicppGetDefaultEntry t.typeSpecifier = .ok d)
    (hv : t.referredType.qual.isVolatile = true) (fuel : Nat) (ctx : LocalContext)
    (stack : List Nat) :
    getActualType inj (fuel + 1) a t ctx stack = throw (.fatal ("Can not convert BoundType[" ++
      categoryString t ++ "T] to RequestedType[" ++ categoryString t ++ "T]")) := by
  obtain ⟨hr, he, hx⟩ := createInjector_request_bound h hop hb hdef fuel ctx stack
  rw [hr, readEntry, tableEntryReaderGet_volatile he hx hv]
  rfl

theorem createInjector_volatile_int_fatal : ∃ inj w,
    createInjector (fun _ => none)
      [.bindToInstance ⟨emptyAnnotations, .named (.primitive 0) .volatile⟩ 5 .deletePointer] 0 1 =
      .ok (inj, w) ∧
    .bindToInstance ⟨emptyAnnotations, .named (.primitive 0) .volatile⟩ 5 .deletePointer ∈
      flatten [.bindToInstance ⟨emptyAnnotations, .named (.primitive 0) .volatile⟩ 5 .deletePointer] ∧
    BinderOp.binding? (.bindToInstance ⟨emptyAnnotations, .named (.primitive 0) .volatile⟩ 5 .deletePointer) =
      some (emptyAnnotations, .object (.pointer (.named (.primitive 0) .volatile) .plain),
        .pointerTableEntry (.object (.pointer (.named (.primitive 0) .volatile) .plain)) 5 .deletePointer) ∧
    ¬ (CType.typeSpecifier (.object (.pointer (.named (.primitive 0) .volatile) .plain))).isClassOrUnion =
      true ∧
    (CType.referredType (.object (.pointer (.named (.primitive 0) .volatile) .plain))).qual.isVolatile =
      true ∧
    getActualType inj 1 emptyAnnotations (.object (.pointer (.named (.primitive 0) .volatile) .plain))
      .empty [] = throw (.fatal ("Can not convert BoundType[pointer to T] to RequestedType[pointer to T]")) :=
  ⟨_, _, rfl, List.mem_singleton_self _, rfl, by decide, rfl,
    createInjector_volatile_binding_fatal (fun _ => none)
      [.bindToInstance ⟨emptyAnnotations, .named (.primitive 0) .volatile⟩ 5 .deletePointer] 0 1 _ _ rfl
      _ (List.mem_singleton_self _) _ _ _ rfl (fun h => absurd h (by decide)) rfl 0 .empty []⟩

def ContextUnbound (st : ConfigState) : Prop := st.bindTable.findEntry scopeSetupContextId = none

def ScopeFailure (e : Failure) (_ : ConfigState) : Prop :=
  e = .fatal ("Looks like you are using Injector::Create() to create the injector. " ++
    "You must use use guicpp::CreateInjector() for singleton scopes to work") ∨ ∃ m, e = .compileError m

theorem triple_getBoundInstance_unbound :
    Triple ContextUnbound (Binder.getBoundInstance emptyAnnotations (.named .scopeSetupContext .plain))
      (fun r st => r = none ∧ ContextUnbound st) fun _ _ => False := by
  refine triple_bind (R := fun tid st => tid = scopeSetupContextId ∧ ContextUnbound st)
    (triple_ofExcept (fun _ h _ hs => ⟨by cases h; rfl, hs⟩) fun _ h => by cases h)
    fun tid => triple_get_bind fun st ⟨htid, hst⟩ => ?_
  subst htid
  rw [hst]
  exact triple_pure fun _ h => ⟨rfl, h.2⟩

theorem triple_configureScope_unbound (l : LabelTag) (t : ObjType) :
    Triple ContextUnbound (LazySingleton.configureScope l t) (fun _ _ => False) ScopeFailure :=
  triple_bind ((triple_getBoundInstance_unbound).mono (fun _ h => h) (fun _ _ h => h) fun _ _ h => h.elim)
    fun r => by
      cases r with
      | none => exact triple_throw fun _ _ => .inl rfl
      | some c => exact fun _ h => absurd h.1 nofun

theorem triple_configureOp_unbound {op : BinderOp} (hs : ∀ s, op ≠ .bindToScope s)
    (hi : ∀ m, op ≠ .install m)
    (hb : ∀ a t e, op.binding? = some (a, t, e) → getBindId a t ≠ .ok scopeSetupContextId) :
    Triple ContextUnbound (configureOp op) (fun _ => ContextUnbound) ScopeFailure := by
  cases h : op.binding? with
  | some b =>
    obtain ⟨a, t, e⟩ := b
    rw [(configureOp_of_binding h).1]
    refine triple_bind (R := fun tid st => tid ≠ scopeSetupContextId ∧ ContextUnbound st)
      (triple_ofExcept (fun tid hid _ hst => ⟨fun h' => hb a t e h (h' ▸ hid), hst⟩)
        fun f hf _ _ => .inr (getBindId_error hf)) fun tid => triple_modify fun st ⟨htid, hst⟩ => ?_
    simp only [ContextUnbound, BindTable.addEntry, BindTable.findEntry_insert,
      BindTable.findEntry_addToCleanupList] at hst ⊢
    simp [hst, Ne.symm htid]
  | none =>
    rcases BinderOp.binding?_eq_none h with ⟨s, rfl⟩ | ⟨f, rfl⟩ | ⟨m, rfl⟩
    · exact absurd rfl (hs s)
    · exact triple_modify fun _ hst => hst
    · exact absurd rfl (hi m)

theorem triple_configure_scope_fails : ∀ (ops : List BinderOp) {s : BindArg}, .bindToScope s ∈ ops →
    (∀ op ∈ ops, ∀ m, op ≠ .install m) →
    (∀ op ∈ ops, ∀ a t e, op.binding? = some (a, t, e) → getBindId a t ≠ .ok scopeSetupContextId) →
    Triple ContextUnbound (configure ops) (fun _ _ => False) ScopeFailure
  | o :: os, s, hs, hi, hb => by
    by_cases ho : ∃ s', o = .bindToScope s'
    · obtain ⟨s', rfl⟩ := ho
      exact triple_bind (triple_configureScope_unbound _ _) fun _ _ h => h.elim
    · have hs' : .bindToScope s ∈ os := (List.mem_cons.1 hs).resolve_left fun h => ho ⟨s, h.symm⟩
      exact triple_bind (triple_configureOp_unbound (fun s' h => ho ⟨s', h⟩) (hi o (List.mem_cons_self _ _))
        (hb o (List.mem_cons_self _ _)))
        fun _ => triple_configure_scope_fails os hs' (fun op h => hi op (List.mem_cons_of_mem _ h))
          fun op h => hb op (List.mem_cons_of_mem _ h)

/-- Singleton scopes need `CreateInjector`: `Injector::Create` of a module that reaches a
`BindToScope` call, at any depth of `Install`, and never binds `ScopeSetupContext` itself,
fails, at that call with the fatal error of `LazySingleton::ConfigureScope` or earlier with
a compile error of a bind call. -/
theorem create_bindToScope_fails (module : Module) (w : World) (s : BindArg)
    (hscope : .bindToScope s ∈ flatten module)
    (hctx : ∀ op ∈ flatten module, ∀ a t e, op.binding? = some (a, t, e) →
      getBindId a t ≠ .ok scopeSetupContextId) :
    ∃ e st, Injector.create (configure module) (ConfigState.fresh w) = .error e st ∧
      (e = .fatal ("Looks like you are using Injector::Create() to create the injector. " ++
        "You must use use guicpp::CreateInjector() for singleton scopes to work") ∨
        ∃ m, e = .compileError m) := by
  have h := triple_configure_scope_fails (flatten module) hscope
    (fun _ hop => ne_install_of_mem_flatten module hop) hctx (ConfigState.fresh w) rfl
  rw [← configure_flatten] at h
  rw [Injector.create_run]
  revert h
  cases configure module (ConfigState.fresh w) with
  | ok _ _ => exact False.elim
  | error e st => exact fun h => ⟨e, st, rfl, h⟩

theorem create_bindToScope_fails_one :
    .bindToScope ⟨emptyAnnotations, .named (.userClass 0) .plain⟩ ∈
      flatten [.bindToScope ⟨emptyAnnotations, .named (.userClass 0) .plain⟩] ∧
    (∀ op ∈ flatten [.bindToScope ⟨emptyAnnotations, .named (.userClass 0) .plain⟩], ∀ a t e,
      op.binding? = some (a, t, e) → getBindId a t ≠ .ok scopeSetupContextId) ∧
    ∃ e st, Injector.create (configure [.bindToScope ⟨emptyAnnotations, .named (.userClass 0) .plain⟩])
        (ConfigState.fresh World.initial) = .error e st ∧
      (e = .fatal ("Looks like you are using Injector::Create() to create the injector. " ++
        "You must use use guicpp::CreateInjector() for singleton scopes to work") ∨
        ∃ m, e = .compileError m) := by
  have hscope : .bindToScope ⟨emptyAnnotations, .named (.userClass 0) .plain⟩ ∈
      flatten [.bindToScope ⟨emptyAnnotations, .named (.userClass 0) .plain⟩] :=
    List.mem_singleton_self _
  have hctx : ∀ op ∈ flatten [.bindToScope ⟨emptyAnnotations, .named (.userClass 0) .plain⟩],
      ∀ a t e, op.binding? = some (a, t, e) → getBindId a t ≠ .ok scopeSetupContextId := by
    intro op hop
    rw [List.mem_singleton.1 hop]
    exact fun _ _ _ h => nomatch h
  exact ⟨hscope, hctx, create_bindToScope_fails _ _ _ hscope hctx⟩

theorem keyEntry_of_getBindId {inj : Injector} {a : Annotations} {t : CType} {tid : LabelHelper}
    (hid : getBindId a t = .ok tid) {e : Entry} (he : inj.bindTable.findEntry tid = some e) :
    keyEntry inj tid = some e := by
  unfold getBindId at hid
  split at hid
  next h hh =>
    cases h <;> simp only [InjectHandler.getBindId, Except.ok.injEq, reduceCtorEq] at hid <;>
      subst hid
    · obtain ⟨-, hint, -⟩ := guicppGetInjectHandler_normalInject hh
      simp only [normalInjectBindId] at he
      simp [keyEntry, normalInjectBindId, hint, he]
    · obtain ⟨-, hint, -⟩ := guicppGetInjectHandler_missingDefaultType hh
      simp only [normalInjectBindId] at he
      simp [keyEntry, normalInjectBindId, hint, he]
  next => cases hid

theorem createInjector_log {defaultEntry : NamedType → Option DefaultEntry} {module : Module}
    {context injector : Nat} {inj : Injector} {w : World}
    (h : createInjector defaultEntry module context injector = .ok (inj, w)) : w.log = [] := by
  obtain ⟨st, hst, hinit, -⟩ := createInjector_ok h
  have hc := @triple_create_wiring context module _ rfl
  rw [hst] at hc
  rw [scopeSetupContextInit_run] at hinit
  obtain ⟨w', hw', -, hl, -⟩ := forM_lazySingletonInit injector (st.world.contexts context).initList
    (st.world.setContext context { st.world.contexts context with
      injector := some injector
      capacity := (st.world.contexts context).initList.length })
    fun p _ => .inl (by simp [hc.providers_new, LazySingletonProvider.new])
  rw [hw'] at hinit
  cases hinit
  simp [hl, hc.log_nil]

theorem lazySingletonGet_of_nested {resolve : Resolver} {p c : Nat} {T : ObjType}
    {stack : List Nat} {w w' : World} {f : Failure} (hc : (w.providers p).called = false)
    (hinit : invokeInitNow c p w = .ok () w)
    (hr : resolve (labelAnnotations .unScoped) (.object (.pointer T .plain)) .empty (p :: stack) w =
      .error f w') :
    lazySingletonGet resolve p T c stack w = .error f w' := by
  simp only [lazySingletonGet, onceInit, lazySingletonCreate, bind, EStateM.bind, get, getThe,
    MonadStateOf.get, EStateM.get, hc, hinit, Bool.false_eq_true, if_false, hr]

theorem getActualType_self_singleton {inj : Injector} {T : ObjType} {p c : Nat} {cl : CleanupAction}
    {tid : LabelHelper}
    (hid : getBindId (labelAnnotations .unScoped) (.object (.pointer T .plain)) = .ok tid)
    (hk : inj.bindTable.findEntry tid =
      some (.bindToProviderEntry (.object (.pointer T .plain)) (.lazySingleton p T c) cl))
    (hdef : T.isClassOrUnion = true → ∃ d, inj.guicppGetDefaultEntry (T.withQual .plain) = .ok d)
    (hv : T.qual.isVolatile = false) {w : World} (hc : (w.providers p).called = false)
    (hinit : invokeInitNow c p w = .ok () w) :
    ∀ fuel ctx stack, getActualType inj fuel (labelAnnotations .unScoped) (.object (.pointer T .plain))
      ctx stack w = .error .outOfFuel w
  | 0, _, _ => rfl
  | n + 1, ctx, stack => by
    rw [getActualType, getActualTypeStep_bound _ hid hk (fun h => hdef (by simpa [CType.typeSpecifier,
      CType.referredType] using h)),
      readEntry_self (e := .bindToProviderEntry (.object (.pointer T .plain)) (.lazySingleton p T c) cl) _ rfl rfl hv]
    show (do let _ ← lazySingletonGet (getActualType inj n) p T c stack; pure Val.indeterminate) w = _
    simp only [bind, EStateM.bind, lazySingletonGet_of_nested hc hinit
      (getActualType_self_singleton hid hk hdef hv hc hinit n .empty (p :: stack))]

/-- The singleton of provider `p` is not created, and it and the context at `c0` hold the
injector `i`, as `CreateInjector` leaves every provider of the context. -/
def Dormant (i p c0 : Nat) (w : World) : Prop :=
  (w.providers p).called = false ∧ (w.providers p).injector = some i ∧
    (w.contexts c0).injector = some i

section Dormant

variable {i p c0 : Nat} {w : World}

theorem Dormant.invokeInitNow_eq (h : Dormant i p c0 w) : invokeInitNow c0 p w = .ok () w :=
  invokeInitNow_idle h.2.2 h.2.1

theorem Dormant.setProvider (h : Dormant i p c0 w) {q : Nat} (hq : q ≠ p) (x : LazySingletonProvider) :
    Dormant i p c0 (w.setProvider q x) := by
  simpa [Dormant, Ne.symm hq] using h

theorem Dormant.setContext (h : Dormant i p c0 w) {c : Nat} {x : ScopeSetupContext}
    (hx : x.injector = (w.contexts c).injector) : Dormant i p c0 (w.setContext c x) := by
  by_cases hc : c0 = c
  · subst hc
    simpa [Dormant, hx] using h
  · simpa [Dormant, hc] using h

theorem triple_invokeInitNow_dormant {q : Nat} (hq : q ≠ p) (c : Nat) :
    Triple (Dormant i p c0) (invokeInitNow c q) (fun _ => Dormant i p c0) fun _ _ => True := by
  intro w hw
  rw [invokeInitNow_run]
  split
  · trivial
  · rw [lazySingletonInit_run]
    split
    · exact hw.setProvider hq _
    · trivial

theorem triple_finishCreate_dormant {q : Nat} (hq : q ≠ p) (c : Nat) (o : Val) :
    Triple (Dormant i p c0)
      (do
        modify fun w => (w.setProvider q { w.providers q with object := o }).record
          (.singletonCreated q o)
        addToCleanupList c q)
      (fun _ => Dormant i p c0) fun _ _ => True := by
  intro w hw
  show Sat _ _ (addToCleanupList c q _)
  rw [addToCleanupList_run]
  split
  · rename_i x hx
    exact (hw.setProvider hq _).setContext (by rw [ScopeSetupContext.eq_of_addToCleanupList hx]; rfl)
  · trivial

end Dormant

section SelfBound

variable {inj : Injector} {c0 p : Nat} {T : ObjType} {tid : LabelHelper} {cl : CleanupAction}
  (hwired : Wired inj c0)
  (hid : getBindId (labelAnnotations .unScoped) (.object (.pointer T .plain)) = .ok tid)
  (hk : inj.bindTable.findEntry tid =
    some (.bindToProviderEntry (.object (.pointer T .plain)) (.lazySingleton p T c0) cl))
  (hdef : T.isClassOrUnion = true → ∃ d, inj.guicppGetDefaultEntry (T.withQual .plain) = .ok d)
  (hv : T.qual.isVolatile = false)
include hwired hid hk hdef hv

theorem keepsDormant_getActualType : ∀ n a t ctx stack, LocalContext.Leaf ctx →
    Triple (Dormant inj.id p c0) (getActualType inj n a t ctx stack) (fun _ => Dormant inj.id p c0)
      fun _ _ => True
  | 0 => fun _ _ _ _ _ => triple_throw fun _ _ => trivial
  | n + 1 => fun _ _ ctx stack hctx => triple_getActualTypeStep
    (fun e he => triple_readEntry (fun _ _ _ _ => trivial)
      (triple_entryGet e (fun _ _ => keepsDormant_getActualType n _ _ _ _ hctx) fun x q t c cl' hx => by
        subst hx
        rw [hwired.context_eq he]
        by_cases hq : q = p
        · rw [hq] at he ⊢
          rw [hwired.lazySingleton_type he (keyEntry_of_getBindId hid hk)]
          intro w hw
          rw [lazySingletonGet_of_nested hw.1 hw.invokeInitNow_eq
            (getActualType_self_singleton hid hk hdef hv hw.1 hw.invokeInitNow_eq n .empty (p :: stack))]
          trivial
        · exact triple_lazySingletonGet_keeps (triple_invokeInitNow_dormant hq c0)
            (keepsDormant_getActualType n _ _ _ _ (by simp [LocalContext.Leaf, LocalContext.empty]))
            (triple_finishCreate_dormant hq c0) (fun _ hw => hw.setProvider hq _) fun _ _ hw => hw))
    (fun _ hw => hw)
    (fun _ he => triple_readEntry_leaf hctx he fun _ _ _ _ => trivial)
    fun _ _ _ => ⟨trivial, trivial⟩

end SelfBound

theorem createInjector_dormant {defaultEntry : NamedType → Option DefaultEntry} {module : Module}
    {context injector : Nat} {inj : Injector} {w : World}
    (h : createInjector defaultEntry module context injector = .ok (inj, w)) {k : LabelHelper} {p : Nat}
    (hp : ProviderAt inj k p) : Dormant inj.id p context w := by
  obtain ⟨-, hinv⟩ := createInjector_inv h
  refine ⟨?_, hinv.provider_injector p (hinv.provider_mem k p hp), hinv.injector⟩
  rw [Bool.eq_false_iff, Ne, hinv.called_iff, hinv.creation_order, createInjector_log h]
  exact List.not_mem_nil p

/-- `BindToScope` of a type labelled `UnScoped` defeats the guard of
`LazySingletonProvider::Create`, which requests `At<UnScoped, T*>` so as not to find the
singleton again: that is the very key `ConfigureScope` binds the singleton to, so in every
state the injector reaches, a request for it makes `GoogleOnceDynamic::Init` run `Create`
inside itself without end, running out of every bound. -/
theorem createInjector_unscoped_singleton_diverges (defaultEntry : NamedType → Option DefaultEntry)
    (module : Module) (context injector : Nat) (inj : Injector) (w : World)
    (hreach : Reachable defaultEntry module context injector inj w) (s : BindArg)
    (hs : .bindToScope s ∈ flatten module) (hl : s.annotations.labelAt = .unScoped)
    (hdef : s.argType.isClassOrUnion = true →
      ∃ d, inj.guicppGetDefaultEntry (s.argType.withQual .plain) = .ok d)
    (hv : s.argType.qual.isVolatile = false) (fuel : Nat) (ctx : LocalContext) (stack : List Nat) :
    getActualType inj fuel (labelAnnotations .unScoped) (.object (.pointer s.argType .plain)) ctx stack
      w = .error .outOfFuel w := by
  obtain ⟨w₀, h⟩ := hreach.created
  obtain ⟨st, hw, ht, hnodup⟩ := createInjector_table h
  obtain ⟨p, c, tid, hid, hc⟩ :=
    wrapperConfigure_of_mem hw Persistent.scopeBound hs (triple_bindToScope_bound s)
  rw [hl] at hid
  have hk := ht ▸ run_findEntry_of_mem hnodup hc
  have hwired := (createInjector_inv h).1
  have hkey := keyEntry_of_getBindId hid hk
  obtain rfl := hwired.context_eq hkey
  have hd : Dormant inj.id p c w := by
    induction hreach with
    | create h' => exact createInjector_dormant h' ⟨_, _, _, _, hkey⟩
    | request _ hctx hrun ih =>
      exact (keepsDormant_getActualType hwired hid hk hdef hv _ _ _ _ _ hctx).ok ih hrun
  exact getActualType_self_singleton hid hk hdef hv hd.1 hd.invokeInitNow_eq fuel ctx stack

def unscopedModule : Module :=
  [.bindToScope ⟨labelAnnotations .unScoped, .named (.primitive 0) .plain⟩,
    .bindToScope ⟨emptyAnnotations, .named (.userClass 0) .plain⟩]

theorem createInjector_unscoped_int_diverges : ∃ inj w,
    Reachable (fun n => if n = .userClass 0 then some (.injectCtor []) else none) unscopedModule 0 1
      inj w ∧
    (∃ v, Event.singletonGot 1 v [] ∈ w.log) ∧
    .bindToScope ⟨labelAnnotations .unScoped, .named (.primitive 0) .plain⟩ ∈ flatten unscopedModule ∧
    (labelAnnotations .unScoped).labelAt = .unScoped ∧
    ¬ (ObjType.named (.primitive 0) .plain).isClassOrUnion = true ∧
    (ObjType.named (.primitive 0) .plain).qual.isVolatile = false ∧
    getActualType inj 100 (labelAnnotations .unScoped) (.object (.pointer (.named (.primitive 0) .plain) .plain))
      .empty [] w = .error .outOfFuel w := by
  obtain ⟨w, hw, hb⟩ := (Reachable.create rfl : Reachable
    (fun n => if n = .userClass 0 then some (.injectCtor []) else none) unscopedModule 0 1 _ _)
    |>.request_of_eq_true 2 emptyAnnotations (.object (.pointer (.named (.userClass 0) .plain) .plain))
      .empty (by simp [LocalContext.Leaf, LocalContext.empty])
      (fun w => w.log.any fun | .singletonGot 1 _ [] => true | _ => false) (by decide)
  obtain ⟨e, he, hm⟩ := List.any_eq_true.1 hb
  split at hm
  · exact ⟨_, w, hw, ⟨_, he⟩, List.mem_cons_self _ _, rfl, by decide, rfl,
      createInjector_unscoped_singleton_diverges _ unscopedModule 0 1 _ w hw _ (List.mem_cons_self _ _)
        rfl (fun h => absurd h (by decide)) rfl 100 .empty []⟩
  · cases hm

section Sound

def CallsAll (R : LabelHelper → Entry → Prop) (st : ConfigState) : Prop :=
  ∀ k e, Call.addEntry k e ∈ st.calls → R k e

variable {R : LabelHelper → Entry → Prop}

theorem CallsAll.append_cleanup {st : ConfigState} (h : CallsAll R st) (c : Entry)
    (st' : ConfigState) (hc : st'.calls = st.calls ++ [.addToCleanupList c]) : CallsAll R st' :=
  fun k e hk => by
    rw [hc, List.mem_append, List.mem_singleton] at hk
    exact hk.elim (h k e) nofun

theorem triple_configureOp_all {op : BinderOp} (hi : ∀ m, op ≠ .install m)
    (hreg : ∀ k e, op.Registers k e → R k e) :
    Triple (CallsAll R) (configureOp op) (fun _ => CallsAll R) fun _ _ => True :=
  triple_of_forall fun st hs => (triple_configureOp_registers st.calls op hi).mono
    (fun _ h => h ▸ rfl) (fun _ _ ⟨l, hl, hr⟩ k e hk => by
      rw [hl, List.mem_append] at hk
      rcases hk with hk | hk
      · exact hs k e hk
      · obtain ⟨o, ho, hro⟩ := hr.mem (List.mem_filterMap.2 ⟨_, hk, rfl⟩)
        rw [List.mem_singleton.1 ho] at hro
        exact hreg k e hro)
    fun _ _ _ => trivial

theorem triple_configure_mem {P : ConfigState → Prop} {E : Failure → ConfigState → Prop} :
    ∀ ops : List BinderOp, (∀ op ∈ ops, Triple P (configureOp op) (fun _ => P) E) →
      Triple P (configure ops) (fun _ => P) E
  | [], _ => triple_pure fun _ h => h
  | op :: ops, h => triple_bind (h op (List.mem_cons_self _ _)) fun _ =>
    triple_configure_mem ops fun o ho => h o (List.mem_cons_of_mem _ ho)

theorem wrapperConfigure_all {module : Module} {context : Nat} {st : ConfigState}
    (hw : wrapperConfigure module context (ConfigState.fresh World.initial) = .ok () st)
    (hctx : R scopeSetupContextId (contextEntry context))
    (hops : ∀ op ∈ flatten module, ∀ k e, op.Registers k e → R k e) :
    CallsAll R st := by
  have h : Sat (fun _ => CallsAll R) (fun _ _ => True)
      (wrapperConfigure module context (ConfigState.fresh World.initial)) :=
    triple_wrapperConfigure (P := (· = ConfigState.fresh World.initial))
      (fun _ h => by
        rw [h, bindToInstance_fresh]
        intro k e hk
        cases List.mem_singleton.1 hk
        exact hctx)
      (configure_flatten module ▸ triple_configure_mem (flatten module) fun op hop =>
        triple_configureOp_all (ne_install_of_mem_flatten module hop) (hops op hop))
      (triple_modify fun st hs => hs.append_cleanup _ _ rfl) _ rfl
  rwa [hw] at h

def ModuleEntry (module : Module) (context : Nat) (k : LabelHelper) (e : Entry) : Prop :=
  (k = scopeSetupContextId ∧ e = contextEntry context) ∨ ∃ op ∈ flatten module, op.Registers k e

/-- The table of the injector `CreateInjector` builds holds nothing but what the wrapper and
the user's module bound: every entry a key finds is the context's, the binding of a bind call
of the module (at any depth of `Install`) at that call's key, or the lazy singleton, on the
context, that a `BindToScope` of the module bound at `At<L, T*>`. -/
theorem createInjector_findEntry_sound (defaultEntry : NamedType → Option DefaultEntry)
    (module : Module) (context injector : Nat) (inj : Injector) (w : World)
    (h : createInjector defaultEntry module context injector = .ok (inj, w)) (k : LabelHelper)
    (e : Entry) (hk : inj.bindTable.findEntry k = some e) :
    (k = scopeSetupContextId ∧ e = contextEntry context) ∨
    (∃ op ∈ flatten module, ∃ a t, op.binding? = some (a, t, e) ∧ getBindId a t = .ok k) ∨
    ∃ s, .bindToScope s ∈ flatten module ∧ ∃ p,
      getBindId (labelAnnotations s.annotations.labelAt) (.object (.pointer s.argType .plain)) =
        .ok k ∧
      e = .bindToProviderEntry (.object (.pointer s.argType .plain)) (.lazySingleton p s.argType context)
        .deletePointer := by
  obtain ⟨st, hst, -, rfl⟩ := createInjector_ok h
  have hwire := @triple_create_wiring context module _ rfl
  rw [hst] at hwire
  have hfrom : CallsAll (ModuleEntry module context) st :=
    wrapperConfigure_all (Injector.create_ok hst).1 (.inl ⟨rfl, rfl⟩) fun op hop k e hr =>
      .inr ⟨op, hop, hr⟩
  have hmem := mem_of_run_findEntry (hwire.table ▸ hk)
  rcases hfrom k e hmem with he | ⟨op, hop, ⟨a, t, hb, hid⟩ | ⟨s, rfl, hid, p, c, rfl⟩⟩
  · exact .inl he
  · exact .inr (.inl ⟨op, hop, a, t, hb, hid⟩)
  · obtain ⟨rfl, -⟩ := hwire.calls_context _ hmem p c rfl
    exact .inr (.inr ⟨s, hop, p, hid, rfl⟩)

theorem createInjector_findEntry_bind : ∃ inj w,
    createInjector bindingDefaults bindingModule 0 1 = .ok (inj, w) ∧ ∃ e,
      inj.bindTable.findEntry (normalInjectBindId emptyAnnotations (.named (.userClass 1) .plain)) =
        some e ∧
      ((normalInjectBindId emptyAnnotations (.named (.userClass 1) .plain) = scopeSetupContextId ∧
          e = contextEntry 0) ∨
        (∃ op ∈ flatten bindingModule, ∃ a t, op.binding? = some (a, t, e) ∧
          getBindId a t = .ok (normalInjectBindId emptyAnnotations (.named (.userClass 1) .plain))) ∨
        ∃ s, .bindToScope s ∈ flatten bindingModule ∧ ∃ p,
          getBindId (labelAnnotations s.annotations.labelAt) (.object (.pointer s.argType .plain)) =
            .ok (normalInjectBindId emptyAnnotations (.named (.userClass 1) .plain)) ∧
          e = .bindToProviderEntry (.object (.pointer s.argType .plain)) (.lazySingleton p s.argType 0)
            .deletePointer) :=
  ⟨_, _, rfl, _, rfl, createInjector_findEntry_sound bindingDefaults bindingModule 0 1 _ _ rfl _ _ rfl⟩

end Sound

end Guicpp.Bindings
