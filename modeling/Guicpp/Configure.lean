import Guicpp.Resolve
import Mathlib

namespace Guicpp.Configure

open Guicpp.Types Guicpp.At Guicpp.Entries Guicpp.InjectUtil Guicpp.Table Guicpp.Singleton
  Guicpp.Hoare Guicpp.Resolve

/-- The type argument of a bind operation that uses its `ArgType`: `At<annotations..., T>`
with `T` as written. -/
structure BindArg where
  annotations : Annotations
  argType : ObjType

def BindArg.pointerType (b : BindArg) : CType := .object (.pointer b.argType .plain)

def BindArg.referenceType (b : BindArg) : CType := .reference b.argType

/-- The calls a module's `Configure` makes on its `Binder`. -/
inductive BinderOp where
  | bind (iface impl : BindArg)
  | bindValueType (t d : ParamType)
  | bindToInstance (t : BindArg) (ptr : Nat) (cleanupAction : CleanupAction)
  | bindToValue (t : ParamType) (value : Nat)
  | bindRefToPointed (t : BindArg) (ptr : Nat) (cleanupAction : CleanupAction)
  | bindToProvider (t : BindArg) (provider : Nat) (params : List ParamType)
      (cleanupAction : CleanupAction)
  | bindValueToProvider (t : ParamType) (provider : Nat) (params : List ParamType)
      (cleanupAction : CleanupAction)
  | bindToScope (t : BindArg)
  | addCleanupAction (functor : Nat)
  | install (module : List BinderOp)

/-- A module is its `Configure`: the calls it makes, in order. -/
abbrev Module := List BinderOp

/-- A `Binder` (`bind_table_`, `num_errors_`), the heap `ConfigureScope` touches, the next
free provider address, and the calls made on the bind table so far. -/
structure ConfigState where
  bindTable : BindTable LabelHelper Entry
  numErrors : Nat
  world : World
  providerCount : Nat
  calls : List (Call LabelHelper Entry)

abbrev ConfigM := EStateM Failure ConfigState

def ConfigState.fresh (w : World) : ConfigState := ⟨.empty, 0, w, 0, []⟩

/-- `Binder::AddBindEntry`: the table owns `entry` whatever happens; a taken key counts
an error. -/
def Binder.addBindEntry (tid : LabelHelper) (entry : Entry) : ConfigM Unit :=
  modify fun st =>
    { st with
      bindTable := (st.bindTable.addEntry tid entry).2
      numErrors := if (st.bindTable.addEntry tid entry).1 then st.numErrors else st.numErrors + 1
      calls := st.calls ++ [.addEntry tid entry] }

/-- What every bind operation ends with: `InjectorUtil::GetBindId<LhsAnnotations, LhsType>()`
and `AddBindEntry`. -/
def Binder.bindEntry (a : Annotations) (t : CType) (entry : Entry) : ConfigM Unit := do
  let tid ← ofExcept (getBindId a t)
  Binder.addBindEntry tid entry

/-- `Binder::Bind<Interface, Implementation>`: pointer types, cv kept. -/
def Binder.bind (iface impl : BindArg) : ConfigM Unit :=
  Binder.bindEntry iface.annotations iface.pointerType
    (.bindToTypeEntry iface.pointerType impl.annotations impl.pointerType)

/-- `Binder::BindValueType<T, D>`: actual types, cv dropped. -/
def Binder.bindValueType (t d : ParamType) : ConfigM Unit :=
  Binder.bindEntry t.annotations t.actualType (.bindToTypeEntry t.actualType d.annotations d.actualType)

/-- `Binder::BindToInstance<T>`. -/
def Binder.bindToInstance (t : BindArg) (ptr : Nat) (cleanupAction : CleanupAction) : ConfigM Unit :=
  Binder.bindEntry t.annotations t.pointerType (.pointerTableEntry t.pointerType ptr cleanupAction)

/-- `Binder::BindToValue<T>`. -/
def Binder.bindToValue (t : ParamType) (value : Nat) : ConfigM Unit :=
  Binder.bindEntry t.annotations t.actualType (.valueTableEntry t.actualType value)

/-- `Binder::BindRefToPointed<T>`. -/
def Binder.bindRefToPointed (t : BindArg) (ptr : Nat) (cleanupAction : CleanupAction) :
    ConfigM Unit :=
  Binder.bindEntry t.annotations t.referenceType (.referenceTableEntry t.referenceType ptr cleanupAction)

/-- `Binder::BindToProvider<T>`. -/
def Binder.bindToProvider (t : BindArg) (provider : Provider) (cleanupAction : CleanupAction) :
    ConfigM Unit :=
  Binder.bindEntry t.annotations t.pointerType (.bindToProviderEntry t.pointerType provider cleanupAction)

/-- `Binder::BindValueToProvider<T>`. -/
def Binder.bindValueToProvider (t : ParamType) (provider : Provider) (cleanupAction : CleanupAction) :
    ConfigM Unit :=
  Binder.bindEntry t.annotations t.actualType (.bindToProviderEntry t.actualType provider cleanupAction)

/-- `Binder::AddCleanupAction`: a `CleanupEntry` the table owns but never finds. -/
def Binder.addCleanupAction (cleanupAction : CleanupFunctor) : ConfigM Unit :=
  modify fun st =>
    { st with
      bindTable := st.bindTable.addToCleanupList (.cleanupEntry cleanupAction)
      calls := st.calls ++ [.addToCleanupList (.cleanupEntry cleanupAction)] }

/-- `Binder::GetBoundInstance<T>()`: the pointer a `BindToInstance` of `T` stored, if `T`
is bound; a binding of another kind is fatal. -/
def Binder.getBoundInstance (a : Annotations) (argType : ObjType) : ConfigM (Option Nat) := do
  let t : CType := .object (.pointer argType .plain)
  let tid ← ofExcept (getBindId a t)
  match (← get).bindTable.findEntry tid with
  | none => pure none
  | some (.pointerTableEntry x ptr c) => do
    let _ ← ofExcept (tableEntryReaderGet t (.pointerTableEntry x ptr c))
    pure (some ptr)
  | some _ => throw (.fatal "T is not bound using BindToInstance(), but called GetBoundInstance()")

/-- `new internal::LazySingletonProvider<T>(context)`: a provider at a new address, which
its constructor adds to the context's init list. -/
def newLazySingletonProvider (context : Nat) : ConfigM Nat := do
  let st ← get
  let c ← ofExcept ((st.world.contexts context).addToInitList st.providerCount)
  set { st with
    providerCount := st.providerCount + 1
    world := (st.world.setProvider st.providerCount .new).setContext context c }
  pure st.providerCount

/-- `LazySingleton::ConfigureScope<L, T>`. -/
def LazySingleton.configureScope (l : LabelTag) (t : ObjType) : ConfigM Unit := do
  match ← Binder.getBoundInstance emptyAnnotations (.named .scopeSetupContext .plain) with
  | none => throw (.fatal ("Looks like you are using Injector::Create() to create the injector. " ++
      "You must use use guicpp::CreateInjector() for singleton scopes to work"))
  | some context =>
    let p ← newLazySingletonProvider context
    Binder.bindToProvider ⟨labelAnnotations l, t⟩ (.lazySingleton p t context) .deletePointer

/-- `Binder::BindToScope<T, LazySingleton>`. -/
def Binder.bindToScope (t : BindArg) : ConfigM Unit :=
  LazySingleton.configureScope t.annotations.labelAt t.argType

mutual

/-- One call of a `Configure` on the `Binder`; `Install` runs the other module's
`Configure` on the same `Binder`. -/
def configureOp : BinderOp → ConfigM Unit
  | .bind iface impl => Binder.bind iface impl
  | .bindValueType t d => Binder.bindValueType t d
  | .bindToInstance t ptr c => Binder.bindToInstance t ptr c
  | .bindToValue t v => Binder.bindToValue t v
  | .bindRefToPointed t ptr c => Binder.bindRefToPointed t ptr c
  | .bindToProvider t p params c => Binder.bindToProvider t (.user p params) c
  | .bindValueToProvider t p params c => Binder.bindValueToProvider t (.user p params) c
  | .bindToScope t => Binder.bindToScope t
  | .addCleanupAction f => Binder.addCleanupAction (.user f)
  | .install m => configure m

/-- `Module::Configure(binder)`. -/
def configure : Module → ConfigM Unit
  | [] => pure ()
  | op :: ops => do
    configureOp op
    configure ops

end

section Induction

variable {P : ConfigState → Prop} {E : Failure → ConfigState → Prop}

mutual

theorem triple_configureOp
    (hop : ∀ op, (∀ m, op ≠ .install m) → Triple P (configureOp op) (fun _ => P) E) :
    ∀ op : BinderOp, Triple P (configureOp op) (fun _ => P) E
  | .bind .. | .bindValueType .. | .bindToInstance .. | .bindToValue .. | .bindRefToPointed ..
  | .bindToProvider .. | .bindValueToProvider .. | .bindToScope .. | .addCleanupAction .. =>
    hop _ fun _ h => by cases h
  | .install m => triple_configure hop m

theorem triple_configure
    (hop : ∀ op, (∀ m, op ≠ .install m) → Triple P (configureOp op) (fun _ => P) E) :
    ∀ m : Module, Triple P (configure m) (fun _ => P) E
  | [] => triple_pure fun _ h => h
  | op :: ops => triple_bind (triple_configureOp hop op) fun _ => triple_configure hop ops

end

end Induction

/-- The binding a call of the `Binder` hands to `AddBindEntry`: the annotations and the type
its key is computed from, and the new entry. `BindToScope` binds through `ConfigureScope`;
`AddCleanupAction` and `Install` bind nothing themselves. -/
def BinderOp.binding? : BinderOp → Option (Annotations × CType × Entry)
  | .bind iface impl => some (iface.annotations, iface.pointerType,
      .bindToTypeEntry iface.pointerType impl.annotations impl.pointerType)
  | .bindValueType t d => some (t.annotations, t.actualType,
      .bindToTypeEntry t.actualType d.annotations d.actualType)
  | .bindToInstance t ptr c => some (t.annotations, t.pointerType, .pointerTableEntry t.pointerType ptr c)
  | .bindToValue t v => some (t.annotations, t.actualType, .valueTableEntry t.actualType v)
  | .bindRefToPointed t ptr c =>
    some (t.annotations, t.referenceType, .referenceTableEntry t.referenceType ptr c)
  | .bindToProvider t p params c =>
    some (t.annotations, t.pointerType, .bindToProviderEntry t.pointerType (.user p params) c)
  | .bindValueToProvider t p params c =>
    some (t.annotations, t.actualType, .bindToProviderEntry t.actualType (.user p params) c)
  | .bindToScope _ | .addCleanupAction _ | .install _ => none

mutual

def BinderOp.flatten : BinderOp → List BinderOp
  | .install m => flatten m
  | op => [op]

/-- A module's calls with every `Install`, at any depth, replaced by the installed module's
calls. -/
def flatten : Module → List BinderOp
  | [] => []
  | op :: ops => op.flatten ++ flatten ops

end

theorem configureOp_of_binding {op : BinderOp} {a : Annotations} {t : CType} {e : Entry}
    (h : op.binding? = some (a, t, e)) :
    configureOp op = Binder.bindEntry a t e ∧ e.tableEntryType = some t ∧ t.removeCv = t := by
  cases op <;> simp only [BinderOp.binding?, Option.some.injEq, Prod.mk.injEq, reduceCtorEq] at h <;>
    obtain ⟨rfl, rfl, rfl⟩ := h <;>
    simp only [configureOp, Binder.bind, Binder.bindValueType, Binder.bindToInstance, Binder.bindToValue,
      Binder.bindRefToPointed, Binder.bindToProvider, Binder.bindValueToProvider, Entry.tableEntryType,
      ParamType.actualType, CType.removeCv_removeCv, true_and] <;> rfl

theorem configure_append (m₁ m₂ : Module) :
    configure (m₁ ++ m₂) = (do configure m₁; configure m₂) := by
  induction m₁ with
  | nil => exact (pure_bind _ _).symm
  | cons op ops ih =>
    show (do configureOp op; configure (ops ++ m₂)) = _
    rw [ih, configure, bind_assoc]

mutual

theorem configureOp_flatten : ∀ op : BinderOp, configureOp op = configure op.flatten
  | .install m => configure_flatten m
  | .bind .. | .bindValueType .. | .bindToInstance .. | .bindToValue .. | .bindRefToPointed ..
  | .bindToProvider .. | .bindValueToProvider .. | .bindToScope .. | .addCleanupAction .. =>
    bind_pure_unit.symm

theorem configure_flatten : ∀ m : Module, configure m = configure (flatten m)
  | [] => rfl
  | op :: ops => by
    rw [flatten, configure_append, ← configureOp_flatten op, ← configure_flatten ops]
    rfl

end

mutual

theorem BinderOp.ne_install_of_mem_flatten : ∀ (o : BinderOp) {op : BinderOp}, op ∈ o.flatten →
    ∀ m, op ≠ .install m
  | .install m, _, h => ne_install_of_mem_flatten m h
  | .bind .., _, h | .bindValueType .., _, h | .bindToInstance .., _, h | .bindToValue .., _, h
  | .bindRefToPointed .., _, h | .bindToProvider .., _, h | .bindValueToProvider .., _, h
  | .bindToScope .., _, h | .addCleanupAction .., _, h => by
    rw [List.mem_singleton.1 h]
    exact fun _ => nofun

theorem ne_install_of_mem_flatten : ∀ (ms : Module) {op : BinderOp}, op ∈ flatten ms →
    ∀ m, op ≠ .install m
  | o :: os, _, h => (List.mem_append.1 h).elim (BinderOp.ne_install_of_mem_flatten o)
    (ne_install_of_mem_flatten os)

end

theorem BinderOp.binding?_eq_none {op : BinderOp} (h : op.binding? = none) :
    (∃ s, op = .bindToScope s) ∨ (∃ f, op = .addCleanupAction f) ∨ ∃ m, op = .install m := by
  cases op <;> simp_all [BinderOp.binding?]

/-- The key a call of the `Binder` binds: `GetBindId` of its binding, or, for
`BindToScope<T>`, of `At<L, T*>`. -/
def BinderOp.bindKey? : BinderOp → Option LabelHelper
  | .bindToScope s =>
    (getBindId (labelAnnotations s.annotations.labelAt) (.object (.pointer s.argType .plain))).toOption
  | op => op.binding?.bind fun b => (getBindId b.1 b.2.1).toOption

/-- The keys the bind operations of a module bind, in order, `Install`s in place. -/
def bindKeys (module : Module) : List LabelHelper :=
  (flatten module).filterMap BinderOp.bindKey?

/-- A call registers `e` at `k`: the entry of its binding at the key of its binding, or, for
`BindToScope<T>`, a lazy singleton of `T` at the key of `At<L, T*>`, whatever its provider
and context. -/
def BinderOp.Registers (op : BinderOp) (k : LabelHelper) (e : Entry) : Prop :=
  (∃ a t, op.binding? = some (a, t, e) ∧ getBindId a t = .ok k) ∨
    ∃ s, op = .bindToScope s ∧
      getBindId (labelAnnotations s.annotations.labelAt) (.object (.pointer s.argType .plain)) = .ok k ∧
      ∃ p c, e = .bindToProviderEntry (.object (.pointer s.argType .plain))
        (.lazySingleton p s.argType c) .deletePointer

theorem BinderOp.bindKey?_of_binding {op : BinderOp} {a : Annotations} {t : CType} {e : Entry}
    (hb : op.binding? = some (a, t, e)) : op.bindKey? = (getBindId a t).toOption := by
  cases op <;> cases hb <;> rfl

theorem BinderOp.Registers.bindKey? {op : BinderOp} {k : LabelHelper} {e : Entry}
    (h : op.Registers k e) : op.bindKey? = some k := by
  rcases h with ⟨a, t, hb, hk⟩ | ⟨s, rfl, hk, -⟩
  · rw [bindKey?_of_binding hb, hk]
    rfl
  · rw [BinderOp.bindKey?, hk]
    rfl

/-- `bs` are the bindings the calls `ops` register, in order: one for each bind operation,
none for `AddCleanupAction`. -/
inductive Registered : List BinderOp → List (LabelHelper × Entry) → Prop
  | nil : Registered [] []
  | bind {op : BinderOp} {ops : List BinderOp} {k : LabelHelper} {e : Entry}
      {bs : List (LabelHelper × Entry)} :
      op.Registers k e → Registered ops bs → Registered (op :: ops) ((k, e) :: bs)
  | cleanup {f : Nat} {ops : List BinderOp} {bs : List (LabelHelper × Entry)} :
      Registered ops bs → Registered (.addCleanupAction f :: ops) bs

namespace Registered

variable {ops ops' : List BinderOp} {bs bs' : List (LabelHelper × Entry)}

theorem append (h : Registered ops bs) (h' : Registered ops' bs') :
    Registered (ops ++ ops') (bs ++ bs') := by
  induction h with
  | nil => exact h'
  | bind hr _ ih => exact .bind hr ih
  | cleanup _ ih => exact .cleanup ih

theorem mem (h : Registered ops bs) {k : LabelHelper} {e : Entry} (hm : (k, e) ∈ bs) :
    ∃ op ∈ ops, op.Registers k e := by
  induction h with
  | nil => cases hm
  | bind hr _ ih =>
    rcases List.mem_cons.1 hm with h | h
    · cases h
      exact ⟨_, List.mem_cons_self _ _, hr⟩
    · obtain ⟨o, ho, hro⟩ := ih h
      exact ⟨o, List.mem_cons_of_mem _ ho, hro⟩
  | cleanup _ ih =>
    obtain ⟨o, ho, hro⟩ := ih hm
    exact ⟨o, List.mem_cons_of_mem _ ho, hro⟩

theorem keys (h : Registered ops bs) : bs.map Prod.fst = ops.filterMap BinderOp.bindKey? := by
  induction h with
  | nil => rfl
  | bind hr _ ih => rw [List.map_cons, List.filterMap_cons_some hr.bindKey?, ih]
  | cleanup _ ih => exact ih

theorem lookup (h : Registered ops bs) {k : LabelHelper} {e : Entry} (hk : bs.lookup k = some e) :
    ∃ l₁ op l₂, ops = l₁ ++ op :: l₂ ∧ (∀ o ∈ l₁, o.bindKey? ≠ some k) ∧ op.Registers k e := by
  induction h with
  | nil => cases hk
  | @bind op ops k' e' bs hr _ ih =>
    by_cases hkk : k = k'
    · subst hkk
      rw [List.lookup_cons_self] at hk
      cases hk
      exact ⟨[], op, ops, rfl, nofun, hr⟩
    · rw [List.lookup_cons, beq_false_of_ne hkk] at hk
      obtain ⟨l₁, o, l₂, rfl, hl₁, ho⟩ := ih hk
      refine ⟨op :: l₁, o, l₂, rfl, ?_, ho⟩
      rintro o' (_ | ⟨_, ho'⟩)
      · rw [hr.bindKey?]
        exact fun h => hkk (Option.some.inj h).symm
      · exact hl₁ o' ho'
  | @cleanup f ops bs _ ih =>
    obtain ⟨l₁, o, l₂, rfl, hl₁, ho⟩ := ih hk
    refine ⟨.addCleanupAction f :: l₁, o, l₂, rfl, ?_, ho⟩
    rintro o' (_ | ⟨_, ho'⟩)
    · exact nofun
    · exact hl₁ o' ho'

end Registered

/-- `Injector::Create`: the module's `Configure` on a new bind table, then a failure if the
binder counted an error. -/
def Injector.create (moduleConfigure : ConfigM Unit) : ConfigM Unit := do
  moduleConfigure
  let n := (← get).numErrors
  if n ≠ 0 then
    throw (.fatal ("Creation of Injector failed: " ++ "Module had " ++ toString n ++ " errors. "))

def bindIds (calls : List (Call LabelHelper Entry)) : List LabelHelper :=
  (calls.filterMap Call.binding?).map Prod.fst

/-- What a `Binder` keeps in step with the calls made on its table: the table is the one
those calls build, and `num_errors_` counts the `AddEntry` calls whose key was taken. -/
def ConfigState.Consistent (st : ConfigState) : Prop :=
  st.bindTable = run st.calls ∧
    st.numErrors = (bindIds st.calls).length - (bindIds st.calls).toFinset.card

@[simp] theorem bindIds_append_addEntry (calls : List (Call LabelHelper Entry)) (k : LabelHelper)
    (e : Entry) : bindIds (calls ++ [.addEntry k e]) = bindIds calls ++ [k] := by
  simp [bindIds, Call.binding?]

@[simp] theorem bindIds_append_addToCleanupList (calls : List (Call LabelHelper Entry)) (e : Entry) :
    bindIds (calls ++ [.addToCleanupList e]) = bindIds calls := by
  simp [bindIds, Call.binding?]

@[simp] theorem run_append (calls : List (Call LabelHelper Entry)) (c : Call LabelHelper Entry) :
    run (calls ++ [c]) = Call.apply (run calls) c := by
  simp [run]

theorem run_findEntry_eq_none (calls : List (Call LabelHelper Entry)) (k : LabelHelper) :
    (run calls).findEntry k = none ↔ k ∉ bindIds calls := by
  simp only [run_findEntry, List.lookup_eq_none_iff, bindIds, List.mem_map, List.mem_filterMap,
    not_exists, not_and]
  exact forall_congr' fun p => imp_congr_right fun _ => by rw [bne_iff_ne, ne_comm]

theorem addEntry_run_fst (calls : List (Call LabelHelper Entry)) (k : LabelHelper) (e : Entry) :
    ((run calls).addEntry k e).1 = true ↔ k ∉ bindIds calls := by
  simp only [BindTable.addEntry, BindTable.insert_fst, BindTable.findEntry_addToCleanupList,
    run_findEntry, Option.isNone_iff_eq_none, List.lookup_eq_none_iff, bindIds, List.mem_map,
    List.mem_filterMap, not_exists, not_and]
  exact forall_congr' fun p => imp_congr_right fun _ => by rw [bne_iff_ne, ne_comm]

theorem ConfigState.fresh_consistent (w : World) : (ConfigState.fresh w).Consistent :=
  ⟨rfl, rfl⟩

theorem toFinset_card_append_singleton (l : List LabelHelper) (k : LabelHelper) :
    (l ++ [k]).toFinset.card = if k ∈ l then l.toFinset.card else l.toFinset.card + 1 := by
  rw [List.toFinset_append]
  simp only [List.toFinset_cons, List.toFinset_nil, insert_emptyc_eq]
  split_ifs with h
  · rw [Finset.union_eq_left.mpr (by simpa using h)]
  · rw [Finset.card_union_of_disjoint] <;> simp [h]

theorem sum_count_pred_dedup (l : List LabelHelper) :
    (l.dedup.map fun k => l.count k - 1).sum = l.length - l.toFinset.card := by
  have h : (l.dedup.map fun k => l.count k - 1).sum + l.dedup.length = l.length := by
    calc (l.dedup.map fun k => l.count k - 1).sum + l.dedup.length
        = (l.dedup.map fun k => l.count k - 1 + 1).sum := by simp [List.sum_map_add]
      _ = (l.dedup.map fun k => l.count k).sum := by
          congr 1
          exact List.map_congr_left fun k hk =>
            Nat.sub_add_cancel (List.count_pos_iff.mpr (List.mem_dedup.mp hk))
      _ = l.length := List.sum_map_count_dedup_eq_length l
  rw [List.card_toFinset]
  omega

theorem length_sub_card_eq_zero_iff (l : List LabelHelper) :
    l.length - l.toFinset.card = 0 ↔ l.Nodup := by
  have hle := List.toFinset_card_le l
  have h := Multiset.toFinset_card_eq_card_iff_nodup (m := (l : Multiset LabelHelper))
  rw [Multiset.coe_nodup, Multiset.coe_card] at h
  change l.toFinset.card = l.length ↔ l.Nodup at h
  rw [← h]
  omega

section Consistent

variable {P : ConfigState → Prop}

theorem triple_addBindEntry (tid : LabelHelper) (e : Entry) :
    Triple ConfigState.Consistent (Binder.addBindEntry tid e) (fun _ => ConfigState.Consistent)
      fun _ _ => True := by
  refine triple_modify fun st ⟨ht, hn⟩ => ⟨by simp [ht, Call.apply], ?_⟩
  have hle := List.toFinset_card_le (bindIds st.calls)
  simp only [ht, addEntry_run_fst, bindIds_append_addEntry, List.length_append,
    List.length_singleton, toFinset_card_append_singleton]
  by_cases hk : tid ∈ bindIds st.calls <;> simp [hk, hn]; omega

theorem triple_bindEntry (a : Annotations) (t : CType) (e : Entry) :
    Triple ConfigState.Consistent (Binder.bindEntry a t e) (fun _ => ConfigState.Consistent)
      fun _ _ => True :=
  triple_bind (triple_ofExcept (fun _ _ _ h => h) fun _ _ _ _ => trivial) fun tid =>
    triple_addBindEntry tid e

theorem triple_addCleanupAction (c : CleanupFunctor) :
    Triple ConfigState.Consistent (Binder.addCleanupAction c) (fun _ => ConfigState.Consistent)
      fun _ _ => True :=
  triple_modify fun st ⟨ht, hn⟩ => ⟨by simp [ht, Call.apply], by simpa using hn⟩

theorem triple_getBoundInstance (a : Annotations) (argType : ObjType) :
    Triple P (Binder.getBoundInstance a argType) (fun _ => P) fun _ => P := by
  refine triple_bind (triple_ofExcept (fun _ _ _ h => h) fun _ _ _ h => h) fun tid =>
    triple_bind triple_get fun st => ?_
  split
  · exact triple_pure fun _ h => h.2
  · exact triple_bind (triple_ofExcept (fun _ _ _ h => h.2) fun _ _ _ h => h.2) fun _ =>
      triple_pure fun _ h => h
  · exact triple_throw fun _ h => h.2

theorem triple_newLazySingletonProvider (context : Nat) :
    Triple ConfigState.Consistent (newLazySingletonProvider context)
      (fun _ => ConfigState.Consistent) fun _ _ => True :=
  triple_bind triple_get fun _ =>
    triple_bind (triple_ofExcept (fun _ _ _ h => h) fun _ _ _ _ => trivial) fun _ =>
      triple_bind (triple_set fun _ ⟨hs, hc⟩ => hs ▸ hc) fun _ => triple_pure fun _ h => h

theorem newLazySingletonProvider_run (context : Nat) (st : ConfigState) :
    newLazySingletonProvider context st =
      match (st.world.contexts context).addToInitList st.providerCount with
      | .ok c => .ok st.providerCount { st with
          providerCount := st.providerCount + 1
          world := (st.world.setProvider st.providerCount .new).setContext context c }
      | .error e => .error e st := by
  simp only [newLazySingletonProvider, bind, EStateM.bind, get, getThe, MonadStateOf.get,
    EStateM.get]
  cases (st.world.contexts context).addToInitList st.providerCount <;> rfl

theorem triple_configureScope (l : LabelTag) (t : ObjType) :
    Triple ConfigState.Consistent (LazySingleton.configureScope l t)
      (fun _ => ConfigState.Consistent) fun _ _ => True := by
  refine triple_bind ((triple_getBoundInstance _ _).mono (fun _ => id) (fun _ _ => id)
    fun _ _ _ => trivial) fun r => ?_
  cases r with
  | none => exact triple_throw fun _ _ => trivial
  | some c => exact triple_bind (triple_newLazySingletonProvider c) fun _ => triple_bindEntry _ _ _

theorem configure_consistent : ∀ m : Module,
    Triple ConfigState.Consistent (configure m) (fun _ => ConfigState.Consistent) fun _ _ => True :=
  triple_configure fun
    | .bind .., _ | .bindValueType .., _ | .bindToInstance .., _ | .bindToValue .., _
    | .bindRefToPointed .., _ | .bindToProvider .., _ | .bindValueToProvider .., _ =>
      triple_bindEntry _ _ _
    | .bindToScope _, _ => triple_configureScope _ _
    | .addCleanupAction f, _ => triple_addCleanupAction (.user f)
    | .install m, h => absurd rfl (h m)

end Consistent

section Registered

theorem triple_bindEntry_registers (c : List (Call LabelHelper Entry)) (a : Annotations) (t : CType)
    (e : Entry) :
    Triple (fun st => st.calls = c) (Binder.bindEntry a t e)
      (fun _ st => ∃ k, getBindId a t = .ok k ∧ st.calls = c ++ [.addEntry k e]) fun _ _ => True :=
  triple_bind (triple_ofExcept (Q := fun k st => getBindId a t = .ok k ∧ st.calls = c)
    (fun _ hk _ h => ⟨hk, h⟩) fun _ _ _ _ => trivial) fun k =>
    triple_modify fun _ ⟨hk, h⟩ => ⟨k, hk, by rw [h]⟩

theorem triple_configureOp_registers (c : List (Call LabelHelper Entry)) (op : BinderOp)
    (hi : ∀ m, op ≠ .install m) :
    Triple (fun st => st.calls = c) (configureOp op)
      (fun _ st => ∃ l, st.calls = c ++ l ∧ Registered [op] (l.filterMap Call.binding?))
      fun _ _ => True := by
  cases hb : op.binding? with
  | some b =>
    obtain ⟨a, t, e⟩ := b
    rw [(configureOp_of_binding hb).1]
    exact (triple_bindEntry_registers c a t e).post fun _ _ ⟨k, hk, h⟩ =>
      ⟨_, h, .bind (.inl ⟨a, t, hb, hk⟩) .nil⟩
  | none =>
    rcases BinderOp.binding?_eq_none hb with ⟨s, rfl⟩ | ⟨f, rfl⟩ | ⟨m, rfl⟩
    · refine triple_bind ((triple_getBoundInstance _ _).mono (fun _ => id) (fun _ _ => id)
        fun _ _ _ => trivial) fun r => ?_
      cases r with
      | none => exact triple_throw fun _ _ => trivial
      | some ctx =>
        refine triple_bind (fun st h => ?_) fun p => (triple_bindEntry_registers c _ _ _).post
          fun _ _ ⟨k, hk, h⟩ => ⟨_, h, .bind (.inr ⟨s, rfl, hk, p, ctx, rfl⟩) .nil⟩
        rw [newLazySingletonProvider_run]
        split
        · exact h
        · trivial
    · exact triple_modify fun _ h => ⟨[.addToCleanupList (.cleanupEntry (.user f))], by rw [h],
        .cleanup .nil⟩
    · exact absurd rfl (hi m)

theorem triple_configure_registers : ∀ (ops : List BinderOp) (c : List (Call LabelHelper Entry)),
    (∀ op ∈ ops, ∀ m, op ≠ .install m) →
    Triple (fun st => st.calls = c) (configure ops)
      (fun _ st => ∃ l, st.calls = c ++ l ∧ Registered ops (l.filterMap Call.binding?))
      fun _ _ => True
  | [], _, _ => triple_pure fun _ h => ⟨[], by rw [h, List.append_nil], .nil⟩
  | op :: ops, c, hi => triple_bind (triple_configureOp_registers c op (hi op (List.mem_cons_self _ _)))
    fun _ st ⟨l, hl, hr⟩ => (triple_configure_registers ops (c ++ l)
      (fun o ho => hi o (List.mem_cons_of_mem _ ho)) st hl).mono
      (fun _ _ ⟨l', hl', hr'⟩ => ⟨l ++ l', by rw [hl', List.append_assoc],
        by rw [List.filterMap_append]; exact hr.append hr'⟩) fun _ _ _ => trivial

/-- The calls a module's `Configure` makes on the table are appended to those made before. -/
theorem configure_calls_prefix (c : List (Call LabelHelper Entry)) (m : Module) :
    Triple (fun st => List.IsPrefix c st.calls) (configure m)
      (fun _ st => List.IsPrefix c st.calls) fun _ _ => True := by
  refine triple_of_forall fun st hc => ?_
  rw [configure_flatten]
  exact (triple_configure_registers (flatten m) st.calls fun _ => ne_install_of_mem_flatten m).mono
    (fun _ h => h ▸ rfl) (fun _ _ ⟨l, hl, _⟩ => hl ▸ hc.trans (List.prefix_append _ _))
    fun _ _ _ => trivial

end Registered

theorem Injector.create_run (moduleConfigure : ConfigM Unit) (st : ConfigState) :
    Injector.create moduleConfigure st =
      match moduleConfigure st with
      | .ok () st' =>
        if st'.numErrors ≠ 0 then
          .error (.fatal ("Creation of Injector failed: " ++ "Module had " ++
            toString st'.numErrors ++ " errors. ")) st'
        else .ok () st'
      | .error e st' => .error e st' := by
  simp only [Injector.create, bind, EStateM.bind, get, getThe, MonadStateOf.get, EStateM.get]
  rcases moduleConfigure st with ⟨⟨⟩, st'⟩ | ⟨e, st'⟩
  · by_cases h : st'.numErrors = 0 <;> simp [h, pure, EStateM.pure, throw, throwThe,
      MonadExceptOf.throw, EStateM.throw]
  · rfl

theorem Injector.create_ok {moduleConfigure : ConfigM Unit} {st st' : ConfigState}
    (h : Injector.create moduleConfigure st = .ok () st') :
    moduleConfigure st = .ok () st' ∧ st'.numErrors = 0 := by
  rw [Injector.create_run] at h
  split at h
  · split_ifs at h with hn
    cases h
    exact ⟨‹_›, not_not.1 hn⟩
  · cases h

/-- Whatever module a new `Binder` configures, when `Configure` returns: `num_errors()`
counts, over each key the module's bind operations bind, its bindings but the first; a lookup
finds nothing for a key no bind operation binds, and otherwise what the first bind operation
on the key registered; and `Injector::Create` fails exactly when a key is bound twice. -/
theorem configure_counts_duplicates (module : Module) (w : World) :
    Sat (fun _ st =>
      st.numErrors = ((bindKeys module).dedup.map fun k => (bindKeys module).count k - 1).sum ∧
      (∀ k, st.bindTable.findEntry k = none ↔ k ∉ bindKeys module) ∧
      (∀ k e, st.bindTable.findEntry k = some e → ∃ l₁ op l₂, flatten module = l₁ ++ op :: l₂ ∧
        (∀ o ∈ l₁, o.bindKey? ≠ some k) ∧ op.Registers k e) ∧
      ((∃ e st', Injector.create (configure module) (ConfigState.fresh w) = .error e st') ↔
        ¬ (bindKeys module).Nodup))
      (fun _ _ => True) (configure module (ConfigState.fresh w)) := by
  have h := configure_consistent module _ (ConfigState.fresh_consistent w)
  have hreg := triple_configure_registers (flatten module) []
    (fun _ => ne_install_of_mem_flatten module) (ConfigState.fresh w) rfl
  rw [← configure_flatten] at hreg
  rw [Injector.create_run]
  rcases hr : configure module (ConfigState.fresh w) with ⟨⟨⟩, st⟩ | ⟨e, st⟩
  · rw [hr] at h hreg
    obtain ⟨ht, hn⟩ := h
    obtain ⟨l, hl, hreg⟩ := hreg
    rw [List.nil_append] at hl
    have hkeys : bindIds st.calls = bindKeys module := by rw [bindIds, hl, hreg.keys, bindKeys]
    refine ⟨by rw [hn, hkeys, sum_count_pred_dedup], fun k => ?_, fun k e he => ?_, ?_⟩
    · rw [ht, run_findEntry_eq_none, hkeys]
    · rw [ht, run_findEntry, hl] at he
      exact hreg.lookup he
    · rw [← length_sub_card_eq_zero_iff, ← hkeys, ← hn]
      by_cases h0 : st.numErrors = 0 <;> simp [h0]
  · trivial

end Guicpp.Configure
