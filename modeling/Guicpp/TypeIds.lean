import Guicpp.Bindings

namespace Guicpp.TypeIds

open Guicpp.Types Guicpp.At Guicpp.Entries Guicpp.InjectUtil Guicpp.Table Guicpp.Singleton
  Guicpp.Hoare Guicpp.Resolve Guicpp.Configure Guicpp.Tools Guicpp.KeyGraph Guicpp.Wiring
  Guicpp.Bindings

/-- An entry sits at a key of its own type specifier. -/
def TypedAt (k : LabelHelper) (e : Entry) : Prop :=
  ∀ x, e.tableEntryType = some x → x.typeSpecifier = k.typeSpecifier

theorem getBindId_typeSpecifier {a : Annotations} {t : CType} {k : LabelHelper}
    (h : getBindId a t = .ok k) : k.typeSpecifier = t.typeSpecifier := by
  unfold getBindId at h
  split at h
  · rename_i hd _
    cases hd <;> cases h <;> rfl
  · cases h

theorem tableEntryReaderGet_typeId {t : CType} {e : Entry}
    (h : tableEntryReaderGet t e = .error (.dcheck typeIdCheck)) :
    ∃ x, e.tableEntryType = some x ∧ t.typeSpecifier ≠ x.typeSpecifier := by
  unfold tableEntryReaderGet at h
  split_ifs at h
  · cases h
  · split at h
    · cases h
    · rename_i x hx
      split_ifs at h with hs
      · exact ⟨x, hx, hs⟩
      · split at h <;> cases h

theorem singletonFault_ne_typeId {f : Failure} (h : SingletonFault f) : f ≠ .dcheck typeIdCheck := by
  rintro rfl
  simp [SingletonFault, typeIdCheck, addToInitListCheck, addToCleanupListCheck, invokeInitNowCheck,
    lazySingletonInitCheck] at h

theorem guicppGetDefaultEntry_typedAt {inj : Injector} {k : LabelHelper} {d : Entry}
    (hq : k.typeSpecifier.qual = .plain) (h : inj.guicppGetDefaultEntry k.typeSpecifier = .ok d) :
    TypedAt k d := by
  intro x hx
  unfold Injector.guicppGetDefaultEntry at h
  split at h
  · rename_i n q hk
    split at h
    · rename_i dd _
      cases h
      cases dd with
      | injectCtor =>
        cases hx
        rw [hk] at hq ⊢
        cases hq
        rfl
      | injectable => cases hx
    · cases h
  · cases h

theorem LocalContext.findEntry_typeId {c : LocalContext} {tid : LabelHelper} {e : Entry}
    (h : c.findEntry tid = some e) : ∃ x ∈ c.args, x.typeId = tid ∧ x.entry = e := by
  obtain ⟨x, hx, rfl⟩ := Option.map_eq_some'.mp h
  exact ⟨x, List.mem_of_find?_eq_some hx, by simpa using List.find?_some hx, rfl⟩

def NoTypeIdFault (resolve : Resolver) : Prop :=
  ∀ a t ctx stack, (∀ x ∈ ctx.args, TypedAt x.typeId x.entry) →
    Triple (fun _ => True) (resolve a t ctx stack) (fun _ _ => True) fun f _ => f ≠ .dcheck typeIdCheck

theorem triple_readEntry_typed {resolve : Resolver} (h : NoTypeIdFault resolve) {t : CType}
    {e : Entry} {ctx : LocalContext} (hctx : ∀ x ∈ ctx.args, TypedAt x.typeId x.entry)
    (stack : List Nat) (he : ∀ x, e.tableEntryType = some x → x.typeSpecifier = t.typeSpecifier) :
    Triple (fun _ => True) (readEntry resolve t e ctx stack) (fun _ _ => True)
      fun f _ => f ≠ .dcheck typeIdCheck := by
  refine triple_readEntry (fun f hf _ _ hfe => ?_) (triple_entryGet e (fun _ _ => h _ _ _ _ hctx)
    fun _ _ _ _ _ _ => triple_lazySingletonGet_errors (fun _ _ => singletonFault_ne_typeId)
      (h _ _ _ _ fun _ hx => absurd hx (List.not_mem_nil _)))
  subst hfe
  obtain ⟨x, hx, hs⟩ := tableEntryReaderGet_typeId hf
  exact hs (he x hx).symm

section Step

variable {inj : Injector} (htable : ∀ k e, inj.bindTable.findEntry k = some e → TypedAt k e)
include htable

theorem noTypeIdFault_step {resolve : Resolver} (h : NoTypeIdFault resolve) :
    NoTypeIdFault (getActualTypeStep inj resolve) := fun a t ctx stack hctx =>
  triple_getActualTypeStep
    (fun e he => triple_readEntry_typed h hctx stack
      ((keyEntry_eq_some he).elim (htable _ e) (guicppGetDefaultEntry_typedAt t.typeSpecifier_qual)))
    (fun _ _ => trivial)
    (fun e he => by
      obtain ⟨x, hx, hk, rfl⟩ := LocalContext.findEntry_typeId he
      exact triple_readEntry_typed h hctx stack fun y hy => (hctx x hx y hy).trans (by rw [hk]; rfl))
    fun _ _ _ => ⟨nofun, nofun⟩

theorem noTypeIdFault_getActualType : ∀ n, NoTypeIdFault (getActualType inj n)
  | 0 => fun _ _ _ _ _ _ _ => nofun
  | n + 1 => noTypeIdFault_step htable (noTypeIdFault_getActualType n)

end Step

theorem createInjector_typedAt {defaultEntry : NamedType → Option DefaultEntry} {module : Module}
    {context injector : Nat} {inj : Injector} {w : World}
    (h : createInjector defaultEntry module context injector = .ok (inj, w)) :
    ∀ k e, inj.bindTable.findEntry k = some e → TypedAt k e := by
  obtain ⟨st, hst, -, rfl⟩ := createInjector_ok h
  have hwire := @triple_create_wiring context module _ rfl
  rw [hst] at hwire
  have hall : CallsAll TypedAt st :=
    wrapperConfigure_all (Injector.create_ok hst).1 (fun _ hx => by cases hx; rfl) fun _ _ k e hr x hx => by
      rcases hr with ⟨a, t, hb, hk⟩ | ⟨s, -, hk, p, c, rfl⟩
      · rw [(configureOp_of_binding hb).2.1] at hx
        cases hx
        exact (getBindId_typeSpecifier hk).symm
      · cases hx
        exact (getBindId_typeSpecifier hk).symm
  exact fun k e hk => hall k e (mem_of_run_findEntry (hwire.table ▸ hk))

/-- The `DCHECK_EQ` of `TableEntryReader<T>::Get` on type ids never fails on an injector from
`CreateInjector`: whatever the request, the bound on its recursion, the singletons in
construction and the state of the heap, provided its local context files each factory
argument under a key of the argument's own type, as `Injector::Get`'s empty one does. -/
theorem createInjector_typeId_check (defaultEntry : NamedType → Option DefaultEntry)
    (module : Module) (context injector : Nat) (inj : Injector) (w : World)
    (h : createInjector defaultEntry module context injector = .ok (inj, w)) (fuel : Nat)
    (a : Annotations) (t : CType) (ctx : LocalContext)
    (hctx : ∀ x ∈ ctx.args, ∀ y, x.entry.tableEntryType = some y →
      y.typeSpecifier = x.typeId.typeSpecifier)
    (stack : List Nat) (w' w'' : World) :
    getActualType inj fuel a t ctx stack w' ≠ .error (.dcheck typeIdCheck) w'' := by
  intro he
  have hs := noTypeIdFault_getActualType (createInjector_typedAt h) fuel a t ctx stack hctx w' trivial
  rw [he] at hs
  exact hs rfl

theorem createInjector_typeId_check_bind : ∃ inj w,
    createInjector bindingDefaults bindingModule 0 1 = .ok (inj, w) ∧
    (∀ x ∈ LocalContext.empty.args, ∀ y, x.entry.tableEntryType = some y →
      y.typeSpecifier = x.typeId.typeSpecifier) ∧
    ∀ w'', getActualType inj 3 emptyAnnotations (.object (.pointer (.named (.userClass 1) .plain) .plain))
      .empty [] w ≠ .error (.dcheck typeIdCheck) w'' :=
  have hctx : ∀ x ∈ LocalContext.empty.args, ∀ y, x.entry.tableEntryType = some y →
      y.typeSpecifier = x.typeId.typeSpecifier := fun _ hx => absurd hx (List.not_mem_nil _)
  ⟨_, _, rfl, hctx, createInjector_typeId_check bindingDefaults bindingModule 0 1 _ _ rfl 3 _ _ _ hctx
    [] _⟩

end Guicpp.TypeIds
