import Guicpp.Resolve

namespace Guicpp.KeyGraph

open Guicpp.Types Guicpp.At Guicpp.Entries Guicpp.InjectUtil Guicpp.Table Guicpp.Singleton
  Guicpp.Hoare Guicpp.Resolve

def requestKey (a : Annotations) (t : CType) : LabelHelper :=
  ⟨a.injectTypeAt .normalInject, a.labelAt, t.typeSpecifier⟩

def dependencies (e : Entry) : List (Annotations × CType) :=
  e.requests ++
    match e with
    | .bindToProviderEntry _ (.lazySingleton _ t _) _ =>
      [(labelAnnotations .unScoped, .object (.pointer t .plain))]
    | _ => []

/-- The entry the handler of a key reads: the bound one, else, for a class, its default
entry. Assisted keys are read from the local context, internal types from nothing. -/
def keyEntry (inj : Injector) (k : LabelHelper) : Option Entry :=
  match k.injectType with
  | .normalInject =>
    if k.typeSpecifier.isInternal then none
    else (inj.bindTable.findEntry k).or
      (if k.typeSpecifier.isClassOrUnion then (inj.guicppGetDefaultEntry k.typeSpecifier).toOption
        else none)
  | .assisted => none

/-- The key graph: resolving `k` requests `k'`. -/
def KeyEdge (inj : Injector) (k k' : LabelHelper) : Prop :=
  ∃ e, keyEntry inj k = some e ∧ ∃ r ∈ dependencies e, requestKey r.1 r.2 = k'

theorem keyEdge_of_request {inj : Injector} {k : LabelHelper} {e : Entry} (he : keyEntry inj k = some e)
    {r : Annotations × CType} (hr : r ∈ e.requests) : KeyEdge inj k (requestKey r.1 r.2) :=
  ⟨e, he, r, List.mem_append_left _ hr, rfl⟩

theorem keyEdge_of_lazySingleton {inj : Injector} {k : LabelHelper} {x : CType} {p : Nat}
    {t : ObjType} {c : Nat} {cl : CleanupAction}
    (he : keyEntry inj k = some (.bindToProviderEntry x (.lazySingleton p t c) cl)) :
    KeyEdge inj k (requestKey (labelAnnotations .unScoped) (.object (.pointer t .plain))) :=
  ⟨_, he, _, List.mem_append_right _ (List.mem_singleton_self _), rfl⟩

theorem keyEntry_eq_some {inj : Injector} {k : LabelHelper} {e : Entry} (h : keyEntry inj k = some e) :
    inj.bindTable.findEntry k = some e ∨ inj.guicppGetDefaultEntry k.typeSpecifier = .ok e := by
  unfold keyEntry at h
  split at h
  · split_ifs at h
    · cases hf : inj.bindTable.findEntry k with
      | some e' => exact .inl (by simpa [hf] using h)
      | none =>
        rw [hf, Option.none_or] at h
        cases hd : inj.guicppGetDefaultEntry k.typeSpecifier <;> simp [hd, Except.toOption] at h
        exact .inr (h ▸ rfl)
    · exact .inl (by simpa using h)
  · cases h

theorem rank_lt_of_transGen {inj : Injector} {rank : LabelHelper → Nat}
    (h : ∀ k k', KeyEdge inj k k' → rank k' < rank k) {k k' : LabelHelper} :
    Relation.TransGen (KeyEdge inj) k k' → rank k' < rank k := by
  intro t
  induction t with
  | single e => exact h _ _ e
  | tail _ e ih => exact (h _ _ e).trans ih

section Handlers

variable {inj : Injector} {a : Annotations} {t : CType}

theorem keyEntry_normalInject
    (h : guicppGetInjectHandler (a.injectTypeAt .normalInject) t.typeSpecifier = some .normalInject)
    {d : Entry} (hd : inj.guicppGetDefaultEntry t.typeSpecifier = .ok d) :
    keyEntry inj (requestKey a t) =
      some ((inj.bindTable.findEntry (normalInjectBindId a t.typeSpecifier)).getD d) := by
  obtain ⟨hi, hint, hcls⟩ := guicppGetInjectHandler_normalInject h
  simp only [keyEntry, requestKey, hi, hint, hcls, hd, normalInjectBindId]
  cases inj.bindTable.findEntry _ <;> rfl

theorem keyEntry_missingDefaultType
    (h : guicppGetInjectHandler (a.injectTypeAt .normalInject) t.typeSpecifier =
      some .missingDefaultType) :
    keyEntry inj (requestKey a t) = inj.bindTable.findEntry (normalInjectBindId a t.typeSpecifier) := by
  obtain ⟨hi, hint, hcls⟩ := guicppGetInjectHandler_missingDefaultType h
  simp [keyEntry, requestKey, hi, hint, hcls, normalInjectBindId]

end Handlers

section Step

variable {I : World → Prop} {E : Failure → World → Prop} {resolve : Resolver} {t : CType}
  {ctx : LocalContext} {stack : List Nat}

theorem triple_readEntry_leaf (hctx : ctx.Leaf) {tid : LabelHelper} {e : Entry}
    (he : ctx.findEntry tid = some e)
    (hcast : ∀ f, tableEntryReaderGet t e = .error f → ∀ w, I w → E f w) :
    Triple I (readEntry resolve t e ctx stack) (fun _ => I) E := by
  obtain ⟨x, hx, rfl⟩ := LocalContext.findEntry_mem he
  obtain ⟨t', v, hv⟩ := hctx x hx
  rw [hv] at hcast ⊢
  exact triple_readEntry hcast (triple_pure fun _ h => h)

/-- One level of `GetActualType` keeps an invariant when reading the entry of the request's
key keeps it, and so do the assisted lookup, its record and the handlers' own failures,
which are compile errors and fatal errors. -/
theorem triple_getActualTypeStep {inj : Injector} {a : Annotations}
    (hread : ∀ e, keyEntry inj (requestKey a t) = some e →
      Triple I (readEntry resolve t e ctx stack) (fun _ => I) E)
    (hlookup : ∀ w, I w →
      I (w.record (.assistedLookup ctx (assistedInjectBindId a t.typeSpecifier) stack)))
    (hassisted : ∀ e, ctx.findEntry (assistedInjectBindId a t.typeSpecifier) = some e →
      Triple I (readEntry resolve t e ctx stack) (fun _ => I) E)
    (hfail : ∀ m w, I w → E (.compileError m) w ∧ E (.fatal m) w) :
    Triple I (getActualTypeStep inj resolve a t ctx stack) (fun _ => I) E := by
  unfold getActualTypeStep
  split
  next hh =>
    refine triple_bind (triple_ofExcept
      (Q := fun d w => inj.guicppGetDefaultEntry t.typeSpecifier = .ok d ∧ I w)
      (fun _ hd _ hw => ⟨hd, hw⟩) fun f hf w hw => by
        rw [Injector.guicppGetDefaultEntry_error hf]
        exact (hfail _ w hw).1) fun d => ?_
    split
    next e he => exact fun w ⟨hd, hw⟩ => hread e (by rw [keyEntry_normalInject hh hd, he]; rfl) w hw
    next he => exact fun w ⟨hd, hw⟩ => hread d (by rw [keyEntry_normalInject hh hd, he]; rfl) w hw
  next hh =>
    unfold missingDefaultTypeHandlerGet
    split
    next e he => exact hread e ((keyEntry_missingDefaultType hh).trans he)
    next => exact triple_throw fun w hw => (hfail _ w hw).2
  next =>
    refine triple_bind (R := fun _ => I) (triple_record hlookup) fun _ => ?_
    split
    next e he => exact hassisted e he
    next => exact triple_throw fun w hw => (hfail _ w hw).2
  next =>
    unfold internalTypeInjectHandlerGet
    split <;> exact triple_pure fun _ h => h
  next => exact triple_throw fun w hw => (hfail _ w hw).1

end Step

end Guicpp.KeyGraph
