import Guicpp.KeyGraph
import Mathlib.Data.List.Perm.Subperm

namespace Guicpp.ScopeInvariant

open Guicpp.Types Guicpp.At Guicpp.Entries Guicpp.InjectUtil Guicpp.Singleton Guicpp.Hoare
  Guicpp.Resolve Guicpp.KeyGraph

def createdObjects (provider : Nat) (log : List Event) : List Val :=
  log.filterMap fun
    | .singletonCreated q o => if q = provider then some o else none
    | _ => none

@[simp] theorem createdObjects_append (p : Nat) (l l' : List Event) :
    createdObjects p (l ++ l') = createdObjects p l ++ createdObjects p l' :=
  List.filterMap_append _ _ _

@[simp] theorem createdObjects_singletonCreated (p q : Nat) (o : Val) :
    createdObjects p [.singletonCreated q o] = if q = p then [o] else [] := by
  by_cases h : q = p <;> simp [createdObjects, h]

@[simp] theorem createdObjects_singletonGot (p q : Nat) (o : Val) (s : List Nat) :
    createdObjects p [.singletonGot q o s] = [] := rfl

@[simp] theorem createdObjects_assistedLookup (p : Nat) (c : LocalContext) (k : LabelHelper)
    (s : List Nat) : createdObjects p [.assistedLookup c k s] = [] := rfl

def createdProviders (log : List Event) : List Nat :=
  log.filterMap fun
    | .singletonCreated p _ => some p
    | _ => none

@[simp] theorem createdProviders_nil : createdProviders [] = [] := rfl

@[simp] theorem createdProviders_append (l l' : List Event) :
    createdProviders (l ++ l') = createdProviders l ++ createdProviders l' :=
  List.filterMap_append _ _ _

@[simp] theorem createdProviders_singletonCreated (p : Nat) (o : Val) :
    createdProviders [.singletonCreated p o] = [p] := rfl

@[simp] theorem createdProviders_singletonGot (p : Nat) (o : Val) (s : List Nat) :
    createdProviders [.singletonGot p o s] = [] := rfl

@[simp] theorem createdProviders_assistedLookup (c : LocalContext) (k : LabelHelper)
    (s : List Nat) : createdProviders [.assistedLookup c k s] = [] := rfl

def ProviderAt (inj : Injector) (k : LabelHelper) (p : Nat) : Prop :=
  ∃ x t c cl, keyEntry inj k = some (.bindToProviderEntry x (.lazySingleton p t c) cl)

/-- What `CreateInjector` leaves in the table: every lazy singleton belongs to the context at
`c0`, and each provider is read at one key only. -/
structure Wired (inj : Injector) (c0 : Nat) : Prop where
  context_eq : ∀ {k x p t c cl},
    keyEntry inj k = some (.bindToProviderEntry x (.lazySingleton p t c) cl) → c = c0
  key_unique : ∀ {k k' p}, ProviderAt inj k p → ProviderAt inj k' p → k = k'

theorem Wired.lazySingleton_type {inj : Injector} {c0 : Nat} (hwired : Wired inj c0)
    {k k' : LabelHelper} {x x' : CType} {p c c' : Nat} {t t' : ObjType} {cl cl' : CleanupAction}
    (he : keyEntry inj k = some (.bindToProviderEntry x (.lazySingleton p t c) cl))
    (he' : keyEntry inj k' = some (.bindToProviderEntry x' (.lazySingleton p t' c') cl')) : t = t' := by
  rw [hwired.key_unique ⟨_, _, _, _, he⟩ ⟨_, _, _, _, he'⟩, he'] at he
  simp only [Option.some.injEq, Entry.bindToProviderEntry.injEq, Provider.lazySingleton.injEq] at he
  exact he.2.1.2.1.symm

/-- No lazy singleton's construction requests its own key, directly or through other keys:
otherwise `GoogleOnceDynamic::Init` would run its `Create` inside itself. -/
def SingletonsAcyclic (inj : Injector) : Prop :=
  ∀ k p, ProviderAt inj k p → ¬ Relation.TransGen (KeyEdge inj) k k

def StackBelow (inj : Injector) (stack : List Nat) (k : LabelHelper) : Prop :=
  ∀ q ∈ stack, ∃ kq, ProviderAt inj kq q ∧ Relation.TransGen (KeyEdge inj) kq k

theorem StackBelow.tail {inj : Injector} {stack : List Nat} {k k' : LabelHelper}
    (h : StackBelow inj stack k) (he : KeyEdge inj k k') : StackBelow inj stack k' :=
  fun q hq => let ⟨kq, hp, ht⟩ := h q hq; ⟨kq, hp, ht.tail he⟩

/-- The state of the context at `c0` and of its singletons while requests run, the
singletons of `stack` being in their `Create`. -/
structure Inv (inj : Injector) (c0 : Nat) (stack : List Nat) (w : World) : Prop where
  injector : (w.contexts c0).injector = some inj.id
  capacity : (w.contexts c0).capacity = (w.contexts c0).initList.length
  initList_nodup : (w.contexts c0).initList.Nodup
  provider_mem : ∀ k p, ProviderAt inj k p → p ∈ (w.contexts c0).initList
  provider_injector : ∀ p ∈ (w.contexts c0).initList, (w.providers p).injector = some inj.id
  cleanup_nodup : (w.contexts c0).cleanupList.Nodup
  cleanup_subset : (w.contexts c0).cleanupList ⊆ (w.contexts c0).initList
  called_iff : ∀ p, (w.providers p).called = true ↔ p ∈ (w.contexts c0).cleanupList
  creation_order : (w.contexts c0).cleanupList = createdProviders w.log
  stack_fresh : ∀ p ∈ stack, p ∉ (w.contexts c0).cleanupList
  object_null : ∀ p, (w.providers p).called = false → (w.providers p).object = .null
  created : ∀ p, createdObjects p w.log =
    if (w.providers p).called then [(w.providers p).object] else []
  got : ∀ p v s, Event.singletonGot p v s ∈ w.log →
    (w.providers p).called = true ∧ v = (w.providers p).object
  got_order : ∀ b v s, Event.singletonGot b v s ∈ w.log → b ∈ (w.contexts c0).cleanupList ∧
    ∀ a ∈ s, List.Sublist [b, a] (w.contexts c0).cleanupList ∨
      (a ∈ stack ∧ a ∉ (w.contexts c0).cleanupList)

def NoFault (e : Failure) (_ : World) : Prop := ¬ SingletonFault e

section Transitions

variable {inj : Injector} {c0 : Nat} {stack : List Nat} {w : World} {p : Nat}

theorem Inv.not_called (h : Inv inj c0 stack w) (hp : p ∈ stack) :
    (w.providers p).called = false :=
  Bool.eq_false_iff.2 fun hc => h.stack_fresh p hp ((h.called_iff p).1 hc)

theorem Inv.push (h : Inv inj c0 stack w) (hp : (w.providers p).called = false) :
    Inv inj c0 (p :: stack) w :=
  { h with
    stack_fresh := by
      rintro q (_ | ⟨_, hq⟩)
      · simp [← h.called_iff, hp]
      · exact h.stack_fresh q hq
    got_order := fun b v s hg => (h.got_order b v s hg).imp_right fun hs a ha =>
      (hs a ha).imp_right fun ⟨has, hac⟩ => ⟨.tail _ has, hac⟩ }

theorem Inv.record_got (h : Inv inj c0 stack w) (hp : (w.providers p).called = true) :
    Inv inj c0 stack (w.record (.singletonGot p (w.providers p).object stack)) :=
  { h with
    creation_order := by simp [h.creation_order]
    created := fun q => by simp [h.created q]
    got := by
      simp only [World.log_record, List.mem_append, List.mem_singleton, Event.singletonGot.injEq]
      rintro q v s (hg | ⟨rfl, rfl, rfl⟩)
      · exact h.got q v s hg
      · exact ⟨hp, rfl⟩
    got_order := by
      simp only [World.log_record, List.mem_append, List.mem_singleton, Event.singletonGot.injEq]
      rintro b v s (hg | ⟨rfl, rfl, rfl⟩)
      · exact h.got_order b v s hg
      · exact ⟨(h.called_iff b).1 hp, fun a ha => .inr ⟨ha, h.stack_fresh a ha⟩⟩ }

theorem Inv.record_lookup (h : Inv inj c0 stack w) (ctx : LocalContext) (tid : LabelHelper)
    (s : List Nat) : Inv inj c0 stack (w.record (.assistedLookup ctx tid s)) :=
  { h with
    creation_order := by simp [h.creation_order]
    created := fun q => by simp [h.created q]
    got := fun q v s hg => h.got q v s (by simpa using hg)
    got_order := fun b v s hg => h.got_order b v s (by simpa using hg) }

theorem Inv.finish (h : Inv inj c0 (p :: stack) w) (hps : p ∉ stack)
    (hil : p ∈ (w.contexts c0).initList) (o : Val) :
    let w₁ := (w.setProvider p { w.providers p with object := o }).record (.singletonCreated p o)
    let w₂ := w₁.setContext c0
      { w₁.contexts c0 with cleanupList := (w₁.contexts c0).cleanupList ++ [p] }
    Inv inj c0 stack (w₂.setProvider p { w₂.providers p with called := true }) := by
  have hc := h.not_called (List.mem_cons_self p stack)
  have hcl := h.stack_fresh p (List.mem_cons_self p stack)
  have hnot : ∀ {q}, q ∈ stack → q ≠ p := fun hq hqp => hps (hqp ▸ hq)
  refine
    { injector := by simp [h.injector]
      capacity := by simp [h.capacity]
      initList_nodup := by simpa using h.initList_nodup
      provider_mem := fun k q hq => by simpa using h.provider_mem k q hq
      provider_injector := fun q hq => ?_
      cleanup_nodup := by simpa using List.nodup_append_comm.1 (List.nodup_cons.2 ⟨hcl, h.cleanup_nodup⟩)
      cleanup_subset := by simpa using List.append_subset.2 ⟨h.cleanup_subset, List.cons_subset.2 ⟨hil, List.nil_subset _⟩⟩
      called_iff := fun q => ?_
      creation_order := by simp [h.creation_order]
      stack_fresh := fun q hq => by simpa [hnot hq] using h.stack_fresh q (.tail _ hq)
      object_null := fun q => ?_
      created := fun q => ?_
      got := fun q v s hg => ?_
      got_order := fun b v s hg => ?_ }
  · simp only [World.contexts_setProvider, World.contexts_record, World.contexts_setContext,
      if_pos rfl, ite_true] at hq
    rcases eq_or_ne q p with rfl | hqp <;> simp [*, h.provider_injector q hq]
  · by_cases hqp : q = p <;> simp [hqp, h.called_iff]
  · by_cases hqp : q = p
    · simp [hqp]
    · simpa [hqp] using h.object_null q
  · by_cases hqp : q = p
    · subst hqp
      simp [h.created q, hc]
    · simp [hqp, Ne.symm hqp, h.created q]
  · have hg' : Event.singletonGot q v s ∈ w.log := by simpa using hg
    obtain ⟨hq, rfl⟩ := h.got q v s hg'
    have hqp : q ≠ p := fun e => by simp [e, hc] at hq
    simp [hqp, hq]
  · have hg' : Event.singletonGot b v s ∈ w.log := by simpa using hg
    obtain ⟨hb, hs⟩ := h.got_order b v s hg'
    simp only [World.contexts_setProvider, World.contexts_record, World.contexts_setContext,
      if_pos rfl, ite_true, List.mem_append, List.mem_singleton]
    refine ⟨.inl hb, fun a ha => ?_⟩
    rcases hs a ha with hba | ⟨hap, hac⟩
    · exact .inl (hba.trans (List.sublist_append_left _ _))
    rcases List.mem_cons.1 hap with rfl | has
    · exact .inl (List.Sublist.append (List.singleton_sublist.2 hb) (List.Sublist.refl [a]))
    · exact .inr ⟨has, by simp [hac, hnot has]⟩

theorem invokeInitNow_eq (h : Inv inj c0 stack w) (hp : p ∈ (w.contexts c0).initList) :
    invokeInitNow c0 p w = .ok () w :=
  invokeInitNow_idle h.injector (h.provider_injector p hp)

theorem triple_finishCreate (hps : p ∉ stack)
    (hil : ∀ w, Inv inj c0 (p :: stack) w → p ∈ (w.contexts c0).initList) (o : Val) :
    Triple (Inv inj c0 (p :: stack))
      (do
        modify fun w => (w.setProvider p { w.providers p with object := o }).record
          (.singletonCreated p o)
        addToCleanupList c0 p)
      (fun _ w => Inv inj c0 stack (w.setProvider p { w.providers p with called := true }))
      NoFault := by
  intro w hw
  have hp := hil w hw
  have hlen : (w.contexts c0).cleanupList.length < (w.contexts c0).capacity := by
    have := (List.nodup_cons.2 ⟨hw.stack_fresh p (List.mem_cons_self p stack), hw.cleanup_nodup⟩
      |>.subperm (List.cons_subset.2 ⟨hp, hw.cleanup_subset⟩)).length_le
    rw [hw.capacity]
    simpa using this
  show Sat _ _ (addToCleanupList c0 p _)
  rw [addToCleanupList_run]
  simp only [World.contexts_record, World.contexts_setProvider, ScopeSetupContext.addToCleanupList,
    hp, not_true_eq_false, if_false, hlen, if_true]
  exact hw.finish hps hp o

end Transitions

theorem tableEntryReaderGet_not_fault {t : CType} {e : Entry} {f : Failure}
    (hf : tableEntryReaderGet t e = .error f) : ¬ SingletonFault f := by
  rcases tableEntryReaderGet_error hf with ⟨m, rfl⟩ | rfl
  · simp [SingletonFault]
  · simp [SingletonFault, typeIdCheck, addToInitListCheck, addToCleanupListCheck,
      invokeInitNowCheck, lazySingletonInitCheck]

/-- A request keeps the invariant of its stack and raises no fault of the singleton
machinery, provided the singletons of the stack sit above its key. -/
def SafeResolver (inj : Injector) (c0 : Nat) (resolve : Resolver) : Prop :=
  ∀ a t ctx stack, LocalContext.Leaf ctx → StackBelow inj stack (requestKey a t) →
    Triple (Inv inj c0 stack) (resolve a t ctx stack) (fun _ => Inv inj c0 stack) NoFault

section Step

variable {inj : Injector} {c0 : Nat} {resolve : Resolver} (hres : SafeResolver inj c0 resolve)
  {stack : List Nat} {p : Nat}
include hres

theorem triple_lazySingletonGet_inv {t : ObjType}
    (hil : ∀ s w, Inv inj c0 s w → p ∈ (w.contexts c0).initList) (hps : p ∉ stack)
    (hnested : StackBelow inj (p :: stack)
      (requestKey (labelAnnotations .unScoped) (.object (.pointer t .plain)))) :
    Triple (Inv inj c0 stack) (lazySingletonGet resolve p t c0 stack) (fun _ => Inv inj c0 stack)
      NoFault := by
  refine triple_bind (R := fun _ w => Inv inj c0 stack w ∧ (w.providers p).called = true) ?_
    fun _ => triple_get_bind_eq fun v ⟨hv, hc⟩ => triple_bind (R := fun _ => Inv inj c0 stack)
      (triple_record fun w hw => hw ▸ hv.record_got hc) fun _ => triple_pure fun _ h => h
  refine triple_get_bind_eq fun v hv => triple_ite (fun hc => triple_pure fun w hw => hw ▸ ⟨hv, hc⟩)
    fun hc => triple_bind (R := fun _ w =>
      Inv inj c0 stack (w.setProvider p { w.providers p with called := true })) ?_
    fun _ => triple_modify fun w hw => ⟨hw, by simp⟩
  have hleaf : LocalContext.empty.Leaf := by simp [LocalContext.Leaf, LocalContext.empty]
  refine triple_bind (R := fun _ w => w = v)
    (fun w hw => by rw [hw, invokeInitNow_eq hv (hil _ _ hv)]; rfl) fun _ => ?_
  exact triple_bind ((hres _ _ _ _ hleaf hnested).mono (fun w hw => hw ▸ hv.push (by simpa using hc))
    (fun _ _ h => h) fun _ _ h => h) (triple_finishCreate hps (hil _))

variable (hwired : Wired inj c0) (hacyc : SingletonsAcyclic inj)
include hwired hacyc

theorem triple_readEntry_inv {k : LabelHelper} {e : Entry} (he : keyEntry inj k = some e)
    (hs : StackBelow inj stack k) {ctx : LocalContext} (hctx : ctx.Leaf) (t : CType) :
    Triple (Inv inj c0 stack) (readEntry resolve t e ctx stack) (fun _ => Inv inj c0 stack)
      NoFault := by
  refine triple_readEntry (fun _ hf _ _ => tableEntryReaderGet_not_fault hf)
    (triple_entryGet e (fun r hr => hres _ _ _ _ hctx (hs.tail (keyEdge_of_request he hr)))
      fun x p t' c cl hx => ?_)
  subst hx
  obtain rfl := hwired.context_eq he
  have hpk : ProviderAt inj k p := ⟨x, t', c, cl, he⟩
  refine triple_lazySingletonGet_inv hres (fun _ _ hw => hw.provider_mem k p hpk) ?_ ?_
  · intro hp
    obtain ⟨kq, hq, htr⟩ := hs p hp
    exact hacyc k p hpk (hwired.key_unique hq hpk ▸ htr)
  · intro q hq
    rcases List.mem_cons.1 hq with rfl | hq
    · exact ⟨k, hpk, .single (keyEdge_of_lazySingleton he)⟩
    · exact hs.tail (keyEdge_of_lazySingleton he) q hq

theorem safeResolver_step : SafeResolver inj c0 (getActualTypeStep inj resolve) :=
  fun _ t _ _ hctx hs => triple_getActualTypeStep
    (fun _ he => triple_readEntry_inv hres hwired hacyc he hs hctx t)
    (fun _ hw => hw.record_lookup _ _ _)
    (fun _ he => triple_readEntry_leaf hctx he fun _ hf _ _ => tableEntryReaderGet_not_fault hf)
    fun _ _ _ => ⟨nofun, nofun⟩

end Step

theorem safeResolver_getActualType {inj : Injector} {c0 : Nat} (hwired : Wired inj c0)
    (hacyc : SingletonsAcyclic inj) :
    ∀ n, SafeResolver inj c0 (getActualType inj n)
  | 0 => fun _ _ _ _ _ _ => triple_throw fun _ _ => by simp [NoFault, SingletonFault]
  | n + 1 => safeResolver_step (safeResolver_getActualType hwired hacyc n) hwired hacyc

end Guicpp.ScopeInvariant
