import Guicpp.Wiring

namespace Guicpp.Termination

open Guicpp.Types Guicpp.At Guicpp.Entries Guicpp.InjectUtil Guicpp.Table Guicpp.Singleton
  Guicpp.Hoare Guicpp.Resolve Guicpp.Configure Guicpp.Tools Guicpp.KeyGraph Guicpp.Wiring

/-- With bound `n`, `resolve` never runs out on a request whose key has rank below `n` and
whose local context holds factory arguments only. -/
def FuelSuffices (rank : LabelHelper → Nat) (n : Nat) (resolve : Resolver) : Prop :=
  ∀ a t ctx stack, LocalContext.Leaf ctx → rank (requestKey a t) < n →
    Triple (fun _ => True) (resolve a t ctx stack) (fun _ _ => True) fun e _ => e ≠ .outOfFuel

theorem tableEntryReaderGet_ne_outOfFuel {t : CType} {e : Entry} {f : Failure}
    (hf : tableEntryReaderGet t e = .error f) : f ≠ .outOfFuel := by
  rcases tableEntryReaderGet_error hf with ⟨m, rfl⟩ | rfl <;> simp

section Rank

variable {inj : Injector} {rank : LabelHelper → Nat}
  (hrank : ∀ k k', KeyEdge inj k k' → rank k' < rank k)
include hrank

theorem triple_readEntry_fuel {n : Nat} {resolve : Resolver} (h : FuelSuffices rank n resolve)
    {k : LabelHelper} (hk : rank k < n + 1) {ctx : LocalContext} (hctx : ctx.Leaf)
    (stack : List Nat) (t : CType) (e : Entry) (he : keyEntry inj k = some e) :
    Triple (fun _ => True) (readEntry resolve t e ctx stack) (fun _ _ => True)
      fun e _ => e ≠ .outOfFuel := by
  refine triple_readEntry (fun _ hf _ _ => tableEntryReaderGet_ne_outOfFuel hf) (triple_entryGet e
    (fun r hr => h _ _ _ _ hctx ?_) fun x p t' c cl hx => triple_lazySingletonGet_errors ?_
      (h _ _ _ _ (by simp [LocalContext.Leaf, LocalContext.empty]) ?_))
  · have := hrank _ _ (keyEdge_of_request he hr)
    omega
  · rintro (_ | _ | _ | _ | _) _ hf <;> simp_all [SingletonFault]
  · subst hx
    have := hrank _ _ (keyEdge_of_lazySingleton he)
    omega

theorem fuelSuffices_step {n : Nat} {resolve : Resolver} (h : FuelSuffices rank n resolve) :
    FuelSuffices rank (n + 1) (getActualTypeStep inj resolve) :=
  fun _ t _ stack hctx hk => triple_getActualTypeStep
    (fun _ he => triple_readEntry_fuel hrank h hk hctx stack t _ he) (fun _ _ => trivial)
    (fun _ he => triple_readEntry_leaf hctx he fun _ hf _ _ => tableEntryReaderGet_ne_outOfFuel hf)
    fun _ _ _ => ⟨nofun, nofun⟩

theorem fuelSuffices_getActualType : ∀ n, FuelSuffices rank n (getActualType inj n)
  | 0 => fun _ _ _ _ _ hk => absurd hk (Nat.not_lt_zero _)
  | n + 1 => fuelSuffices_step hrank (fuelSuffices_getActualType n)

end Rank

/-- Resolution terminates on an acyclic key graph: for any rank that falls along every
edge of the key graph (the length of the longest path from a key is one), a recursion
bound above the rank of the requested key never runs out, whatever the local context of
factory arguments and the state of the singletons. -/
theorem getActualType_no_outOfFuel (inj : Injector) (rank : LabelHelper → Nat)
    (hrank : ∀ k k', KeyEdge inj k k' → rank k' < rank k) (a : Annotations) (t : CType)
    (ctx : LocalContext) (hctx : ctx.Leaf) (stack : List Nat) (fuel : Nat)
    (hfuel : rank (requestKey a t) < fuel) (w : World) :
    Sat (fun _ _ => True) (fun e _ => e ≠ .outOfFuel) (getActualType inj fuel a t ctx stack w) :=
  fuelSuffices_getActualType hrank fuel a t ctx stack hctx hfuel w trivial

def nestedDefaults : NamedType → Option DefaultEntry := fun n =>
  if n = .userClass 0 then
    some (.injectCtor [⟨emptyAnnotations, .object (.pointer (.named (.userClass 1) .plain) .plain)⟩])
  else if n = .userClass 1 then some (.injectCtor [])
  else none

/-- A module binding both classes to `LazySingleton`. -/
def nestedModule : Module :=
  [.bindToScope ⟨emptyAnnotations, .named (.userClass 0) .plain⟩,
    .bindToScope ⟨emptyAnnotations, .named (.userClass 1) .plain⟩]

def nestedInjector : Injector :=
  ⟨run [.addEntry scopeSetupContextId (contextEntry 0),
      .addEntry (normalInjectBindId (labelAnnotations .notLabelled) (.named (.userClass 0) .plain))
        (.bindToProviderEntry (.object (.pointer (.named (.userClass 0) .plain) .plain))
          (.lazySingleton 0 (.named (.userClass 0) .plain) 0) .deletePointer),
      .addEntry (normalInjectBindId (labelAnnotations .notLabelled) (.named (.userClass 1) .plain))
        (.bindToProviderEntry (.object (.pointer (.named (.userClass 1) .plain) .plain))
          (.lazySingleton 1 (.named (.userClass 1) .plain) 0) .deletePointer),
      .addToCleanupList (.cleanupEntry (.invokeCleanup 0))],
    1, nestedDefaults⟩

def nestedWorld : World :=
  match createInjector nestedDefaults nestedModule 0 1 with
  | .ok (_, w) => w
  | .error _ => .initial

def nestedRank (k : LabelHelper) : Nat :=
  (if k.label = .unScoped then 0 else 1) +
    match k.typeSpecifier with
    | .named (.userClass 0) _ => 2
    | _ => 0

theorem nested_rank : ∀ k k', KeyEdge nestedInjector k k' → nestedRank k' < nestedRank k := by
  rintro k k' ⟨e, he, r, hr, rfl⟩
  rcases keyEntry_eq_some he with hf | hd
  · rw [nestedInjector, run_findEntry] at hf
    obtain ⟨l₁, l₂, hl, -⟩ := List.lookup_eq_some_iff.1 hf
    have hm := hl ▸ List.mem_append_right l₁ (List.mem_cons_self (k, e) l₂)
    simp only [List.filterMap_cons, Call.binding?, List.filterMap_nil, List.mem_cons,
      Prod.mk.injEq, List.not_mem_nil, or_false] at hm
    rcases hm with ⟨rfl, rfl⟩ | ⟨rfl, rfl⟩ | ⟨rfl, rfl⟩
    · simp [dependencies, contextEntry, Entry.requests] at hr
    all_goals
      simp only [dependencies, Entry.requests, List.nil_append, List.mem_singleton] at hr
      subst hr
      decide
  · unfold Injector.guicppGetDefaultEntry at hd
    split at hd
    · rename_i n q hk
      split at hd
      · rename_i hn
        simp only [nestedInjector, nestedDefaults] at hn
        split_ifs at hn with h0 <;> cases hn <;> cases hd
        · simp only [dependencies, Entry.requests, DefaultEntry.entry, List.mem_append, List.mem_map,
            List.mem_singleton, List.not_mem_nil, or_false] at hr
          obtain ⟨_, rfl, rfl⟩ := hr
          have hk : nestedRank k = (if k.label = .unScoped then 0 else 1) + 2 := by
            rw [nestedRank, hk, h0]
          rw [hk]
          exact Nat.lt_of_lt_of_le (by decide) (Nat.le_add_left _ _)
        · simp [dependencies, Entry.requests, DefaultEntry.entry] at hr
      · cases hd
    · cases hd

theorem getActualType_no_outOfFuel_nested :
    (∀ k k', KeyEdge nestedInjector k k' → nestedRank k' < nestedRank k) ∧ LocalContext.empty.Leaf ∧
    nestedRank (requestKey emptyAnnotations (.object (.pointer (.named (.userClass 0) .plain) .plain))) < 4 ∧
    Sat (fun _ _ => True) (fun e _ => e ≠ .outOfFuel)
      (getActualType nestedInjector 4 emptyAnnotations
        (.object (.pointer (.named (.userClass 0) .plain) .plain)) .empty [] nestedWorld) :=
  have hctx : LocalContext.empty.Leaf := by simp [LocalContext.Leaf, LocalContext.empty]
  ⟨nested_rank, hctx, by decide,
    getActualType_no_outOfFuel _ _ nested_rank _ _ _ hctx _ _ (by decide) _⟩

end Guicpp.Termination
