import Guicpp.Termination

namespace Guicpp.SingletonScope

open Guicpp.Types Guicpp.At Guicpp.Entries Guicpp.InjectUtil Guicpp.Table Guicpp.Singleton
  Guicpp.Hoare Guicpp.Resolve Guicpp.KeyGraph Guicpp.Configure Guicpp.Tools Guicpp.ScopeInvariant
  Guicpp.Wiring Guicpp.Termination

/-- Every state an injector from `CreateInjector` reaches keeps the invariant, when no
singleton's construction requests its own key. -/
theorem reachable_inv {defaultEntry : NamedType → Option DefaultEntry} {module : Module}
    {context injector : Nat} {inj : Injector} {w : World}
    (h : Reachable defaultEntry module context injector inj w) (hacyc : SingletonsAcyclic inj) :
    Wired inj context ∧ Inv inj context [] w := by
  induction h with
  | create hc => exact createInjector_inv hc
  | request _ hctx hrun ih =>
    exact ⟨ih.1, (safeResolver_getActualType ih.1 hacyc _ _ _ _ [] hctx
      (fun _ h => absurd h (List.not_mem_nil _))).ok ih.2 hrun⟩

/-- Reverse dependency order of teardown: in every reachable state, a singleton `b` whose
`Get` ran while the `Create` of singleton `a` was running, directly or through other
requests, joined the cleanup list before `a`; so `ScopeSetupContext::Cleanup`, which
always returns, deletes the object of `a` before that of `b`. -/
theorem cleanup_reverse_dependency_order (defaultEntry : NamedType → Option DefaultEntry)
    (module : Module) (context injector : Nat) (inj : Injector) (w : World)
    (hreach : Reachable defaultEntry module context injector inj w)
    (hacyc : SingletonsAcyclic inj) :
    ∀ b v s, Event.singletonGot b v s ∈ w.log → ∀ a ∈ s,
      List.Sublist [b, a] (w.contexts context).cleanupList ∧
      ∃ w', scopeSetupContextCleanup context w = .ok () w' ∧
        List.Sublist [a, b] (deletedProviders w'.log) := by
  intro b v s hg a ha
  have hba : List.Sublist [b, a] (w.contexts context).cleanupList :=
    (((reachable_inv hreach hacyc).2.got_order b v s hg).2 a ha).resolve_right fun h => List.not_mem_nil a h.1
  obtain ⟨w', hw', -, ⟨evs, hlog, hd, -⟩, -⟩ := scopeSetupContextCleanup_ok context w
  refine ⟨hba, w', hw', ?_⟩
  rw [hlog, deletedProviders_append,
    show deletedProviders (.contextCleanup context :: evs) = deletedProviders evs from rfl, hd]
  exact (List.reverse_sublist.2 hba).trans (List.sublist_append_right _ _)

theorem nested_acyclic : SingletonsAcyclic nestedInjector :=
  fun _ _ _ ht => Nat.lt_irrefl _ (rank_lt_of_transGen nested_rank ht)

theorem nested_reachable : ∃ w, Reachable nestedDefaults nestedModule 0 1 nestedInjector w ∧
    ∃ v, Event.singletonGot 1 v [0] ∈ w.log := by
  obtain ⟨w, hw, hb⟩ := (Reachable.create rfl : Reachable nestedDefaults nestedModule 0 1 nestedInjector
    nestedWorld).request_of_eq_true 4 emptyAnnotations
      (.object (.pointer (.named (.userClass 0) .plain) .plain)) .empty
      (by simp [LocalContext.Leaf, LocalContext.empty])
      (fun w => w.log.any fun | .singletonGot 1 _ [0] => true | _ => false) (by decide)
  obtain ⟨e, he, hm⟩ := List.any_eq_true.1 hb
  split at hm
  · exact ⟨w, hw, _, he⟩
  · cases hm

theorem cleanup_reverse_dependency_order_nested : ∃ w,
    Reachable nestedDefaults nestedModule 0 1 nestedInjector w ∧ SingletonsAcyclic nestedInjector ∧
    (∃ v, Event.singletonGot 1 v [0] ∈ w.log) ∧
    ∀ b v s, Event.singletonGot b v s ∈ w.log → ∀ a ∈ s,
      List.Sublist [b, a] (w.contexts 0).cleanupList ∧
      ∃ w', scopeSetupContextCleanup 0 w = .ok () w' ∧
        List.Sublist [a, b] (deletedProviders w'.log) :=
  let ⟨w, hw, hgot⟩ := nested_reachable
  ⟨w, hw, nested_acyclic, hgot, cleanup_reverse_dependency_order _ _ _ _ _ _ hw nested_acyclic⟩

end Guicpp.SingletonScope
