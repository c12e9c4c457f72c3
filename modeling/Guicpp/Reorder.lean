import Guicpp.Bindings

namespace Guicpp.Reorder

open Guicpp.Types Guicpp.At Guicpp.Entries Guicpp.InjectUtil Guicpp.Table Guicpp.Singleton
  Guicpp.Hoare Guicpp.Configure Guicpp.Bindings

/-- The one call on the bind table that a call of the `Binder` makes, or the compile error of
its key; `none` for `BindToScope` and `Install`, which do more. Neither depends on the
binder's state. -/
def tableCall (op : BinderOp) : Option (Except Failure (Call LabelHelper Entry)) :=
  match op.binding?, op with
  | some (a, t, e), _ => some ((getBindId a t).map (.addEntry · e))
  | none, .addCleanupAction f => some (pure (.addToCleanupList (.cleanupEntry (.user f))))
  | none, _ => none

theorem tableCall_isSome {op : BinderOp} (hi : ∀ m, op ≠ .install m)
    (hs : ∀ s, op ≠ .bindToScope s) : (tableCall op).isSome := by
  rcases hb : op.binding? with _ | ⟨a, t, e⟩
  · rcases BinderOp.binding?_eq_none hb with ⟨s, rfl⟩ | ⟨f, rfl⟩ | ⟨m, rfl⟩
    exacts [absurd rfl (hs s), rfl, absurd rfl (hi m)]
  · simp [tableCall, hb]

theorem configure_cons_run (op : BinderOp) (ops : Module) (st : ConfigState) :
    configure (op :: ops) st = match configureOp op st with
      | .ok () st' => configure ops st'
      | .error f st' => .error f st' := by
  show EStateM.bind _ _ st = _
  unfold EStateM.bind
  rcases configureOp op st with ⟨⟨⟩, _⟩ | _ <;> rfl

theorem bindEntry_run (a : Annotations) (t : CType) (e : Entry) (st : ConfigState) :
    Binder.bindEntry a t e st = match getBindId a t with
      | .ok tid => Binder.addBindEntry tid e st
      | .error f => .error f st := by
  show (ofExcept (getBindId a t) >>= fun tid => Binder.addBindEntry tid e) st = _
  cases getBindId a t <;> rfl

theorem configureOp_of_tableCall {op : BinderOp} {r : Except Failure (Call LabelHelper Entry)}
    (h : tableCall op = some r) {st : ConfigState} (hst : st.Consistent) :
    (∃ f, r = .error f ∧ configureOp op st = .error f st) ∨
    ∃ c st', r = .ok c ∧ configureOp op st = .ok () st' ∧ st'.Consistent ∧
      st'.calls = st.calls ++ [c] := by
  rcases hb : op.binding? with _ | ⟨a, t, e⟩
  · rcases BinderOp.binding?_eq_none hb with ⟨s, rfl⟩ | ⟨f, rfl⟩ | ⟨m, rfl⟩
    · cases h
    · cases h
      exact .inr ⟨_, _, rfl, rfl, triple_addCleanupAction (.user f) st hst, rfl⟩
    · cases h
  · obtain rfl : (getBindId a t).map (.addEntry · e) = r := by simpa [tableCall, hb] using h
    rw [(configureOp_of_binding hb).1, bindEntry_run]
    cases getBindId a t with
    | error f => exact .inl ⟨f, rfl, rfl⟩
    | ok tid => exact .inr ⟨_, _, rfl, rfl, triple_addBindEntry tid e st hst, rfl⟩

variable {l : List BinderOp}

theorem configure_fails_of_error (hs : ∀ op ∈ l, (tableCall op).isSome)
    (herr : ∃ op ∈ l, ∃ f, tableCall op = some (.error f)) {st : ConfigState}
    (hst : st.Consistent) : ∃ f st', configure l st = .error f st' := by
  induction l generalizing st with
  | nil => exact absurd herr.choose_spec.1 (List.not_mem_nil _)
  | cons op ops ih =>
    obtain ⟨r, hr⟩ := Option.isSome_iff_exists.1 (hs op (List.mem_cons_self _ _))
    rw [configure_cons_run]
    rcases configureOp_of_tableCall hr hst with ⟨f, -, hf⟩ | ⟨c, st', rfl, hst', hc, -⟩
    · rw [hf]
      exact ⟨f, st, rfl⟩
    · rw [hst']
      obtain ⟨op', hop', f, hf⟩ := herr
      refine ih (fun o ho => hs o (List.mem_cons_of_mem _ ho)) ?_ hc
      rcases List.mem_cons.1 hop' with rfl | hop'
      · cases hr.symm.trans hf
      · exact ⟨op', hop', f, hf⟩

def tableCalls (l : List BinderOp) : List (Call LabelHelper Entry) :=
  l.filterMap fun op => (tableCall op).bind Except.toOption

theorem configure_of_tableCalls (hok : ∀ op ∈ l, ∃ c, tableCall op = some (.ok c))
    {st : ConfigState} (hst : st.Consistent) :
    ∃ st', configure l st = .ok () st' ∧ st'.Consistent ∧ st'.calls = st.calls ++ tableCalls l := by
  induction l generalizing st with
  | nil => exact ⟨st, rfl, hst, (List.append_nil _).symm⟩
  | cons op ops ih =>
    obtain ⟨c, hc⟩ := hok op (List.mem_cons_self _ _)
    rcases configureOp_of_tableCall hc hst with ⟨f, ⟨⟩, -⟩ | ⟨_, st₁, ⟨⟩, h₁, hst₁, hcalls₁⟩
    obtain ⟨st₂, h₂, hst₂, hcalls₂⟩ := ih (fun o ho => hok o (List.mem_cons_of_mem _ ho)) hst₁
    refine ⟨st₂, by rw [configure_cons_run, h₁]; exact h₂, hst₂, ?_⟩
    simp [hcalls₂, hcalls₁, tableCalls, hc, Except.toOption]

theorem create_of_perm {st st' : ConfigState} (hst : st.Consistent) (hst' : st'.Consistent)
    (hp : st.calls.Perm st'.calls) :
    st.numErrors = st'.numErrors ∧ (st.numErrors = 0 →
      (∀ k, st.bindTable.findEntry k = st'.bindTable.findEntry k) ∧
      st.bindTable.cleanupList.Perm st'.bindTable.cleanupList) := by
  have hb : (st.calls.filterMap Call.binding?).Perm (st'.calls.filterMap Call.binding?) :=
    hp.filterMap _
  have hids : (bindIds st.calls).Perm (bindIds st'.calls) := hb.map _
  have hn : st.numErrors = st'.numErrors := by
    rw [hst.2, hst'.2, hids.length_eq, List.toFinset_eq_of_perm _ _ hids]
  refine ⟨hn, fun h0 => ⟨fun k => ?_, ?_⟩⟩
  · have hnd : (bindIds st.calls).Nodup := (length_sub_card_eq_zero_iff _).1 (hst.2 ▸ h0)
    rw [hst.1, hst'.1, run_findEntry, run_findEntry]
    exact lookup_perm hb hnd k
  · rw [hst.1, hst'.1, run_cleanupList, run_cleanupList]
    exact hp.map _

/-- The order of a module's calls does not matter when it binds no scope: two modules whose
calls, with every `Install` in place, are the same up to order, both make `Injector::Create`
fail, or both make it return a table that finds the same entry for every key and owns the
same entries; only the order in which `~Injector` deletes them differs. -/
theorem create_reorder (m m' : Module) (hperm : (flatten m).Perm (flatten m'))
    (hs : ∀ s, .bindToScope s ∉ flatten m) (w : World) :
    (∃ f s f' s', Injector.create (configure m) (ConfigState.fresh w) = .error f s ∧
      Injector.create (configure m') (ConfigState.fresh w) = .error f' s') ∨
    ∃ st st', Injector.create (configure m) (ConfigState.fresh w) = .ok () st ∧
      Injector.create (configure m') (ConfigState.fresh w) = .ok () st' ∧
      (∀ k, st.bindTable.findEntry k = st'.bindTable.findEntry k) ∧
      st.bindTable.cleanupList.Perm st'.bindTable.cleanupList := by
  have hsome : ∀ op ∈ flatten m, (tableCall op).isSome := fun op hop =>
    tableCall_isSome (ne_install_of_mem_flatten m hop) fun s h => hs s (h ▸ hop)
  have hsome' : ∀ op ∈ flatten m', (tableCall op).isSome := fun op hop =>
    hsome op (hperm.mem_iff.2 hop)
  have h0 := ConfigState.fresh_consistent w
  rw [Injector.create_run, Injector.create_run, configure_flatten m, configure_flatten m']
  by_cases herr : ∃ op ∈ flatten m, ∃ f, tableCall op = some (.error f)
  · obtain ⟨f, s, hf⟩ := configure_fails_of_error hsome herr h0
    obtain ⟨op, hop, herr'⟩ := herr
    obtain ⟨f', s', hf'⟩ := configure_fails_of_error hsome' ⟨op, hperm.subset hop, herr'⟩ h0
    rw [hf, hf']
    exact .inl ⟨f, s, f', s', rfl, rfl⟩
  · have hok : ∀ op ∈ flatten m, ∃ c, tableCall op = some (.ok c) := fun op hop => by
      obtain ⟨r, hr⟩ := Option.isSome_iff_exists.1 (hsome op hop)
      cases r with
      | ok c => exact ⟨c, hr⟩
      | error f => exact absurd ⟨op, hop, f, hr⟩ herr
    obtain ⟨st, hc, hst, hcalls⟩ := configure_of_tableCalls hok h0
    obtain ⟨st', hc', hst', hcalls'⟩ :=
      configure_of_tableCalls (fun op hop => hok op (hperm.mem_iff.2 hop)) h0
    have hp : st.calls.Perm st'.calls := by
      rw [hcalls, hcalls']
      exact (hperm.filterMap _).append_left _
    obtain ⟨hn, htable⟩ := create_of_perm hst hst' hp
    rw [hc, hc']
    by_cases hz : st.numErrors = 0
    · right
      simp only [hz, ← hn, ne_eq, not_true_eq_false, if_false]
      exact ⟨st, st', rfl, rfl, htable hz⟩
    · left
      simp only [← hn, hz, ne_eq, not_false_eq_true, if_true]
      exact ⟨_, st, _, st', rfl, rfl⟩

def valueThenInstall : Module :=
  [.bindToValue ⟨emptyAnnotations, .object (.named (.primitive 0) .plain)⟩ 7,
    .install [.bindToInstance ⟨emptyAnnotations, .named (.userClass 0) .plain⟩ 3 .deletePointer]]

def installThenValue : Module :=
  [.install [.bindToInstance ⟨emptyAnnotations, .named (.userClass 0) .plain⟩ 3 .deletePointer],
    .bindToValue ⟨emptyAnnotations, .object (.named (.primitive 0) .plain)⟩ 7]

theorem create_reorder_install :
    (flatten valueThenInstall).Perm (flatten installThenValue) ∧
    (∀ s, .bindToScope s ∉ flatten valueThenInstall) ∧
    ((∃ f s f' s', Injector.create (configure valueThenInstall) (ConfigState.fresh World.initial) =
          .error f s ∧
        Injector.create (configure installThenValue) (ConfigState.fresh World.initial) = .error f' s') ∨
      ∃ st st', Injector.create (configure valueThenInstall) (ConfigState.fresh World.initial) =
          .ok () st ∧
        Injector.create (configure installThenValue) (ConfigState.fresh World.initial) = .ok () st' ∧
        (∀ k, st.bindTable.findEntry k = st'.bindTable.findEntry k) ∧
        st.bindTable.cleanupList.Perm st'.bindTable.cleanupList) :=
  have hp : (flatten valueThenInstall).Perm (flatten installThenValue) := List.Perm.swap _ _ []
  have hs : ∀ s, .bindToScope s ∉ flatten valueThenInstall := by
    simp [valueThenInstall, flatten, BinderOp.flatten]
  ⟨hp, hs, create_reorder _ _ hp hs World.initial⟩

end Guicpp.Reorder
