import Guicpp.KeyGraph

namespace Guicpp.Threading

open Guicpp.Types Guicpp.At Guicpp.Entries Guicpp.InjectUtil Guicpp.Singleton Guicpp.Hoare
  Guicpp.Resolve Guicpp.KeyGraph

/-- What an assisted lookup made by a call with `stack` and local context `ctx` may search:
`ctx` itself, or, inside a singleton's `Create` that the call started, a new empty context. -/
def SearchesOwn (stack : List Nat) (ctx : LocalContext) : Event → Prop
  | .assistedLookup c _ s => (s = stack ∧ c = ctx) ∨ (c = .empty ∧ ∃ p q, s = p :: q ++ stack)
  | _ => True

/-- `w` is `w₀` with events appended, each one the call `(stack, ctx)` may make. -/
def Threaded (stack : List Nat) (ctx : LocalContext) (w₀ w : World) : Prop :=
  ∃ l, w.log = w₀.log ++ l ∧ ∀ e ∈ l, SearchesOwn stack ctx e

section Threaded

variable {stack : List Nat} {ctx : LocalContext} {w₀ w w' : World}

theorem Threaded.refl : Threaded stack ctx w w := ⟨[], by simp, by simp⟩

theorem Threaded.trans (h : Threaded stack ctx w₀ w) (h' : Threaded stack ctx w w') :
    Threaded stack ctx w₀ w' := by
  obtain ⟨l, hl, hs⟩ := h
  obtain ⟨l', hl', hs'⟩ := h'
  exact ⟨l ++ l', by simp [hl', hl], fun e he => (List.mem_append.mp he).elim (hs e) (hs' e)⟩

theorem Threaded.of_log (h : Threaded stack ctx w₀ w) (hlog : w'.log = w.log) :
    Threaded stack ctx w₀ w' :=
  let ⟨l, hl, hs⟩ := h
  ⟨l, hlog.trans hl, hs⟩

theorem Threaded.append {e : Event} (h : Threaded stack ctx w₀ w) (hlog : w'.log = w.log ++ [e])
    (he : SearchesOwn stack ctx e) : Threaded stack ctx w₀ w' :=
  h.trans ⟨[e], hlog, by simpa using he⟩

theorem searchesOwn_nested {p : Nat} {e : Event} (h : SearchesOwn (p :: stack) .empty e) :
    SearchesOwn stack ctx e := by
  cases e with
  | assistedLookup c _ s =>
    obtain ⟨rfl, rfl⟩ | ⟨rfl, q, r, rfl⟩ := h
    · exact .inr ⟨rfl, p, [], rfl⟩
    · exact .inr ⟨rfl, q, r ++ [p], by simp⟩
  | _ => trivial

theorem Threaded.nested {p : Nat} (h : Threaded (p :: stack) .empty w₀ w) :
    Threaded stack ctx w₀ w :=
  let ⟨l, hl, hs⟩ := h
  ⟨l, hl, fun e he => searchesOwn_nested (hs e he)⟩

end Threaded

def ThreadsContext (resolve : Resolver) : Prop :=
  ∀ a t ctx stack w₀, Triple (Threaded stack ctx w₀) (resolve a t ctx stack)
    (fun _ => Threaded stack ctx w₀) fun _ => Threaded stack ctx w₀

section Step

variable {resolve : Resolver} (h : ThreadsContext resolve) (ctx : LocalContext)
  (stack : List Nat) (w₀ : World)
include h

theorem triple_lazySingletonCreate (p : Nat) (t : ObjType) (c : Nat) :
    Triple (Threaded stack ctx w₀) (lazySingletonCreate resolve p t c stack)
      (fun _ => Threaded stack ctx w₀) fun _ => Threaded stack ctx w₀ := by
  refine triple_bind (triple_of_log (invokeInitNow_log c p) fun _ _ => flip Threaded.of_log)
    fun _ => triple_bind (triple_of_forall fun w₁ h₁ => (h _ _ _ _ w₁).mono
      (fun _ hw => hw ▸ Threaded.refl) (fun _ _ hw => h₁.trans hw.nested)
      fun _ _ hw => h₁.trans hw.nested) fun o => ?_
  refine triple_bind (R := fun _ => Threaded stack ctx w₀)
    (triple_modify fun _ hw => hw.append (e := .singletonCreated p o) rfl trivial) fun _ => ?_
  exact triple_of_log (addToCleanupList_log c p) fun _ _ => flip Threaded.of_log

theorem triple_lazySingletonGet (p : Nat) (t : ObjType) (c : Nat) :
    Triple (Threaded stack ctx w₀) (lazySingletonGet resolve p t c stack)
      (fun _ => Threaded stack ctx w₀) fun _ => Threaded stack ctx w₀ := by
  refine triple_bind (R := fun _ => Threaded stack ctx w₀) (triple_get_bind fun _ _ =>
    triple_ite (fun _ => triple_pure fun _ hw => hw) fun _ => ?_) fun _ => triple_get_bind fun w _ => ?_
  · exact triple_bind (triple_lazySingletonCreate h ctx stack w₀ p t c) fun _ =>
      triple_modify fun _ hw => hw.of_log rfl
  · exact triple_bind (R := fun _ => Threaded stack ctx w₀) (triple_record fun _ hw =>
      hw.append (e := .singletonGot p (w.providers p).object stack) rfl trivial) fun _ =>
      triple_pure fun _ hw => hw

theorem triple_readEntry_threaded (t : CType) (e : Entry) :
    Triple (Threaded stack ctx w₀) (readEntry resolve t e ctx stack)
      (fun _ => Threaded stack ctx w₀) fun _ => Threaded stack ctx w₀ :=
  triple_readEntry (fun _ _ _ hw => hw) (triple_entryGet e (fun r _ => h r.1 r.2 ctx stack w₀)
    fun _ p t c _ _ => triple_lazySingletonGet h ctx stack w₀ p t c)

end Step

theorem threadsContext_step (inj : Injector) {resolve : Resolver} (h : ThreadsContext resolve) :
    ThreadsContext (getActualTypeStep inj resolve) :=
  fun _ t ctx stack w₀ => triple_getActualTypeStep
    (fun e _ => triple_readEntry_threaded h ctx stack w₀ t e)
    (fun _ hw => hw.append rfl (.inl ⟨rfl, rfl⟩))
    (fun e _ => triple_readEntry_threaded h ctx stack w₀ t e) fun _ _ hw => ⟨hw, hw⟩

theorem threadsContext_getActualType (inj : Injector) : ∀ n, ThreadsContext (getActualType inj n)
  | 0 => fun _ _ _ _ _ => triple_throw fun _ hw => hw
  | n + 1 => threadsContext_step inj (threadsContext_getActualType inj n)

end Guicpp.Threading
