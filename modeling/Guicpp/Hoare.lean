import Mathlib.Logic.Basic

namespace Guicpp.Hoare

variable {ε σ α β : Type}

/-- The postcondition of one result: `Q` of a returned value, `E` of a failure, each
with the final state. -/
def Sat (Q : α → σ → Prop) (E : ε → σ → Prop) : EStateM.Result ε σ α → Prop
  | .ok a s => Q a s
  | .error e s => E e s

/-- From a state satisfying `P`, `m` returns a value and a state satisfying `Q`, or
fails with a failure and a state satisfying `E`. `EStateM` always returns, so this is
total correctness. -/
def Triple (P : σ → Prop) (m : EStateM ε σ α) (Q : α → σ → Prop) (E : ε → σ → Prop) : Prop :=
  ∀ s, P s → Sat Q E (m s)

variable {P P' : σ → Prop} {Q Q' : α → σ → Prop} {E E' : ε → σ → Prop}

@[simp] theorem sat_ok {a : α} {s : σ} : Sat Q E (.ok a s) ↔ Q a s := Iff.rfl

@[simp] theorem sat_error {e : ε} {s : σ} : Sat Q E (.error e s : EStateM.Result ε σ α) ↔ E e s :=
  Iff.rfl

theorem Sat.mono {r : EStateM.Result ε σ α} (h : Sat Q E r) (hQ : ∀ a s, Q a s → Q' a s)
    (hE : ∀ e s, E e s → E' e s) : Sat Q' E' r := by
  cases r with
  | ok a s => exact hQ a s h
  | error e s => exact hE e s h

theorem Triple.mono {m : EStateM ε σ α} (h : Triple P m Q E) (hP : ∀ s, P' s → P s)
    (hQ : ∀ a s, Q a s → Q' a s) (hE : ∀ e s, E e s → E' e s) : Triple P' m Q' E' :=
  fun s hs => (h s (hP s hs)).mono hQ hE

theorem Triple.post {m : EStateM ε σ α} (h : Triple P m Q E) (hQ : ∀ a s, Q a s → Q' a s) :
    Triple P m Q' E :=
  h.mono (fun _ => id) hQ fun _ _ => id

theorem Triple.ok {m : EStateM ε σ α} (h : Triple P m Q E) {s s' : σ} {a : α} (hs : P s)
    (hr : m s = .ok a s') : Q a s' := by
  have hq := h s hs
  rwa [hr] at hq

theorem triple_true {m : EStateM ε σ α} : Triple P m (fun _ _ => True) fun _ _ => True :=
  fun s _ => by cases m s <;> trivial

theorem triple_of_forall {m : EStateM ε σ α} (h : ∀ s₀, P s₀ → Triple (· = s₀) m Q E) :
    Triple P m Q E :=
  fun s hs => h s hs s rfl

theorem triple_pure {a : α} (h : ∀ s, P s → Q a s) : Triple P (pure a : EStateM ε σ α) Q E := h

theorem triple_throw {e : ε} (h : ∀ s, P s → E e s) : Triple P (throw e : EStateM ε σ α) Q E := h

theorem triple_ofExcept {x : Except ε α} (hok : ∀ a, x = .ok a → ∀ s, P s → Q a s)
    (herr : ∀ e, x = .error e → ∀ s, P s → E e s) : Triple P (ofExcept x : EStateM ε σ α) Q E := by
  cases x with
  | ok a => exact triple_pure (hok a rfl)
  | error e => exact triple_throw (herr e rfl)

theorem triple_set {s' : σ} {Q : Unit → σ → Prop} (h : ∀ s, P s → Q () s') :
    Triple P (set s' : EStateM ε σ Unit) Q E := h

theorem triple_get : Triple P (get : EStateM ε σ σ) (fun v s => v = s ∧ P s) E :=
  fun _ hs => ⟨rfl, hs⟩

theorem triple_modify {f : σ → σ} {Q : Unit → σ → Prop} (h : ∀ s, P s → Q () (f s)) :
    Triple P (modify f : EStateM ε σ Unit) Q E := h

theorem triple_bind {m : EStateM ε σ α} {f : α → EStateM ε σ β} {R : α → σ → Prop}
    {Q : β → σ → Prop} (hm : Triple P m R E) (hf : ∀ a, Triple (R a) (f a) Q E) :
    Triple P (m >>= f) Q E := by
  intro s hs
  have h := hm s hs
  show Sat Q E (match m s with | .ok a s => f a s | .error e s => .error e s)
  cases hr : m s with
  | ok a s' => rw [hr] at h; exact hf a s' h
  | error e s' => rw [hr] at h; exact h

theorem triple_get_bind {f : σ → EStateM ε σ β} {Q : β → σ → Prop}
    (h : ∀ v, P v → Triple P (f v) Q E) : Triple P (get >>= f) Q E :=
  fun s hs => h s hs s hs

theorem triple_get_bind_eq {f : σ → EStateM ε σ β} {Q : β → σ → Prop}
    (h : ∀ v, P v → Triple (· = v) (f v) Q E) : Triple P (get >>= f) Q E :=
  fun s hs => h s hs s rfl

theorem triple_ite {c : Prop} [Decidable c] {m m' : EStateM ε σ α} (h : c → Triple P m Q E)
    (h' : ¬c → Triple P m' Q E) : Triple P (if c then m else m') Q E := by
  split
  · exact h ‹_›
  · exact h' ‹_›

theorem triple_mapM {xs : List α} {f : α → EStateM ε σ β} {I : σ → Prop}
    (h : ∀ x ∈ xs, Triple I (f x) (fun _ => I) E) :
    Triple I (xs.mapM f) (fun _ => I) E := by
  induction xs with
  | nil => exact triple_pure fun _ => id
  | cons x xs ih =>
    simp only [List.mapM_cons]
    refine triple_bind (h x (List.mem_cons_self _ _)) fun _ => triple_bind
      (ih fun y hy => h y (List.mem_cons_of_mem _ hy)) fun _ => triple_pure fun _ => id

end Guicpp.Hoare
