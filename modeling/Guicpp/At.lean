import Guicpp.Types
import Mathlib.Data.List.Nodup

namespace Guicpp.At

open Guicpp.Types

/-- Label classes: the default `NotLabelled`, the singleton scope's `UnScoped`,
and the classes users derive from `Label`. -/
inductive LabelTag where
  | notLabelled
  | unScoped
  | user (id : Nat)
  deriving DecidableEq, Repr

inductive InjectType where
  | normalInject
  | assisted
  deriving DecidableEq, Repr

inductive Annotation where
  | label (l : LabelTag)
  | injectType (k : InjectType)
  deriving DecidableEq, Repr

/-- The annotation family, the base class an annotation names as `AnnotationType`. -/
inductive AnnotationType where
  | label
  | injectType
  deriving DecidableEq, Repr

def Annotation.annotationType : Annotation → AnnotationType
  | .label _ => .label
  | .injectType _ => .injectType

def Annotation.labelOf : Annotation → Option LabelTag
  | .label l => some l
  | .injectType _ => none

def Annotation.injectTypeOf : Annotation → Option InjectType
  | .label _ => none
  | .injectType k => some k

/-- The `Annotations<...>` list of guicpp_at.h, a header outside the sources. Two annotations
of one family do not compile. -/
structure Annotations where
  entries : List Annotation
  nodup : (entries.map Annotation.annotationType).Nodup
  deriving DecidableEq

def emptyAnnotations : Annotations := ⟨[], List.nodup_nil⟩

def labelAnnotations (l : LabelTag) : Annotations := ⟨[.label l], List.nodup_singleton _⟩

/-- `AtUtil::GetAt<Annotations, Label>::Type`. -/
def Annotations.labelAt (a : Annotations) : LabelTag :=
  (a.entries.findSome? Annotation.labelOf).getD .notLabelled

/-- `AtUtil::GetAt<Annotations, InjectType, DefaultValue>::Type`. -/
def Annotations.injectTypeAt (a : Annotations) (defaultValue : InjectType) : InjectType :=
  (a.entries.findSome? Annotation.injectTypeOf).getD defaultValue

/-- A type as written at a use site, `At<annotations..., ArgType>` or a plain
`ArgType`: what `AtUtil::GetTypes<T>` takes apart. -/
structure ParamType where
  annotations : Annotations
  argType : CType

/-- `AtUtil::GetTypes<T>::ActualType`. -/
def ParamType.actualType (p : ParamType) : CType := p.argType.removeCv

theorem Annotations.eq_of_annotationType {a : Annotations} {x y : Annotation}
    (hx : x ∈ a.entries) (hy : y ∈ a.entries) (h : x.annotationType = y.annotationType) :
    x = y :=
  List.inj_on_of_nodup_map a.nodup hx hy h

section GetAt

variable {β : Type} {f : Annotation → Option β} {fam : AnnotationType}

theorem findSome?_family {a : Annotations}
    (hf : ∀ x b, f x = some b → x.annotationType = fam) {x : Annotation} {b : β}
    (hx : x ∈ a.entries) (hb : f x = some b) : a.entries.findSome? f = some b := by
  obtain ⟨c, hc⟩ := Option.isSome_iff_exists.mp
    (List.findSome?_isSome_iff.mpr ⟨x, hx, Option.isSome_iff_exists.mpr ⟨b, hb⟩⟩)
  obtain ⟨_, z, _, hsplit, hz, -⟩ := List.findSome?_eq_some_iff.mp hc
  have hzmem : z ∈ a.entries := by simp [hsplit]
  obtain rfl : z = x := a.eq_of_annotationType hzmem hx ((hf _ _ hz).trans (hf _ _ hb).symm)
  rw [hc, ← hz, hb]

theorem findSome?_perm {a b : Annotations} (h : a.entries.Perm b.entries)
    (hf : ∀ x c, f x = some c → x.annotationType = fam) :
    a.entries.findSome? f = b.entries.findSome? f := by
  cases ha : a.entries.findSome? f with
  | none =>
    rw [eq_comm, List.findSome?_eq_none_iff]
    exact fun x hx => List.findSome?_eq_none_iff.mp ha x (h.mem_iff.mpr hx)
  | some c =>
    obtain ⟨_, x, _, hsplit, hx, -⟩ := List.findSome?_eq_some_iff.mp ha
    exact (findSome?_family hf (h.mem_iff.mp (by simp [hsplit])) hx).symm

end GetAt

/-- The label of an `At` does not depend on the order its annotations are written in. -/
theorem Annotations.labelAt_perm {a b : Annotations} (h : a.entries.Perm b.entries) :
    a.labelAt = b.labelAt := by
  have hf : ∀ (x : Annotation) c, x.labelOf = some c → x.annotationType = .label := by
    intro x c hx
    cases x with
    | label => rfl
    | injectType => cases hx
  rw [labelAt, labelAt, findSome?_perm h hf]

theorem Annotations.injectTypeAt_perm {a b : Annotations} (h : a.entries.Perm b.entries)
    (d : InjectType) : a.injectTypeAt d = b.injectTypeAt d := by
  have hf : ∀ (x : Annotation) c, x.injectTypeOf = some c → x.annotationType = .injectType := by
    intro x c hx
    cases x with
    | label => cases hx
    | injectType => rfl
  rw [injectTypeAt, injectTypeAt, findSome?_perm h hf]

@[simp] theorem emptyAnnotations_labelAt : emptyAnnotations.labelAt = .notLabelled := rfl

@[simp] theorem emptyAnnotations_injectTypeAt (d : InjectType) :
    emptyAnnotations.injectTypeAt d = d := rfl

@[simp] theorem labelAnnotations_labelAt (l : LabelTag) : (labelAnnotations l).labelAt = l := rfl

@[simp] theorem labelAnnotations_injectTypeAt (l : LabelTag) (d : InjectType) :
    (labelAnnotations l).injectTypeAt d = d := rfl

end Guicpp.At
