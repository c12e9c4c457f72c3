import Guicpp.Entries

namespace Guicpp.InjectUtil

open Guicpp.Types Guicpp.At Guicpp.Entries

/-- `LabelHelper<I, L, TypeSpecifier>`. Its `TypeIdProvider` address is a bind key,
and distinct helper types have distinct addresses, so the key is the triple. -/
structure LabelHelper where
  injectType : InjectType
  label : LabelTag
  typeSpecifier : ObjType
  deriving DecidableEq, Repr

inductive InjectHandler where
  | normalInject
  | missingDefaultType
  | assistedInject
  | internalTypeInject
  deriving DecidableEq, Repr

/-- `GuicppGetInjectHandler`: the overload the `*Selector` traits enable for an
inject type and a type specifier; `none` when no overload matches. -/
def guicppGetInjectHandler : InjectType → ObjType → Option InjectHandler
  | .normalInject, s =>
    if s.isInternal then some .internalTypeInject
    else if s.isClassOrUnion then some .normalInject
    else some .missingDefaultType
  | .assisted, s => if s.isInternal then none else some .assistedInject

/-- `NormalInjectHandler::GetBindId(TypeKey<NormalInject>)`. -/
def normalInjectBindId (annotations : Annotations) (s : ObjType) : LabelHelper :=
  ⟨.normalInject, annotations.labelAt, s⟩

/-- `AssistedInjectHandler::GetBindId(TypeKey<Assisted>)`. -/
def assistedInjectBindId (annotations : Annotations) (s : ObjType) : LabelHelper :=
  ⟨.assisted, annotations.labelAt, s⟩

/-- A handler's `GetBindId(TypeKey<Table>)`; the other overloads instantiate
`Error<ActualType>`. -/
def InjectHandler.getBindId :
    InjectHandler → InjectType → Annotations → ObjType → Except Failure LabelHelper
  | .normalInject, .normalInject, a, s | .missingDefaultType, .normalInject, a, s =>
    .ok (normalInjectBindId a s)
  | .normalInject, .assisted, _, _ | .missingDefaultType, .assisted, _, _ =>
    .error (.compileError "Invalid_binding_or_lookup")
  | .assistedInject, .assisted, a, s => .ok (assistedInjectBindId a s)
  | .assistedInject, .normalInject, _, _ => .error (.compileError "Invalid_use_of_Assisted_annotation")
  | .internalTypeInject, _, _, _ => .error (.compileError "Invalid_binding_of_internal_type")

def noInjectHandler : Failure :=
  .compileError "no matching function for call to GuicppGetInjectHandler"

/-- `InjectorUtil::GetBindId<Annotations, ActualType>()`: the key a binding is
stored under. -/
def getBindId (annotations : Annotations) (t : CType) : Except Failure LabelHelper :=
  match guicppGetInjectHandler (annotations.injectTypeAt .normalInject) t.typeSpecifier with
  | some h => h.getBindId .normalInject annotations t.typeSpecifier
  | none => .error noInjectHandler

theorem getBindId_error {a : Annotations} {t : CType} {f : Failure} (h : getBindId a t = .error f) :
    ∃ m, f = .compileError m := by
  unfold getBindId at h
  split at h
  · rename_i i _
    cases i <;> simp only [InjectHandler.getBindId] at h <;> cases h <;> exact ⟨_, rfl⟩
  · cases h
    exact ⟨_, rfl⟩

/-- `InjectorUtil::GetFactoryArgsBindId<T>()`: the key a factory argument is
stored under; the inject type defaults to `Assisted`. -/
def getFactoryArgsBindId (p : ParamType) : Except Failure LabelHelper :=
  match guicppGetInjectHandler (p.annotations.injectTypeAt .assisted) p.actualType.typeSpecifier with
  | some h => h.getBindId .assisted p.annotations p.actualType.typeSpecifier
  | none => .error noInjectHandler

structure TypeIdArgumentPair where
  typeId : LabelHelper
  entry : Entry

/-- `LocalContext`: the arguments of one factory call. -/
structure LocalContext where
  args : List TypeIdArgumentPair

def LocalContext.empty : LocalContext := ⟨[]⟩

/-- `LocalContext::FindEntry`: a linear scan, first match. -/
def LocalContext.findEntry (c : LocalContext) (tid : LabelHelper) : Option Entry :=
  (c.args.find? (·.typeId = tid)).map (·.entry)

def LocalContext.Leaf (c : LocalContext) : Prop :=
  ∀ x ∈ c.args, ∃ t v, x.entry = .factoryArgumentEntry t v

theorem LocalContext.findEntry_mem {c : LocalContext} {tid : LabelHelper} {e : Entry}
    (h : c.findEntry tid = some e) : ∃ x ∈ c.args, x.entry = e := by
  obtain ⟨x, hx, rfl⟩ := Option.map_eq_some'.mp h
  exact ⟨x, List.mem_of_find?_eq_some hx, rfl⟩

theorem guicppGetInjectHandler_normalInject {i : InjectType} {s : ObjType}
    (h : guicppGetInjectHandler i s = some .normalInject) :
    i = .normalInject ∧ s.isInternal = false ∧ s.isClassOrUnion = true := by
  cases i <;> simp only [guicppGetInjectHandler] at h <;> split_ifs at h <;>
    simp_all

theorem guicppGetInjectHandler_missingDefaultType {i : InjectType} {s : ObjType}
    (h : guicppGetInjectHandler i s = some .missingDefaultType) :
    i = .normalInject ∧ s.isInternal = false ∧ s.isClassOrUnion = false := by
  cases i <;> simp only [guicppGetInjectHandler] at h <;> split_ifs at h <;>
    simp_all

@[simp] theorem LocalContext.findEntry_empty (tid : LabelHelper) :
    LocalContext.empty.findEntry tid = none := rfl

theorem getBindId_eq {a : Annotations} {t : CType}
    (ha : a.injectTypeAt .normalInject = .normalInject) (ht : t.typeSpecifier.isInternal = false) :
    getBindId a t = .ok (normalInjectBindId a t.typeSpecifier) := by
  simp only [getBindId, guicppGetInjectHandler, ha, ht, Bool.false_eq_true, if_false]
  cases t.typeSpecifier.isClassOrUnion <;> rfl

theorem getFactoryArgsBindId_eq {p : ParamType}
    (hp : p.annotations.injectTypeAt .assisted = .assisted)
    (ht : p.actualType.typeSpecifier.isInternal = false) :
    getFactoryArgsBindId p = .ok (assistedInjectBindId p.annotations p.actualType.typeSpecifier) := by
  simp [getFactoryArgsBindId, guicppGetInjectHandler, hp, ht, InjectHandler.getBindId]

/-- The binder and every lookup agree on keys. A binding of `T` under annotations
`A` is found by the lookup of `NormalInjectHandler` or `MissingDefaultTypeHandler`
for `A'`, `T'` exactly when labels and type specifiers agree, whatever the
category and constness; a factory parameter `P` is found by the lookup of
`AssistedInjectHandler` for `B`, `U` under the same condition; and no factory
argument id is a bind id. -/
theorem bindId_agreement {A A' B : Annotations} {T T' U : CType} {P : ParamType}
    (hA : A.injectTypeAt .normalInject = .normalInject) (hT : T.typeSpecifier.isInternal = false)
    (hA' : A'.injectTypeAt .normalInject = .normalInject)
    (hT' : T'.typeSpecifier.isInternal = false)
    (hB : B.injectTypeAt .normalInject = .assisted) (hU : U.typeSpecifier.isInternal = false)
    (hP : P.annotations.injectTypeAt .assisted = .assisted)
    (hPT : P.actualType.typeSpecifier.isInternal = false) :
    (getBindId A T = getBindId A' T' ↔
      A.labelAt = A'.labelAt ∧ T.typeSpecifier = T'.typeSpecifier) ∧
    (getBindId A T = .ok (normalInjectBindId A' T'.typeSpecifier) ↔
      A.labelAt = A'.labelAt ∧ T.typeSpecifier = T'.typeSpecifier) ∧
    (guicppGetInjectHandler (B.injectTypeAt .normalInject) U.typeSpecifier = some .assistedInject ∧
      (getFactoryArgsBindId P = .ok (assistedInjectBindId B U.typeSpecifier) ↔
        P.annotations.labelAt = B.labelAt ∧ P.actualType.typeSpecifier = U.typeSpecifier)) ∧
    getFactoryArgsBindId P ≠ getBindId A T := by
  rw [getBindId_eq hA hT, getBindId_eq hA' hT', getFactoryArgsBindId_eq hP hPT]
  refine ⟨?_, ?_, ⟨by simp [guicppGetInjectHandler, hB, hU], ?_⟩, ?_⟩ <;>
    simp [normalInjectBindId, assistedInjectBindId]

theorem bindId_agreement_labelled :
    let L := labelAnnotations (.user 1)
    let T : CType := .object (.pointer (.named (.userClass 0) .plain) .plain)
    let T' : CType := .reference (.named (.userClass 0) .const)
    let B : Annotations := ⟨[.injectType .assisted, .label (.user 1)], by decide⟩
    let P : ParamType := ⟨⟨[.label (.user 1)], by decide⟩, .object (.named (.userClass 0) .const)⟩
    (L.injectTypeAt .normalInject = .normalInject ∧ T.typeSpecifier.isInternal = false ∧
      L.injectTypeAt .normalInject = .normalInject ∧ T'.typeSpecifier.isInternal = false ∧
      B.injectTypeAt .normalInject = .assisted ∧ T.typeSpecifier.isInternal = false ∧
      P.annotations.injectTypeAt .assisted = .assisted ∧
      P.actualType.typeSpecifier.isInternal = false) ∧
    ((getBindId L T = getBindId L T' ↔
      L.labelAt = L.labelAt ∧ T.typeSpecifier = T'.typeSpecifier) ∧
    (getBindId L T = .ok (normalInjectBindId L T'.typeSpecifier) ↔
      L.labelAt = L.labelAt ∧ T.typeSpecifier = T'.typeSpecifier) ∧
    (guicppGetInjectHandler (B.injectTypeAt .normalInject) T.typeSpecifier = some .assistedInject ∧
      (getFactoryArgsBindId P = .ok (assistedInjectBindId B T.typeSpecifier) ↔
        P.annotations.labelAt = B.labelAt ∧ P.actualType.typeSpecifier = T.typeSpecifier)) ∧
    getFactoryArgsBindId P ≠ getBindId L T) :=
  ⟨by decide, bindId_agreement (by decide) (by decide) (by decide) (by decide) (by decide) (by decide)
    (by decide) (by decide)⟩

end Guicpp.InjectUtil
