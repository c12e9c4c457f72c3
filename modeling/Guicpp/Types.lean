import Mathlib.Data.List.Basic

namespace Guicpp.Types

/-- The cv-qualifiers written on one level of a type. -/
structure Qual where
  isConst : Bool
  isVolatile : Bool
  deriving DecidableEq, Repr

def Qual.plain : Qual := ⟨false, false⟩

def Qual.const : Qual := ⟨true, false⟩

def Qual.volatile : Qual := ⟨false, true⟩

/-- The nominal types a type specifier can name. `Injector` and the `Factory`
interfaces derive from `InternalType`; `ScopeSetupContext` is the framework's own
injectable class. -/
inductive NamedType where
  | primitive (id : Nat)
  | userClass (id : Nat)
  | scopeSetupContext
  | injector
  | factory (id : Nat)
  deriving DecidableEq, Repr

/-- Object types: a named type or a pointer, each level with its own cv. -/
inductive ObjType where
  | named (n : NamedType) (q : Qual)
  | pointer (pointee : ObjType) (q : Qual)
  deriving DecidableEq, Repr

/-- A C++ type as a template argument sees it: an object type or a reference to
one (there are no pointers to references and no references to references). -/
inductive CType where
  | object (t : ObjType)
  | reference (t : ObjType)
  deriving DecidableEq, Repr

inductive TypesCategory where
  | isPointer
  | isReference
  | isValue
  deriving DecidableEq, Repr

def ObjType.qual : ObjType → Qual
  | .named _ q | .pointer _ q => q

def ObjType.withQual : ObjType → Qual → ObjType
  | .named n _, q => .named n q
  | .pointer p _, q => .pointer p q

/-- `is_class_or_union<TypeSpecifier>`: false for every pointer and primitive type. -/
def ObjType.isClassOrUnion : ObjType → Bool
  | .named (.primitive _) _ => false
  | .named _ _ => true
  | .pointer _ _ => false

/-- `is_convertible<TypeSpecifier*, InternalType*>`. -/
def ObjType.isInternal : ObjType → Bool
  | .named .injector _ | .named (.factory _) _ => true
  | _ => false

/-- `TypeInfo<T>::Category`. -/
def CType.category : CType → TypesCategory
  | .object (.pointer _ _) => .isPointer
  | .reference _ => .isReference
  | .object (.named _ _) => .isValue

/-- `TypeInfo<T>::ReferredType`: the pointee, the referee, or `T` itself. -/
def CType.referredType : CType → ObjType
  | .object (.pointer p _) => p
  | .reference r => r
  | .object t@(.named _ _) => t

/-- `TypeInfo<T>::IsConst`, computed as `is_same<ReferredType*, const ReferredType*>`. -/
def CType.isConst (t : CType) : Bool := t.referredType.qual.isConst

/-- `TypeInfo<T>::TypeSpecifier`: `remove_cv<ReferredType>`. -/
def CType.typeSpecifier (t : CType) : ObjType := t.referredType.withQual .plain

/-- `remove_cv<T>`, which leaves a reference type alone. -/
def CType.removeCv : CType → CType
  | .object t => .object (t.withQual .plain)
  | .reference t => .reference t

@[simp] theorem ObjType.withQual_withQual (t : ObjType) (q q' : Qual) :
    (t.withQual q).withQual q' = t.withQual q' := by cases t <;> rfl

@[simp] theorem ObjType.qual_withQual (t : ObjType) (q : Qual) : (t.withQual q).qual = q := by
  cases t <;> rfl

@[simp] theorem ObjType.withQual_qual (t : ObjType) : t.withQual t.qual = t := by cases t <;> rfl

@[simp] theorem ObjType.isClassOrUnion_withQual (t : ObjType) (q : Qual) :
    (t.withQual q).isClassOrUnion = t.isClassOrUnion := by
  cases t with
  | named n _ => cases n <;> rfl
  | pointer => rfl

@[simp] theorem ObjType.isInternal_withQual (t : ObjType) (q : Qual) :
    (t.withQual q).isInternal = t.isInternal := by
  cases t with
  | named n _ => cases n <;> rfl
  | pointer => rfl

theorem ObjType.withQual_of_qual {t : ObjType} {q : Qual} (h : t.qual = q) : t.withQual q = t :=
  h ▸ t.withQual_qual

@[simp] theorem CType.typeSpecifier_qual (t : CType) : t.typeSpecifier.qual = .plain := by
  simp [typeSpecifier]

@[simp] theorem CType.typeSpecifier_removeCv (t : CType) :
    t.removeCv.typeSpecifier = t.typeSpecifier := by
  rcases t with (_ | _) | _ <;> rfl

@[simp] theorem CType.removeCv_removeCv (t : CType) : t.removeCv.removeCv = t.removeCv := by
  cases t <;> simp [removeCv]

end Guicpp.Types
