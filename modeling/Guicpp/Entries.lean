import Guicpp.At

namespace Guicpp.Entries

open Guicpp.Types Guicpp.At

/-- What resolution hands back. `indeterminate` is the value of a call to a
value-returning function whose control flows off its end. -/
inductive Val where
  | null
  | instance (ptr : Nat)
  | value (v : Nat)
  | constructed (cls : NamedType) (args : List Val)
  | provided (provider : Nat) (args : List Val)
  | injector
  | factory (annotations : Annotations) (id : Nat)
  | indeterminate

def Val.isNull : Val → Bool
  | .null => true
  | _ => false

/-- What an entry's destructor does with its pointer: `DeletePointer`, `DoNothing`, or a
user's functor. -/
inductive CleanupAction where
  | deletePointer
  | doNothing
  | user (id : Nat)
  deriving DecidableEq, Repr

/-- The functors `AddCleanupAction` takes, called with no argument. -/
inductive CleanupFunctor where
  | invokeCleanup (context : Nat)
  | user (id : Nat)
  deriving DecidableEq, Repr

/-- A user's `AbstractProvider<R (params...)>`, or a `LazySingletonProvider<T>` with its
`context_`. -/
inductive Provider where
  | user (id : Nat) (params : List ParamType)
  | lazySingleton (id : Nat) (t : ObjType) (context : Nat)

inductive BindType where
  | bindToCtor
  | bindToType
  | bindToInstance
  | bindToValue
  | bindToPointed
  | bindToProvider
  | bindFactoryArgument
  | invalidBind
  deriving DecidableEq, Repr

/-- Bind table entries, one constructor per `TableEntryBase` subclass. -/
inductive Entry where
  | bindToTypeEntry (source : CType) (destAnnotations : Annotations) (destType : CType)
  | pointerTableEntry (t : CType) (ptr : Nat) (cleanupAction : CleanupAction)
  | valueTableEntry (t : CType) (value : Nat)
  | referenceTableEntry (t : CType) (ptr : Nat) (cleanupAction : CleanupAction)
  | bindToProviderEntry (t : CType) (provider : Provider) (cleanupAction : CleanupAction)
  | bindToFunction (cls : NamedType) (ctor : List ParamType)
  | factoryArgumentEntry (t : CType) (object : Val)
  | invalidEntry
  | cleanupEntry (cleanupAction : CleanupFunctor)

def Entry.requests : Entry → List (Annotations × CType)
  | .bindToTypeEntry _ a d => [(a, d)]
  | .bindToFunction _ ctor | .bindToProviderEntry _ (.user _ ctor) _ =>
    ctor.map fun p => (p.annotations, p.actualType)
  | _ => []

/-- The `T` of `TableEntry<T>`; `InvalidEntry` and its subclass `CleanupEntry`
have none. -/
def Entry.tableEntryType : Entry → Option CType
  | .bindToTypeEntry s _ _ => some s
  | .pointerTableEntry t _ _ | .valueTableEntry t _ | .referenceTableEntry t _ _
  | .bindToProviderEntry t _ _ | .factoryArgumentEntry t _ => some t
  | .bindToFunction cls _ => some (.object (.pointer (.named cls .plain) .plain))
  | .invalidEntry | .cleanupEntry _ => none

def Entry.getBindType : Entry → BindType
  | .bindToTypeEntry .. => .bindToType
  | .pointerTableEntry .. => .bindToInstance
  | .valueTableEntry .. => .bindToValue
  | .referenceTableEntry .. => .bindToPointed
  | .bindToProviderEntry .. => .bindToProvider
  | .bindToFunction .. => .bindToCtor
  | .factoryArgumentEntry .. => .bindFactoryArgument
  | .invalidEntry | .cleanupEntry _ => .invalidBind

/-- How the process stops: `GUICPP_LOG_(FATAL)`, a false `GUICPP_DCHECK_`, an `Error<T>::...`
instantiation (the program does not compile), a write past the end of `cleanup_list_`, or
the model's bound on recursion running out. -/
inductive Failure where
  | fatal (message : String)
  | dcheck (condition : String)
  | compileError (message : String)
  | outOfBounds
  | outOfFuel
  deriving DecidableEq, Repr

/-- `GetCategoryString`. -/
def getCategoryString : TypesCategory → Bool → String
  | .isValue, _ => "value of type "
  | .isPointer, true => "const pointer to "
  | .isPointer, false => "pointer to "
  | .isReference, true => "const reference to "
  | .isReference, false => "reference to "

/-- `TableEntryReader<T>::CategoryString<P>()`. -/
def categoryString (p : CType) : String := getCategoryString p.category p.isConst

/-- The `BoundType` the switch of `TableEntryReader<T>::Get` spells from the
entry's category and constness and from `T`'s type specifier `s`. -/
def boundType (category : TypesCategory) (isConst : Bool) (s : ObjType) : CType :=
  match category, isConst with
  | .isValue, _ => .object s
  | .isPointer, true => .object (.pointer (s.withQual .const) .plain)
  | .isPointer, false => .object (.pointer s .plain)
  | .isReference, true => .reference (s.withQual .const)
  | .isReference, false => .reference s

/-- Overload resolution of `TableEntryReader<T>::GetAndCast(TypeKey2<T, BoundType>)`:
the type `GetBoundType` down_casts the entry to, or the error handler's message. -/
def getAndCast (t bound : CType) : Except String CType :=
  if bound = t then .ok t
  else if t = .object (.pointer (t.typeSpecifier.withQual .const) .plain) ∧
      bound = .object (.pointer t.typeSpecifier .plain) then
    .ok (.object (.pointer t.typeSpecifier .plain))
  else if t = .reference (t.typeSpecifier.withQual .const) ∧ bound = .reference t.typeSpecifier then
    .ok (.reference t.typeSpecifier)
  else if t = .object t.typeSpecifier ∧ bound = .reference t.typeSpecifier then
    .ok (.reference t.typeSpecifier)
  else if t = .object t.typeSpecifier ∧ bound = .reference (t.typeSpecifier.withQual .const) then
    .ok (.reference t.typeSpecifier)
  else .error ("Can not convert BoundType[" ++ categoryString bound ++ "T] to RequestedType[" ++
    categoryString t ++ "T]")

def typeIdCheck : String := "TypeIdProvider<TypeSpecifier>::GetTypeId() == entry_base->GetTypeId()"

/-- `TableEntryReader<T>::Get` up to the entry's own `Get`: the checks it makes and
the `TableEntry<BoundType>` it down_casts the entry to. -/
def tableEntryReaderGet (t : CType) (e : Entry) : Except Failure CType :=
  if e.getBindType = .invalidBind then .error (.fatal "This type can not be instantiated, missing binding")
  else match e.tableEntryType with
  | none => .error (.fatal "This type can not be instantiated, missing binding")
  | some x =>
    if t.typeSpecifier ≠ x.typeSpecifier then .error (.dcheck typeIdCheck)
    else match getAndCast t (boundType x.category x.isConst t.typeSpecifier) with
      | .ok b => .ok b
      | .error message => .error (.fatal message)

theorem tableEntryReaderGet_error {t : CType} {e : Entry} {f : Failure}
    (h : tableEntryReaderGet t e = .error f) : (∃ m, f = .fatal m) ∨ f = .dcheck typeIdCheck := by
  unfold tableEntryReaderGet at h
  split_ifs at h
  · cases h
    exact .inl ⟨_, rfl⟩
  · split at h
    · cases h
      exact .inl ⟨_, rfl⟩
    · split_ifs at h
      · cases h
        exact .inr rfl
      · split at h
        · cases h
        · cases h
          exact .inl ⟨_, rfl⟩

/-- The four conversions `TableEntryReader` documents, from a bound type `x` to a
requested type `r` of the same specifier. -/
def Widening (r x : CType) : Prop :=
  (r = .object (.pointer (r.typeSpecifier.withQual .const) .plain) ∧
      x = .object (.pointer r.typeSpecifier .plain)) ∨
    (r = .reference (r.typeSpecifier.withQual .const) ∧ x = .reference r.typeSpecifier) ∨
    (r = .object r.typeSpecifier ∧ x = .reference r.typeSpecifier) ∨
    (r = .object r.typeSpecifier ∧ x = .reference (r.typeSpecifier.withQual .const))

theorem getBindType_ne_invalidBind {e : Entry} {x : CType} (he : e.tableEntryType = some x) :
    e.getBindType ≠ .invalidBind := by
  cases e <;> simp_all [Entry.tableEntryType, Entry.getBindType]

theorem tableEntryReaderGet_eq {e : Entry} {x : CType} (he : e.tableEntryType = some x)
    {t : CType} (hs : t.typeSpecifier = x.typeSpecifier) :
    tableEntryReaderGet t e =
      (getAndCast t (boundType x.category x.isConst t.typeSpecifier)).mapError .fatal := by
  simp only [tableEntryReaderGet, getBindType_ne_invalidBind he, he, hs, if_false, ne_eq,
    not_true_eq_false]
  split <;> simp_all [Except.mapError]

theorem boundType_self {x : CType} (hx : x.removeCv = x)
    (hv : x.referredType.qual.isVolatile = false) :
    boundType x.category x.isConst x.typeSpecifier = x := by
  rcases x with (⟨n, q⟩ | ⟨p, q⟩) | p
  · simp_all [CType.removeCv, ObjType.withQual, boundType, CType.category, CType.typeSpecifier,
      CType.referredType]
  all_goals
    rcases hp : p.qual with ⟨c, v⟩
    obtain rfl : v = false := by simpa [CType.referredType, hp] using hv
  · obtain rfl : q = .plain := by simpa [CType.removeCv, ObjType.withQual] using hx.symm
    cases c <;> simp [boundType, CType.category, CType.isConst, CType.typeSpecifier,
      CType.referredType, hp, Qual.plain, Qual.const, ObjType.withQual_of_qual hp]
  · cases c <;> simp [boundType, CType.category, CType.isConst, CType.typeSpecifier,
      CType.referredType, hp, Qual.plain, Qual.const, ObjType.withQual_of_qual hp]

theorem getAndCast_ok_iff (r x : CType) : (∃ b, getAndCast r x = .ok b) ↔ r = x ∨ Widening r x := by
  unfold getAndCast Widening
  split_ifs with h₁ h₂ h₃ h₄ h₅
  · exact iff_of_true ⟨_, rfl⟩ (.inl h₁.symm)
  · exact iff_of_true ⟨_, rfl⟩ (.inr (.inl h₂))
  · exact iff_of_true ⟨_, rfl⟩ (.inr (.inr (.inl h₃)))
  · exact iff_of_true ⟨_, rfl⟩ (.inr (.inr (.inr (.inl h₄))))
  · exact iff_of_true ⟨_, rfl⟩ (.inr (.inr (.inr (.inr h₅))))
  · refine iff_of_false (fun ⟨_, h⟩ => nomatch h) ?_
    rintro (h | h | h | h | h)
    exacts [h₁ h.symm, h₂ h, h₃ h, h₄ h, h₅ h]

theorem getAndCast_ok {r x b : CType} (h : getAndCast r x = .ok b) :
    b = x ∨ (r = .object r.typeSpecifier ∧ x = .reference (r.typeSpecifier.withQual .const) ∧
      b = .reference r.typeSpecifier) := by
  unfold getAndCast at h
  split_ifs at h with h₁ h₂ h₃ h₄ h₅ <;> cases h
  exacts [.inl h₁.symm, .inl h₂.2.symm, .inl h₃.2.symm, .inl h₄.2.symm, .inr ⟨h₅.1, h₅.2, rfl⟩]

theorem mapError_eq_ok {α : Type} {x : Except String α} {b : α} :
    x.mapError Failure.fatal = .ok b ↔ x = .ok b := by
  cases x <;> simp [Except.mapError]

section Reader

variable {r x : CType} {e : Entry} (he : e.tableEntryType = some x) (hx : x.removeCv = x)
  (hv : x.referredType.qual.isVolatile = false) (hs : r.typeSpecifier = x.typeSpecifier)
include he hx hv hs

theorem tableEntryReaderGet_eq_getAndCast :
    tableEntryReaderGet r e = (getAndCast r x).mapError .fatal := by
  rw [tableEntryReaderGet_eq he hs, hs, boundType_self hx hv]

/-- Away from volatile, `TableEntryReader<R>::Get` on a `TableEntry<X>` returns
exactly when `R = X` or `(R, X)` is one of the four documented widenings. -/
theorem tableEntryReaderGet_ok_iff :
    (∃ b, tableEntryReaderGet r e = .ok b) ↔ r = x ∨ Widening r x := by
  simp only [tableEntryReaderGet_eq_getAndCast he hx hv hs, mapError_eq_ok, getAndCast_ok_iff]

/-- Whenever it returns, the reader down_casts to `TableEntry<X>`, except when it
reads a const reference as a value: then it down_casts to `TableEntry<S&>`. -/
theorem tableEntryReaderGet_downcast {b : CType} (h : tableEntryReaderGet r e = .ok b) :
    b = x ∨ (r = .object r.typeSpecifier ∧ x = .reference (r.typeSpecifier.withQual .const) ∧
      b = .reference r.typeSpecifier) := by
  rw [tableEntryReaderGet_eq_getAndCast he hx hv hs, mapError_eq_ok] at h
  exact getAndCast_ok h

end Reader

theorem tableEntryReaderGet_ok_iff_const_pointer :
    (Entry.pointerTableEntry (.object (.pointer (.named (.userClass 0) .plain) .plain)) 0
        .doNothing).tableEntryType = some (.object (.pointer (.named (.userClass 0) .plain) .plain)) ∧
    CType.removeCv (.object (.pointer (.named (.userClass 0) .plain) .plain)) =
      .object (.pointer (.named (.userClass 0) .plain) .plain) ∧
    (CType.referredType (.object (.pointer (.named (.userClass 0) .plain) .plain))).qual.isVolatile =
      false ∧
    CType.typeSpecifier (.object (.pointer (.named (.userClass 0) .const) .plain)) =
      CType.typeSpecifier (.object (.pointer (.named (.userClass 0) .plain) .plain)) ∧
    ((∃ b, tableEntryReaderGet (.object (.pointer (.named (.userClass 0) .const) .plain))
        (.pointerTableEntry (.object (.pointer (.named (.userClass 0) .plain) .plain)) 0
          .doNothing) = .ok b) ↔
      CType.object (.pointer (.named (.userClass 0) .const) .plain) =
        .object (.pointer (.named (.userClass 0) .plain) .plain) ∨
      Widening (.object (.pointer (.named (.userClass 0) .const) .plain))
        (.object (.pointer (.named (.userClass 0) .plain) .plain))) :=
  ⟨rfl, rfl, rfl, rfl, tableEntryReaderGet_ok_iff rfl rfl rfl rfl⟩

theorem tableEntryReaderGet_downcast_const_ref :
    (Entry.referenceTableEntry (.reference (.named (.userClass 0) .const)) 0 .doNothing).tableEntryType =
      some (.reference (.named (.userClass 0) .const)) ∧
    CType.removeCv (.reference (.named (.userClass 0) .const)) = .reference (.named (.userClass 0) .const) ∧
    (CType.referredType (.reference (.named (.userClass 0) .const))).qual.isVolatile = false ∧
    CType.typeSpecifier (.object (.named (.userClass 0) .plain)) =
      CType.typeSpecifier (.reference (.named (.userClass 0) .const)) ∧
    tableEntryReaderGet (.object (.named (.userClass 0) .plain))
      (.referenceTableEntry (.reference (.named (.userClass 0) .const)) 0 .doNothing) =
        .ok (.reference (.named (.userClass 0) .plain)) ∧
    (CType.reference (.named (.userClass 0) .plain) = .reference (.named (.userClass 0) .const) ∨
      (CType.object (.named (.userClass 0) .plain) =
          .object (CType.object (.named (.userClass 0) .plain)).typeSpecifier ∧
        CType.reference (.named (.userClass 0) .const) =
          .reference ((CType.object (.named (.userClass 0) .plain)).typeSpecifier.withQual .const) ∧
        CType.reference (.named (.userClass 0) .plain) =
          .reference (CType.object (.named (.userClass 0) .plain)).typeSpecifier)) :=
  ⟨rfl, rfl, rfl, rfl, rfl, tableEntryReaderGet_downcast (r := .object (.named (.userClass 0) .plain))
    (x := .reference (.named (.userClass 0) .const))
    (e := .referenceTableEntry (.reference (.named (.userClass 0) .const)) 0 .doNothing)
    rfl rfl rfl rfl rfl⟩

/-- The two places where the reader departs from the entry's own type: a
`TableEntry<const S&>` read as `S` is down_cast to `TableEntry<S&>`, and a
`TableEntry<volatile S*>` cannot be read as `volatile S*` at all. -/
theorem tableEntryReaderGet_misreads :
    tableEntryReaderGet (.object (.named (.userClass 0) .plain))
        (.referenceTableEntry (.reference (.named (.userClass 0) .const)) 0 .doNothing) =
      .ok (.reference (.named (.userClass 0) .plain)) ∧
    tableEntryReaderGet (.object (.pointer (.named (.userClass 0) .volatile) .plain))
        (.pointerTableEntry (.object (.pointer (.named (.userClass 0) .volatile) .plain)) 0
          .doNothing) =
      .error (.fatal "Can not convert BoundType[pointer to T] to RequestedType[pointer to T]") :=
  ⟨rfl, rfl⟩

end Guicpp.Entries
