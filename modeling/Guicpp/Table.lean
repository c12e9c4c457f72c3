import Mathlib.Logic.Function.Basic
import Mathlib.Data.List.Nodup

namespace Guicpp.Table

variable {κ ε : Type}

/-- `BindTable`: `bind_map_` answers lookups, `cleanup_list_` owns every entry in
the order it was handed over. -/
structure BindTable (κ ε : Type) where
  bindMap : κ → Option ε
  cleanupList : List ε

namespace BindTable

def empty : BindTable κ ε := ⟨fun _ => none, []⟩

/-- `BindTable::FindEntry`. -/
def findEntry (t : BindTable κ ε) (bindId : κ) : Option ε := t.bindMap bindId

/-- `BindTable::AddToCleanupList`. -/
def addToCleanupList (t : BindTable κ ε) (entry : ε) : BindTable κ ε :=
  { t with cleanupList := t.cleanupList ++ [entry] }

/-- `bind_map_.insert(make_pair(bindId, entry))`, with `.second`: whether the
key was still free. -/
def insert [DecidableEq κ] (t : BindTable κ ε) (bindId : κ) (entry : ε) : Bool × BindTable κ ε :=
  match t.bindMap bindId with
  | some _ => (false, t)
  | none => (true, { t with bindMap := Function.update t.bindMap bindId (some entry) })

/-- `BindTable::AddEntry`: the entry is owned whatever happens, and enters the map
only when `bindId` is still free. -/
def addEntry [DecidableEq κ] (t : BindTable κ ε) (bindId : κ) (entry : ε) : Bool × BindTable κ ε :=
  (t.addToCleanupList entry).insert bindId entry

/-- `~BindTable`: the entries in the order they are deleted. -/
def destroy (t : BindTable κ ε) : List ε := t.cleanupList.reverse

@[simp] theorem findEntry_empty (k : κ) : (empty : BindTable κ ε).findEntry k = none := rfl

@[simp] theorem cleanupList_empty : (empty : BindTable κ ε).cleanupList = [] := rfl

@[simp] theorem findEntry_addToCleanupList (t : BindTable κ ε) (e : ε) (k : κ) :
    (t.addToCleanupList e).findEntry k = t.findEntry k := rfl

@[simp] theorem cleanupList_addToCleanupList (t : BindTable κ ε) (e : ε) :
    (t.addToCleanupList e).cleanupList = t.cleanupList ++ [e] := rfl

section Insert

variable [DecidableEq κ]

@[simp] theorem insert_fst (t : BindTable κ ε) (k : κ) (e : ε) :
    (t.insert k e).1 = (t.findEntry k).isNone := by
  unfold insert findEntry
  split <;> simp_all

@[simp] theorem cleanupList_insert (t : BindTable κ ε) (k : κ) (e : ε) :
    (t.insert k e).2.cleanupList = t.cleanupList := by
  unfold insert
  split <;> rfl

@[simp] theorem findEntry_insert (t : BindTable κ ε) (k : κ) (e : ε) (k' : κ) :
    (t.insert k e).2.findEntry k' = (t.findEntry k').or (if k' = k then some e else none) := by
  unfold insert findEntry
  split
  · by_cases hk : k' = k
    · subst hk; simp_all
    · simp [hk]
  · by_cases hk : k' = k
    · subst hk; simp_all
    · simp [hk, Function.update_noteq hk]

end Insert

end BindTable

/-- One call a client makes on a `BindTable`. -/
inductive Call (κ ε : Type) where
  | addEntry (bindId : κ) (entry : ε)
  | addToCleanupList (entry : ε)

def Call.entry : Call κ ε → ε
  | .addEntry _ e | .addToCleanupList e => e

def Call.binding? : Call κ ε → Option (κ × ε)
  | .addEntry k e => some (k, e)
  | .addToCleanupList _ => none

section Calls

variable [DecidableEq κ]

def Call.apply (t : BindTable κ ε) : Call κ ε → BindTable κ ε
  | .addEntry k e => (t.addEntry k e).2
  | .addToCleanupList e => t.addToCleanupList e

/-- The table after a sequence of calls on a new one. -/
def run (calls : List (Call κ ε)) : BindTable κ ε := calls.foldl Call.apply .empty

theorem cleanupList_foldl (calls : List (Call κ ε)) (t : BindTable κ ε) :
    (calls.foldl Call.apply t).cleanupList = t.cleanupList ++ calls.map Call.entry := by
  induction calls generalizing t with
  | nil => simp
  | cons c calls ih =>
    cases c <;> simp [ih, Call.apply, Call.entry, BindTable.addEntry]

@[simp] theorem run_cleanupList (calls : List (Call κ ε)) :
    (run calls).cleanupList = calls.map Call.entry := by
  simp [run, cleanupList_foldl]

theorem findEntry_foldl (calls : List (Call κ ε)) (t : BindTable κ ε) (k : κ) :
    (calls.foldl Call.apply t).findEntry k =
      (t.findEntry k).or ((calls.filterMap Call.binding?).lookup k) := by
  induction calls generalizing t with
  | nil => simp
  | cons c calls ih =>
    cases c with
    | addEntry k' e =>
      simp only [List.foldl_cons, Call.apply, ih, BindTable.addEntry, BindTable.findEntry_insert,
        BindTable.findEntry_addToCleanupList, List.filterMap_cons, Call.binding?, List.lookup_cons]
      by_cases hk : k = k'
      · simp [hk, Option.or_assoc]
      · simp [hk, beq_false_of_ne hk, Option.or_none]
    | addToCleanupList e => simp [ih, Call.apply, Call.binding?]

theorem run_findEntry (calls : List (Call κ ε)) (k : κ) :
    (run calls).findEntry k = (calls.filterMap Call.binding?).lookup k := by
  simp [run, findEntry_foldl]

theorem lookup_of_mem {l : List (κ × ε)} (hnodup : (l.map Prod.fst).Nodup) {k : κ} {e : ε}
    (hk : (k, e) ∈ l) : l.lookup k = some e := by
  obtain ⟨l₁, l₂, rfl⟩ := List.append_of_mem hk
  have hk₁ : k ∉ l₁.map Prod.fst := by
    simp only [List.map_append, List.map_cons, List.nodup_append] at hnodup
    exact fun h => hnodup.2.2 h (List.mem_cons_self _ _)
  refine List.lookup_eq_some_iff.2 ⟨l₁, l₂, rfl, fun p hp => ?_⟩
  simpa [bne_iff_ne] using fun h => hk₁ (List.mem_map.2 ⟨p, hp, h.symm⟩)

theorem lookup_perm {l l' : List (κ × ε)} (hp : l.Perm l') (hnodup : (l.map Prod.fst).Nodup)
    (k : κ) : l.lookup k = l'.lookup k := by
  cases h : l.lookup k with
  | none =>
    rw [List.lookup_eq_none_iff] at h
    exact (List.lookup_eq_none_iff.2 fun p hp' => h p (hp.mem_iff.2 hp')).symm
  | some e =>
    obtain ⟨l₁, l₂, rfl, -⟩ := List.lookup_eq_some_iff.1 h
    exact (lookup_of_mem ((hp.map Prod.fst).nodup_iff.1 hnodup) (hp.subset (by simp))).symm

theorem run_findEntry_of_mem {calls : List (Call κ ε)}
    (hnodup : ((calls.filterMap Call.binding?).map Prod.fst).Nodup) {k : κ} {e : ε}
    (hk : Call.addEntry k e ∈ calls) : (run calls).findEntry k = some e := by
  rw [run_findEntry]
  exact lookup_of_mem hnodup (List.mem_filterMap.2 ⟨_, hk, rfl⟩)

theorem mem_of_run_findEntry {calls : List (Call κ ε)} {k : κ} {e : ε}
    (h : (run calls).findEntry k = some e) : Call.addEntry k e ∈ calls := by
  rw [run_findEntry, List.lookup_eq_some_iff] at h
  obtain ⟨l₁, l₂, hl, -⟩ := h
  obtain ⟨c, hc, hb⟩ :=
    List.mem_filterMap.1 (hl ▸ List.mem_append_right l₁ (List.mem_cons_self (k, e) l₂))
  cases c with
  | addEntry => cases hb; exact hc
  | addToCleanupList => cases hb

/-- Teardown deletes every entry handed to the table, accepted, rejected or
cleanup-only, each once, last handed over first. -/
theorem destroy_run (calls : List (Call κ ε)) (hdistinct : (calls.map Call.entry).Nodup) :
    (run calls).destroy = (calls.map Call.entry).reverse ∧ (run calls).destroy.Nodup := by
  have h : (run calls).destroy = (calls.map Call.entry).reverse := by
    simp [BindTable.destroy, run, cleanupList_foldl]
  exact ⟨h, h ▸ List.nodup_reverse.mpr hdistinct⟩

theorem destroy_run_rejected :
    (([.addEntry 1 10, .addEntry 1 11, .addToCleanupList 12] : List (Call Nat Nat)).map
        Call.entry).Nodup ∧
      ((run ([.addEntry 1 10, .addEntry 1 11, .addToCleanupList 12] : List (Call Nat Nat))).destroy =
        ([10, 11, 12] : List Nat).reverse ∧
      (run ([.addEntry 1 10, .addEntry 1 11, .addToCleanupList 12] : List (Call Nat Nat))).destroy.Nodup) :=
  ⟨by decide, destroy_run _ (by decide)⟩

end Calls

end Guicpp.Table
