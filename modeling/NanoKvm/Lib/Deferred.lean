import Mathlib.Data.List.Basic
import Mathlib.Logic.Function.Basic
import Mathlib.Tactic.Common

/-!
# Batches of sets and frees on a keyed store

A batch sets some keys, each from the value the key had and a change to it, and
then frees some.  A set may have no result.  Where no key is set after a batch
that freed it, all the sets may go before all the frees.
-/

set_option autoImplicit false

namespace NanoKvm.Lib

structure Batch (Key Change : Type) where
  set : List (Key × Change)
  free : List Key
  deriving DecidableEq, Repr

abbrev Store (Key Value : Type) := Key → Option Value

section Batches
variable {Key Change Value : Type} [DecidableEq Key]
  (upload : Option Value → Change → Option Value)

def put (store : Store Key Value) (entry : Key × Change) : Option (Store Key Value) :=
  (upload (store entry.1) entry.2).map fun value => Function.update store entry.1 (some value)

def putAll (store : Store Key Value) (entries : List (Key × Change)) : Option (Store Key Value) :=
  entries.foldlM (put upload) store

def remove (store : Store Key Value) (key : Key) : Store Key Value :=
  Function.update store key none

def removeAll (store : Store Key Value) (keys : List Key) : Store Key Value :=
  keys.foldl remove store

def applyBatch (store : Store Key Value) (batch : Batch Key Change) : Option (Store Key Value) :=
  (putAll upload store batch.set).map (removeAll · batch.free)

/-- One batch after the other. -/
def applyBatches (store : Store Key Value) (batches : List (Batch Key Change)) :
    Option (Store Key Value) :=
  batches.foldlM (applyBatch upload) store

/-- No key is set again after a batch freed it. -/
def NoReuse (batches : List (Batch Key Change)) : Prop :=
  batches.Pairwise fun older newer => ∀ key ∈ older.free, key ∉ newer.set.map Prod.fst

instance (batches : List (Batch Key Change)) : Decidable (NoReuse batches) := by
  unfold NoReuse
  infer_instance

variable {upload} {store : Store Key Value}

/-! ## A free and a set of another key -/

theorem put_remove {key : Key} {entry : Key × Change} (other : key ≠ entry.1) :
    put upload (remove store key) entry = (put upload store entry).map (remove · key) := by
  have kept : remove store key entry.1 = store entry.1 := by
    unfold remove
    exact Function.update_of_ne other.symm _ _
  unfold put
  rw [kept, Option.map_map]
  congr 1
  funext value
  exact Function.update_comm other none (some value) store

theorem putAll_cons (entry : Key × Change) (entries : List (Key × Change)) :
    putAll upload store (entry :: entries) =
      (put upload store entry).bind fun next => putAll upload next entries := List.foldlM_cons

theorem putAll_append (first second : List (Key × Change)) :
    putAll upload store (first ++ second) =
      (putAll upload store first).bind fun next => putAll upload next second :=
  List.foldlM_append

theorem putAll_remove {key : Key} {entries : List (Key × Change)}
    (other : key ∉ entries.map Prod.fst) :
    putAll upload (remove store key) entries =
      (putAll upload store entries).map (remove · key) := by
  induction entries generalizing store with
  | nil => rfl
  | cons entry rest ih =>
      rw [List.map_cons, List.mem_cons, not_or] at other
      rw [putAll_cons, putAll_cons, put_remove other.1]
      cases put upload store entry with
      | none => rfl
      | some next => exact ih other.2

theorem putAll_removeAll {keys : List Key} {entries : List (Key × Change)}
    (other : ∀ key ∈ keys, key ∉ entries.map Prod.fst) :
    putAll upload (removeAll store keys) entries =
      (putAll upload store entries).map (removeAll · keys) := by
  induction keys generalizing store with
  | nil => exact Option.map_id'.symm
  | cons key rest ih =>
      change putAll upload (removeAll (remove store key) rest) entries = _
      rw [ih fun other' member => other other' (List.mem_cons_of_mem _ member),
        putAll_remove (other key List.mem_cons_self), Option.map_map]
      rfl

/-! ## All the sets, then all the frees -/

theorem applyBatches_cons (batch : Batch Key Change) (batches : List (Batch Key Change)) :
    applyBatches upload store (batch :: batches) =
      (applyBatch upload store batch).bind fun next => applyBatches upload next batches :=
  List.foldlM_cons

theorem applyBatches_append (first second : List (Batch Key Change)) :
    applyBatches upload store (first ++ second) =
      (applyBatches upload store first).bind fun next => applyBatches upload next second :=
  List.foldlM_append

theorem applyBatches_deferred {batches : List (Batch Key Change)} (fresh : NoReuse batches) :
    applyBatches upload store batches =
      (putAll upload store (batches.flatMap Batch.set)).map
        (removeAll · (batches.flatMap Batch.free)) := by
  induction batches generalizing store with
  | nil => rfl
  | cons batch rest ih =>
      obtain ⟨first, later⟩ := List.pairwise_cons.mp fresh
      have apart : ∀ key ∈ batch.free, key ∉ (rest.flatMap Batch.set).map Prod.fst := by
        intro key freed member
        obtain ⟨entry, inside, rfl⟩ := List.mem_map.mp member
        obtain ⟨newer, among, sets⟩ := List.mem_flatMap.mp inside
        exact first newer among entry.1 freed (List.mem_map_of_mem sets)
      rw [applyBatches_cons, List.flatMap_cons, List.flatMap_cons, putAll_append]
      unfold applyBatch
      cases putAll upload store batch.set with
      | none => rfl
      | some next =>
          change applyBatches upload (removeAll next batch.free) rest = _
          rw [ih later, putAll_removeAll apart, Option.map_map, Option.bind_some]
          congr 1
          funext after
          exact (List.foldl_append ..).symm

/-! ## Which keys hold a value -/

theorem put_isSome {entry : Key × Change} {next : Store Key Value}
    (done : put upload store entry = some next) (key : Key) :
    (next key).isSome = true ↔ key = entry.1 ∨ (store key).isSome = true := by
  obtain ⟨value, -, rfl⟩ := Option.map_eq_some_iff.mp done
  by_cases same : key = entry.1
  · rw [same, Function.update_self]
    simp
  · rw [Function.update_of_ne same]
    simp [same]

theorem putAll_isSome {entries : List (Key × Change)} {next : Store Key Value}
    (done : putAll upload store entries = some next) (key : Key) :
    (next key).isSome = true ↔ key ∈ entries.map Prod.fst ∨ (store key).isSome = true := by
  induction entries generalizing store with
  | nil =>
      cases done
      simp
  | cons entry rest ih =>
      rw [putAll_cons] at done
      obtain ⟨middle, first, later⟩ := Option.bind_eq_some_iff.mp done
      rw [ih later, put_isSome first, List.map_cons, List.mem_cons]
      tauto

theorem removeAll_isSome {keys : List Key} {key : Key} :
    (removeAll store keys key).isSome = true ↔ key ∉ keys ∧ (store key).isSome = true := by
  induction keys generalizing store with
  | nil => exact (and_iff_right List.not_mem_nil).symm
  | cons head rest ih =>
      change (removeAll (remove store head) rest key).isSome = true ↔ _
      rw [ih, List.mem_cons, not_or]
      by_cases same : key = head
      · simp [remove, same]
      · rw [remove, Function.update_of_ne same]
        tauto

/-- What some batch set and none freed is held. -/
theorem applyBatches_isSome {batches : List (Batch Key Change)} {next : Store Key Value}
    (fresh : NoReuse batches) (done : applyBatches upload store batches = some next) {key : Key}
    (set : key ∈ (batches.flatMap Batch.set).map Prod.fst)
    (unfreed : key ∉ batches.flatMap Batch.free) : (next key).isSome = true := by
  rw [applyBatches_deferred fresh] at done
  obtain ⟨middle, all, rfl⟩ := Option.map_eq_some_iff.mp done
  exact removeAll_isSome.mpr ⟨unfreed, (putAll_isSome all key).mpr (.inl set)⟩

end Batches

end NanoKvm.Lib
