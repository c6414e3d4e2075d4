import Mathlib.Data.List.Basic

/-!
# Partial operations

Subtractions, indices and slices that stop a program when they are out of range:
`none` is the stop.
-/

set_option autoImplicit false

namespace NanoKvm.Lib

variable {α : Type}

def checkedSub (a b : Nat) : Option Nat := if b ≤ a then some (a - b) else none

/-- A value that must stay below the end of its type. -/
def checkedBelow (limit value : Nat) : Option Nat := if value < limit then some value else none

/-- `items[start..stop]`. -/
def sliceOf (items : List α) (start stop : Nat) : Option (List α) :=
  if start ≤ stop ∧ stop ≤ items.length then some ((items.drop start).take (stop - start))
  else none

/-- What `drain(..n)` leaves. -/
def drained (items : List α) (n : Nat) : Option (List α) :=
  if n ≤ items.length then some (items.drop n) else none

theorem checkedSub_le {a b : Nat} (within : b ≤ a) : checkedSub a b = some (a - b) := if_pos within

theorem checkedBelow_lt {limit value : Nat} (below : value < limit) :
    checkedBelow limit value = some value := if_pos below

theorem drained_within {items : List α} {n : Nat} (within : n ≤ items.length) :
    drained items n = some (items.drop n) := if_pos within

theorem sliceOf_within {items : List α} {start stop : Nat} (ordered : start ≤ stop)
    (within : stop ≤ items.length) :
    sliceOf items start stop = some ((items.drop start).take (stop - start)) :=
  if_pos ⟨ordered, within⟩

theorem sliceOf_prefix {items : List α} {stop : Nat} (within : stop ≤ items.length) :
    sliceOf items 0 stop = some (items.take stop) := by
  rw [sliceOf_within (Nat.zero_le stop) within, List.drop_zero, Nat.sub_zero]

theorem getElem?_within {items : List α} {i : Nat} (within : i < items.length) (default : α) :
    items[i]? = some (items.getD i default) := by
  rw [List.getD_eq_getElem?_getD, List.getElem?_eq_getElem within]
  rfl

end NanoKvm.Lib
