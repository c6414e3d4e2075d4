import Mathlib.Data.List.Basic
import Mathlib.Tactic.Common

/-!
# A single pending value

`capture/handoff.rs`.  Each function is one section under the slot's lock; a
bounded wait is a take that may also come back empty-handed.
-/

set_option autoImplicit false

namespace NanoKvm.Capture

structure Slot (α : Type) where
  value : Option α
  closed : Bool
  dropped : Nat
  deriving DecidableEq, Repr

namespace Slot
variable {α : Type}

def new : Slot α := ⟨none, false, 0⟩

/-- The displaced value, or `v` itself if the slot is closed. -/
def put (slot : Slot α) (v : α) : Option α × Slot α :=
  if slot.closed then (some v, slot)
  else
    (slot.value,
      { slot with
        value := some v
        dropped := if slot.value.isSome then slot.dropped + 1 else slot.dropped })

def take (slot : Slot α) : Option α × Slot α := (slot.value, { slot with value := none })

/-- A value still pending is dropped here. -/
def close (slot : Slot α) : Slot α := { slot with closed := true, value := none }

/-- The pending values: none or one. -/
def pending (slot : Slot α) : List α := slot.value.toList

@[simp] theorem put_closed (slot : Slot α) (v : α) : (slot.put v).2.closed = slot.closed := by
  unfold put
  split <;> rfl

/-- What an open slot is handed, it keeps, and hands back what it kept. -/
theorem put_open {slot : Slot α} (v : α) (opened : slot.closed = false) :
    (slot.put v).1.toList = slot.pending ∧ (slot.put v).2.pending = [v] := by
  simp [put, pending, opened]

/-- A closed slot hands everything straight back. -/
theorem put_returned {slot : Slot α} (v : α) (closed : slot.closed = true) :
    slot.put v = (some v, slot) := by
  simp [put, closed]

/-- Whatever is pending after a put was pending or is the new value. -/
theorem put_pending (slot : Slot α) (v : α) :
    (slot.put v).2.pending = [v] ∨ (slot.put v).2.pending = slot.pending := by
  cases closed : slot.closed with
  | false => exact Or.inl (put_open v closed).2
  | true => exact Or.inr (by rw [put_returned v closed])

@[simp] theorem take_pending (slot : Slot α) : slot.take.2.pending = [] := rfl

@[simp] theorem close_pending (slot : Slot α) : slot.close.pending = [] := rfl

end Slot

end NanoKvm.Capture
