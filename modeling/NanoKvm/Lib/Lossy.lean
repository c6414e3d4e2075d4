import Mathlib.Data.List.Basic

/-!
# Lossy stages

Items enter at one end, may be lost anywhere on the way and emerge, transformed,
at the other.  Whatever the schedule, what has emerged is the image of a
subsequence of what entered, and what is still under way comes after it.
-/

set_option autoImplicit false

namespace NanoKvm.Lib

section Lossy
variable {α β : Type} {f : α → β} {emerged : List β} {underway entered : List α}

def Lossy (f : α → β) (emerged : List β) (underway entered : List α) : Prop :=
  ∃ sources : List α, emerged = sources.map f ∧ (sources ++ underway).Sublist entered

theorem lossy_nil : Lossy f [] [] [] := ⟨[], rfl, List.Sublist.refl _⟩

namespace Lossy

theorem enter (lossy : Lossy f emerged underway entered) (item : α) :
    Lossy f emerged (underway ++ [item]) (entered ++ [item]) := by
  obtain ⟨sources, images, order⟩ := lossy
  refine ⟨sources, images, ?_⟩
  rw [← List.append_assoc]
  exact order.append (List.Sublist.refl [item])

/-- Anything may be lost, before its transformation or after it. -/
theorem lose {fewer : List β} {left : List α} (lossy : Lossy f emerged underway entered)
    (after : fewer.Sublist emerged) (before : left.Sublist underway) :
    Lossy f fewer left entered := by
  obtain ⟨sources, rfl, order⟩ := lossy
  obtain ⟨kept, subset, rfl⟩ := List.sublist_map_iff.mp after
  exact ⟨kept, rfl, (subset.append before).trans order⟩

theorem emerge {item : α} (lossy : Lossy f emerged (item :: underway) entered) :
    Lossy f (emerged ++ [f item]) underway entered := by
  obtain ⟨sources, rfl, order⟩ := lossy
  refine ⟨sources ++ [item], by rw [List.map_append]; rfl, ?_⟩
  rw [List.append_assoc]
  exact order

/-- The items behind what has emerged, in the order they entered, each at most once. -/
theorem sources (lossy : Lossy f emerged underway entered) :
    ∃ sources : List α, sources.Sublist entered ∧ emerged = sources.map f := by
  obtain ⟨sources, images, order⟩ := lossy
  exact ⟨sources, (List.sublist_append_left sources underway).trans order, images⟩

end Lossy
end Lossy

end NanoKvm.Lib
