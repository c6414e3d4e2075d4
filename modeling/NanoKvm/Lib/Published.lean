import Mathlib.Order.Basic
import Mathlib.Order.Lattice
import Mathlib.Tactic.Common

/-!
# Counters published by several workers

Workers take copies of a set of growing counters, each copy whole and one at a
time, and publish what they took slot by slot, in any order among each other, by
raising the published slot.  What is published never runs ahead, and is exact as
soon as no worker has a slot left.
-/

set_option autoImplicit false

namespace NanoKvm.Lib

section Published
variable {Slot Worker α : Type} [LinearOrder α] {truth grown shown raised : Slot → α}
  {left remaining : Worker → List Slot} {taken retaken : Worker → Slot → α}

/-- `taken` is the copy a worker publishes from, and `left` the slots it has yet to. -/
structure Published (truth shown : Slot → α) (left : Worker → List Slot)
    (taken : Worker → Slot → α) : Prop where
  behind : ∀ slot, shown slot ≤ truth slot
  honest : ∀ worker slot, slot ∈ left worker → taken worker slot ≤ truth slot
  owed : ∀ slot, shown slot = truth slot ∨
    ∃ worker, slot ∈ left worker ∧ taken worker slot = truth slot

namespace Published

/-- A worker makes the counters grow, and takes a copy with all slots to publish. -/
theorem take (published : Published truth shown left taken) (worker : Worker)
    (grows : ∀ slot, truth slot ≤ grown slot) (all : ∀ slot, slot ∈ remaining worker)
    (copy : ∀ slot, retaken worker slot = grown slot)
    (others : ∀ other, other ≠ worker → remaining other = left other ∧
      retaken other = taken other) : Published grown shown remaining retaken := by
  refine ⟨fun slot => (published.behind slot).trans (grows slot), fun other slot inside => ?_,
    fun slot => Or.inr ⟨worker, all slot, copy slot⟩⟩
  by_cases same : other = worker
  · rw [same]
    exact (copy slot).le
  · obtain ⟨kept, snap⟩ := others other same
    rw [snap]
    exact (published.honest other slot (kept ▸ inside)).trans (grows slot)

/-- A worker publishes its next slot. -/
theorem publish (published : Published truth shown left taken) {worker : Worker} {slot : Slot}
    {rest : List Slot} (next : left worker = slot :: rest) (kept : remaining worker = rest)
    (copy : ∀ other ∈ rest, retaken worker other = taken worker other)
    (others : ∀ other, other ≠ worker → remaining other = left other ∧
      retaken other = taken other)
    (raise : raised slot = max (shown slot) (taken worker slot))
    (stays : ∀ other, other ≠ slot → raised other = shown other) :
    Published truth raised remaining retaken := by
  have own : taken worker slot ≤ truth slot :=
    published.honest worker slot (next ▸ List.mem_cons_self)
  have behind : ∀ other, raised other ≤ truth other := by
    intro other
    by_cases same : other = slot
    · rw [same, raise]
      exact max_le (published.behind slot) own
    · rw [stays other same]
      exact published.behind other
  refine ⟨behind, fun other place inside => ?_, fun place => ?_⟩
  · by_cases same : other = worker
    · subst same
      rw [kept] at inside
      rw [copy place inside]
      exact published.honest other place (next ▸ List.mem_cons_of_mem slot inside)
    · obtain ⟨held, snap⟩ := others other same
      rw [snap]
      exact published.honest other place (held ▸ inside)
  · have more : shown place ≤ raised place := by
      by_cases same : place = slot
      · rw [same, raise]
        exact le_max_left _ _
      · exact (stays place same).ge
    rcases published.owed place with exact | ⟨other, inside, copied⟩
    · exact Or.inl (le_antisymm (behind place) (exact ▸ more))
    · by_cases same : other = worker
      · subst same
        rw [next] at inside
        by_cases here : place = slot
        · refine Or.inl (le_antisymm (behind place) ?_)
          rw [here, raise, ← here, ← copied]
          exact le_max_right _ _
        · have rested := (List.mem_cons.mp inside).resolve_left here
          exact Or.inr ⟨other, kept ▸ rested, (copy place rested).trans copied⟩
      · obtain ⟨held, snap⟩ := others other same
        exact Or.inr ⟨other, held ▸ inside, by rw [snap]; exact copied⟩

/-- With no worker in between, what is published is exact. -/
theorem exact_at_rest (published : Published truth shown left taken)
    (idle : ∀ worker, left worker = []) (slot : Slot) : shown slot = truth slot := by
  rcases published.owed slot with exact | ⟨worker, inside, -⟩
  · exact exact
  · rw [idle] at inside
    cases inside

end Published
end Published

end NanoKvm.Lib
