import Mathlib.Data.Nat.Count

/-!
# Spans of a stream

Half-open stretches of positions, and how many positions a list of them leaves
uncovered.  Past a point at which no span starts, what is covered is decided by
how far the spans reach.
-/

set_option autoImplicit false

namespace NanoKvm.Lib

/-- The positions from `start` up to, not including, `stop`. -/
structure Span where
  start : Nat
  stop : Nat
  deriving DecidableEq, Repr

def Span.Covers (span : Span) (i : Nat) : Prop := span.start ≤ i ∧ i < span.stop

instance (span : Span) (i : Nat) : Decidable (span.Covers i) :=
  inferInstanceAs (Decidable (_ ∧ _))

def Covered (spans : List Span) (i : Nat) : Prop := ∃ span ∈ spans, span.Covers i

instance (spans : List Span) (i : Nat) : Decidable (Covered spans i) :=
  inferInstanceAs (Decidable (∃ span ∈ spans, span.Covers i))

/-- The first position that no span lies at or after. -/
def reach : List Span → Nat
  | [] => 0
  | span :: rest => max span.stop (reach rest)

/-- How many of the first `n` positions no span covers. -/
def uncovered (spans : List Span) (n : Nat) : Nat := Nat.count (fun i => ¬ Covered spans i) n

section Spans
variable {spans : List Span} {span : Span} {i n : Nat}

@[simp] theorem covered_nil : Covered [] i ↔ False := by
  simp [Covered]

theorem covered_snoc : Covered (spans ++ [span]) i ↔ Covered spans i ∨ span.Covers i := by
  simp only [Covered, List.mem_append, List.mem_singleton]
  constructor
  · rintro ⟨other, earlier | rfl, covers⟩
    · exact .inl ⟨other, earlier, covers⟩
    · exact .inr covers
  · rintro (⟨other, earlier, covers⟩ | covers)
    · exact ⟨other, .inl earlier, covers⟩
    · exact ⟨span, .inr rfl, covers⟩

theorem reach_snoc : reach (spans ++ [span]) = max (reach spans) span.stop := by
  induction spans with
  | nil => simp [reach]
  | cons first rest ih =>
      simp only [List.cons_append, reach, ih]
      omega

theorem lt_reach : i < reach spans ↔ ∃ span ∈ spans, i < span.stop := by
  induction spans with
  | nil => simp [reach]
  | cons first rest ih => simp [reach, ih]

/-- Where all the spans have started, they cover what lies before their reach. -/
theorem covered_ahead {here : Nat} (started : ∀ span ∈ spans, span.start ≤ here)
    (ahead : here ≤ i) : Covered spans i ↔ i < reach spans := by
  rw [lt_reach]
  constructor
  · rintro ⟨span, member, -, stop⟩
    exact ⟨span, member, stop⟩
  · rintro ⟨span, member, stop⟩
    have start := started span member
    exact ⟨span, member, by omega, stop⟩

@[simp] theorem uncovered_zero : uncovered spans 0 = 0 := Nat.count_zero _

/-- A span changes nothing before its start. -/
theorem uncovered_snoc (later : n ≤ span.start) :
    uncovered (spans ++ [span]) n = uncovered spans n := by
  unfold uncovered
  rw [Nat.count_eq_card_filter_range, Nat.count_eq_card_filter_range]
  congr 1
  refine Finset.filter_congr fun i member => ?_
  have before := Finset.mem_range.mp member
  rw [covered_snoc]
  have outside : ¬ span.Covers i := fun covers => by
    have := covers.1
    omega
  simp only [outside, or_false]

theorem count_from (n far : Nat) : Nat.count (fun i => far ≤ i) n = n - min n far := by
  induction n with
  | zero => simp
  | succ n ih =>
      rw [Nat.count_succ, ih]
      split <;> omega

/-- Past the start of every span, the positions before the reach are covered. -/
theorem uncovered_add {here : Nat} (started : ∀ span ∈ spans, span.start ≤ here) (n : Nat) :
    uncovered spans (here + n) = uncovered spans here + (n - min n (reach spans - here)) := by
  unfold uncovered
  rw [Nat.count_add, ← count_from]
  congr 1
  rw [Nat.count_eq_card_filter_range, Nat.count_eq_card_filter_range]
  congr 1
  refine Finset.filter_congr fun i _ => ?_
  rw [covered_ahead started (Nat.le_add_right _ _)]
  omega

/-- A span leaves nothing uncovered past the point at which it starts. -/
theorem uncovered_over {here stop k : Nat} (started : ∀ span ∈ spans, span.start ≤ here)
    (within : here + k ≤ stop) :
    uncovered (spans ++ [⟨here, stop⟩]) (here + k) = uncovered spans here := by
  have all : ∀ span ∈ spans ++ [⟨here, stop⟩], span.start ≤ here := by
    intro span member
    rcases List.mem_append.mp member with earlier | last
    · exact started span earlier
    · rw [List.mem_singleton.mp last]
  rw [uncovered_add all, uncovered_snoc (Nat.le_refl here), reach_snoc]
  dsimp only
  omega

end Spans

end NanoKvm.Lib
