import Mathlib.Data.List.Basic
import Mathlib.Tactic.Common

/-!
# Events a streak keeps apart

A log whose entries may fire, with a streak that grows by at most one for each
counted entry, is spent when an entry fires and lets one fire only when it is long
enough.  Two entries that fire are that many counted entries apart.
-/

set_option autoImplicit false

namespace NanoKvm.Lib

section Spacing
variable {Entry : Type} {fired counted : Entry → Bool} {hold streak : Nat} {log : List Entry}

structure Spaced (fired counted : Entry → Bool) (hold streak : Nat) (log : List Entry) : Prop where
  recent : ∀ earlier entry later, log = earlier ++ entry :: later → fired entry = true →
    streak ≤ later.countP counted
  apart : ∀ earlier entry between other later,
    log = earlier ++ entry :: between ++ other :: later → fired entry = true →
      fired other = true → hold ≤ between.countP counted + 1

theorem spaced_nil : Spaced fired counted hold streak [] := by
  constructor
  · intro earlier _ _ shape
    cases earlier <;> cases shape
  · intro earlier _ _ _ _ shape
    cases earlier <;> cases shape

/-- One more entry, that fires only after a long streak and then spends it. -/
theorem Spaced.snoc (spaced : Spaced fired counted hold streak log) {entry : Entry} {next : Nat}
    (grows : next ≤ streak + if counted entry = true then 1 else 0)
    (fires : fired entry = true → hold ≤ streak + 1 ∧ next = 0) :
    Spaced fired counted hold next (log ++ [entry]) := by
  constructor
  · intro earlier first later shape fired
    rcases List.eq_nil_or_concat later with rfl | ⟨between, last, rfl⟩
    · obtain ⟨rfl, same⟩ := List.append_inj' shape rfl
      cases same
      rw [(fires fired).2]
      exact Nat.zero_le _
    · rw [List.concat_eq_append, ← List.cons_append, ← List.append_assoc] at shape
      obtain ⟨rfl, same⟩ := List.append_inj' shape rfl
      cases same
      have sofar := spaced.recent earlier first between rfl fired
      rw [List.concat_eq_append, List.countP_append, List.countP_singleton]
      omega
  · intro earlier first between second later shape fired fired'
    rcases List.eq_nil_or_concat later with rfl | ⟨left, last, rfl⟩
    · obtain ⟨rfl, same⟩ := List.append_inj' shape rfl
      cases same
      have sofar := spaced.recent earlier first between rfl fired
      have long := (fires fired').1
      omega
    · rw [List.concat_eq_append, ← List.cons_append, ← List.append_assoc] at shape
      obtain ⟨rfl, -⟩ := List.append_inj' shape rfl
      exact spaced.apart earlier first between second left rfl fired fired'

end Spacing

end NanoKvm.Lib
