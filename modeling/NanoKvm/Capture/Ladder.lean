import NanoKvm.Lib.Log

/-!
# The recovery ladder

What the format watchdog is for, told by its log alone: restarts up to a limit,
one reopen, as many restarts again, then acceptance.  Only a frame at the
negotiated size or an open the watchdog did not ask for lets it start over.
-/

set_option autoImplicit false

namespace NanoKvm.Capture

open NanoKvm.Lib

/-- What befalls the watchdog, in order. -/
inductive Event where
  | opened
  /-- A frame at the size the source negotiated, and one at another. -/
  | matched
  | mismatched
  /-- The watchdog's own three acts. -/
  | restarted
  | escalated
  | accepted
  /-- The source was released without the watchdog's asking. -/
  | lost
  | reformatted
  deriving DecidableEq, Repr

def Event.acts : Event → Bool
  | .restarted | .escalated | .accepted => true
  | _ => false

/-- What a log comes to. -/
structure Tally where
  /-- The watchdog's acts since the budget was last refilled. -/
  restarts : Nat
  escalations : Nat
  acceptances : Nat
  /-- Restarts since the last open or matching frame. -/
  spent : Nat
  /-- Mismatched frames since the last watchdog restart or open. -/
  gathered : Nat
  /-- The watchdog released the source, and no open has followed. -/
  asked : Bool
  deriving DecidableEq, Repr

namespace Tally

def zero : Tally := ⟨0, 0, 0, 0, 0, false⟩

def refill (t : Tally) : Tally :=
  { t with restarts := 0, escalations := 0, acceptances := 0, spent := 0 }

def push (t : Tally) : Event → Tally
  | .opened =>
      if t.asked then { t with spent := 0, gathered := 0, asked := false }
      else { t.refill with gathered := 0 }
  | .matched => t.refill
  | .mismatched => { t with gathered := t.gathered + 1 }
  | .restarted => { t with restarts := t.restarts + 1, spent := t.spent + 1, gathered := 0 }
  | .escalated => { t with escalations := t.escalations + 1, asked := true }
  | .accepted => { t with acceptances := t.acceptances + 1 }
  | .lost | .reformatted => { t with asked := false }

end Tally

def tally (log : List Event) : Tally := log.foldl Tally.push .zero

@[simp] theorem tally_nil : tally [] = .zero := rfl

@[simp] theorem tally_snoc (log : List Event) (event : Event) :
    tally (log ++ [event]) = (tally log).push event := by
  rw [tally, List.foldl_append]
  rfl

/-- The events that refill the budget, after `before`. -/
def Refills (before : List Event) (event : Event) : Prop :=
  event = .matched ∨ event = .opened ∧ (tally before).asked = false

def Unrefilled (before middle : List Event) : Prop :=
  ∀ first event last, middle = first ++ event :: last → ¬ Refills (before ++ first) event

section Ladder
variable {recover : Bool} {limit minFrames : Nat} {log before middle : List Event}

/-- The rungs: what may come after a log. -/
def Rung (recover : Bool) (limit minFrames : Nat) (before : List Event) : Event → Prop
  | .restarted =>
      minFrames ≤ (tally before).gathered ∧ (tally before).acceptances = 0 ∧
        (tally before).spent < limit
  | .escalated =>
      minFrames ≤ (tally before).gathered ∧ (tally before).acceptances = 0 ∧
        (tally before).escalations = 0 ∧ recover = true
  | .accepted => (tally before).acceptances = 0
  -- Frames come from an open source.
  | .matched | .mismatched => (tally before).asked = false
  | .opened | .lost | .reformatted => True

/-! ## What a lawful log adds up to -/

/-- The two budgets: that of the attempt under way and, once the reopen has been
answered, that of the one before it. -/
structure Tally.Bounded (recover : Bool) (limit : Nat) (t : Tally) : Prop where
  spent : t.spent ≤ limit
  restarts : t.restarts ≤ limit * (t.escalations - t.asked.toNat) + t.spent
  escalations : t.escalations ≤ if recover then 1 else 0
  acceptances : t.acceptances ≤ 1
  asked : t.asked = true → t.escalations = 1

theorem Tally.Bounded.total {t : Tally} (bounded : t.Bounded recover limit) :
    t.restarts ≤ 2 * limit := by
  obtain ⟨spent, restarts, escalations, -, -⟩ := bounded
  have one : t.escalations - t.asked.toNat ≤ 1 := by
    split at escalations <;> omega
  have product := Nat.mul_le_mul_left limit one
  omega

theorem bounded_push {event : Event} (bounded : (tally before).Bounded recover limit)
    (rung : Rung recover limit minFrames before event) :
    ((tally before).push event).Bounded recover limit := by
  obtain ⟨spent, restarts, escalations, acceptances, asked⟩ := bounded
  cases event with
  | opened =>
      unfold Tally.push
      cases due : (tally before).asked with
      | true =>
          have once := asked due
          rw [due, once] at restarts
          refine ⟨Nat.zero_le _, ?_, escalations, acceptances, fun h => by cases h⟩
          simp only [once]
          simp only [Bool.toNat_true, Nat.sub_self, Nat.mul_zero, Nat.zero_add] at restarts
          simpa using Nat.le_trans restarts spent
      | false =>
          refine ⟨Nat.zero_le _, Nat.zero_le _, Nat.zero_le _, Nat.zero_le _, fun h => ?_⟩
          exact absurd (due.symm.trans h) Bool.false_ne_true
  | matched =>
      refine ⟨Nat.zero_le _, Nat.zero_le _, Nat.zero_le _, Nat.zero_le _, fun h => ?_⟩
      exact absurd (Eq.trans (Eq.symm rung) h) Bool.false_ne_true
  | mismatched => exact ⟨spent, restarts, escalations, acceptances, asked⟩
  | restarted =>
      obtain ⟨-, -, room⟩ := rung
      refine ⟨room, ?_, escalations, acceptances, asked⟩
      exact Nat.succ_le_succ restarts
  | escalated =>
      obtain ⟨-, -, first, able⟩ := rung
      rw [first] at restarts
      refine ⟨spent, ?_, ?_, acceptances, fun _ => ?_⟩
      · simpa [Tally.push, first] using restarts
      · simp [Tally.push, first, able]
      · simp [Tally.push, first]
  | accepted =>
      refine ⟨spent, restarts, escalations, ?_, asked⟩
      have first : (tally before).acceptances = 0 := rung
      change (tally before).acceptances + 1 ≤ 1
      omega
  | lost | reformatted =>
      refine ⟨spent, ?_, escalations, acceptances, fun h => by cases h⟩
      have more := Nat.mul_le_mul_left limit
        (Nat.sub_le (tally before).escalations (tally before).asked.toNat)
      change (tally before).restarts ≤ limit * (tally before).escalations + (tally before).spent
      omega

theorem lawful_bounded (lawful : Lawful (Rung recover limit minFrames) log) :
    (tally log).Bounded recover limit := by
  apply lawful.extend (List.nil_prefix (l := log))
  · refine ⟨Nat.zero_le _, Nat.zero_le _, Nat.zero_le _, Nat.zero_le _, fun h => by cases h⟩
  · intro middle event _ _ bounded rung
    rw [tally_snoc]
    exact bounded_push bounded rung

/-! ## Between two refills -/

theorem push_counts {event : Event} (kept : ¬ Refills before event) :
    ((tally before).push event).restarts =
        (tally before).restarts + [event].count .restarted ∧
      ((tally before).push event).escalations =
        (tally before).escalations + [event].count .escalated ∧
      ((tally before).push event).acceptances =
        (tally before).acceptances + [event].count .accepted := by
  cases event with
  | opened =>
      have due : (tally before).asked = true := by
        cases due : (tally before).asked with
        | true => rfl
        | false => exact absurd (Or.inr ⟨rfl, due⟩) kept
      simp [Tally.push, due]
  | matched => exact absurd (Or.inl rfl) kept
  | mismatched | restarted | escalated | accepted | lost | reformatted =>
      exact ⟨rfl, rfl, rfl⟩

theorem unrefilled_left {first last : List Event}
    (kept : Unrefilled before (first ++ last)) : Unrefilled before first := by
  intro earlier event later shape
  apply kept earlier event (later ++ last)
  rw [shape, List.append_assoc, List.cons_append]

/-- Nothing is forgotten between two refills. -/
theorem unrefilled_counts (kept : Unrefilled before middle) :
    middle.count .restarted ≤ (tally (before ++ middle)).restarts ∧
      middle.count .escalated ≤ (tally (before ++ middle)).escalations ∧
      middle.count .accepted ≤ (tally (before ++ middle)).acceptances := by
  induction middle using List.reverseRecOn with
  | nil => exact ⟨Nat.zero_le _, Nat.zero_le _, Nat.zero_le _⟩
  | append_singleton first event ih =>
      obtain ⟨restarts, escalations, acceptances⟩ := ih (unrefilled_left kept)
      obtain ⟨r, e, a⟩ := push_counts (kept first event [] rfl)
      rw [← List.append_assoc, tally_snoc, r, e, a]
      simp only [List.count_append]
      omega

/-- What the watchdog may do between two refills. -/
structure WithinBudget (recover : Bool) (limit : Nat) (middle : List Event) : Prop where
  restarts : middle.count .restarted ≤ 2 * limit
  escalations : middle.count .escalated ≤ if recover then 1 else 0
  acceptances : middle.count .accepted ≤ 1
  silent : ∀ first last, middle = first ++ .accepted :: last → ∀ event ∈ last, event.acts = false

/-- An act's rung is free of acceptances. -/
theorem rung_acts {event : Event} (rung : Rung recover limit minFrames before event)
    (acts : event.acts = true) : (tally before).acceptances = 0 := by
  cases event with
  | restarted => exact rung.2.1
  | escalated => exact rung.2.1
  | accepted => exact rung
  | opened | matched | mismatched | lost | reformatted => cases acts

theorem lawful_within {after : List Event}
    (lawful : Lawful (Rung recover limit minFrames) (before ++ middle ++ after))
    (kept : Unrefilled before middle) : WithinBudget recover limit middle := by
  have bounded := lawful_bounded (lawful.of_prefix (List.prefix_append (before ++ middle) after))
  obtain ⟨restarts, escalations, acceptances⟩ := unrefilled_counts kept
  refine ⟨Nat.le_trans restarts bounded.total, Nat.le_trans escalations bounded.escalations,
    Nat.le_trans acceptances bounded.acceptances, ?_⟩
  rintro first last rfl event member
  obtain ⟨some_, rest, rfl⟩ := List.append_of_mem member
  have whole : Unrefilled before ((first ++ .accepted :: some_) ++ event :: rest) := by
    rw [List.append_assoc, List.cons_append]
    exact kept
  have sofar : Unrefilled before (first ++ .accepted :: some_) := unrefilled_left whole
  have rung : Rung recover limit minFrames (before ++ (first ++ .accepted :: some_)) event := by
    apply lawful _ event (rest ++ after)
    simp only [List.append_assoc, List.cons_append]
  cases acts : event.acts with
  | false => rfl
  | true =>
      obtain ⟨-, -, accepted⟩ := unrefilled_counts sofar
      rw [rung_acts rung acts, List.count_append, List.count_cons_self] at accepted
      omega

end Ladder

end NanoKvm.Capture
