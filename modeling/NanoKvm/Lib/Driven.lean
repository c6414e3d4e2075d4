import Mathlib.Data.List.Basic
import Mathlib.Tactic.Common

/-!
# Loops their environment drives

A loop that is told something each time round and either goes round again with
a new state or leaves with a result.  The answers come as a list: a list that
ends before the loop leaves is a loop still waiting.
-/

set_option autoImplicit false

namespace NanoKvm.Lib

inductive Round (State Result : Type) where
  | again (state : State)
  | leave (result : Result)

section Driven
variable {State Answer Result : Type} (turn : State → Answer → Round State Result)

/-- The state after answers every one of which sends the loop round again. -/
def circle : State → List Answer → Option State
  | state, [] => some state
  | state, answer :: rest =>
      match turn state answer with
      | .again next => circle next rest
      | .leave _ => none

/-- What the loop leaves with, and the answers it did not hear. -/
def drive : State → List Answer → Option (Result × List Answer)
  | _, [] => none
  | state, answer :: rest =>
      match turn state answer with
      | .again next => drive next rest
      | .leave result => some (result, rest)

variable {turn} {state last : State} {answer : Answer} {answers rest : List Answer}
  {result : Result}

@[simp] theorem circle_cons : circle turn state (answer :: rest) =
    match turn state answer with
    | .again next => circle turn next rest
    | .leave _ => none :=
  rfl

@[simp] theorem drive_cons : drive turn state (answer :: rest) =
    match turn state answer with
    | .again next => drive turn next rest
    | .leave result => some (result, rest) :=
  rfl

theorem circle_append {first second : List Answer} {state : State} :
    circle turn state (first ++ second) =
      (circle turn state first).bind fun next => circle turn next second := by
  induction first generalizing state with
  | nil => rfl
  | cons answer first ih =>
      simp only [List.cons_append, circle_cons]
      cases turn state answer with
      | again next => exact ih
      | leave => rfl

/-- A loop leaves at one answer, and every answer before it sent it round again. -/
theorem drive_eq_some : drive turn state answers = some (result, rest) ↔
    ∃ before answer last, answers = before ++ answer :: rest ∧
      circle turn state before = some last ∧ turn last answer = .leave result := by
  induction answers generalizing state with
  | nil =>
      refine ⟨nofun, ?_⟩
      rintro ⟨before, answer, last, shape, -⟩
      cases before <;> cases shape
  | cons head answers ih =>
      simp only [drive_cons]
      cases round : turn state head with
      | again next =>
          rw [ih]
          constructor
          · rintro ⟨before, answer, last, rfl, circled, left⟩
            have longer : circle turn state (head :: before) = some last := by
              simp only [circle_cons, round, circled]
            exact ⟨head :: before, answer, last, rfl, longer, left⟩
          · rintro ⟨before, answer, last, shape, circled, left⟩
            cases before with
            | nil =>
                cases circled
                cases shape
                rw [round] at left
                cases left
            | cons first before =>
                cases shape
                simp only [circle_cons, round] at circled
                exact ⟨before, answer, last, rfl, circled, left⟩
      | leave other =>
          constructor
          · intro same
            cases same
            exact ⟨[], head, state, rfl, rfl, round⟩
          · rintro ⟨before, answer, last, shape, circled, left⟩
            cases before with
            | nil =>
                cases circled
                cases shape
                rw [round] at left
                cases left
                rfl
            | cons first before =>
                cases shape
                simp [round] at circled

theorem drive_eq_none : drive turn state answers = none ↔
    ∃ last, circle turn state answers = some last := by
  induction answers generalizing state with
  | nil => exact ⟨fun _ => ⟨state, rfl⟩, fun _ => rfl⟩
  | cons head answers ih =>
      simp only [drive_cons, circle_cons]
      cases turn state head with
      | again next => exact ih
      | leave other => simp

/-- What holds at the start and every turn that goes round again keeps, given the
answers so far, holds wherever the loop is still going round. -/
theorem circle_invariant (Holds : List Answer → State → Prop) (first : Holds [] state)
    (keep : ∀ seen current answer next, Holds seen current →
      turn current answer = .again next → Holds (seen ++ [answer]) next)
    (circled : circle turn state answers = some last) : Holds answers last := by
  suffices general : ∀ (answers seen : List Answer) (current : State), Holds seen current →
      circle turn current answers = some last → Holds (seen ++ answers) last from
    general answers [] state first circled
  intro answers
  induction answers with
  | nil =>
      intro seen current holds reached
      cases reached
      rw [List.append_nil]
      exact holds
  | cons head answers ih =>
      intro seen current holds reached
      simp only [circle_cons] at reached
      split at reached
      next following round =>
        have step := ih (seen ++ [head]) following (keep seen current head following holds round)
          reached
        rwa [List.append_assoc] at step
      · cases reached

/-- An answer that sends the loop away from any state ends it there at the latest. -/
theorem drive_of_stop {before : List Answer} {stop : Answer}
    (stops : ∀ current, ∃ result, turn current stop = .leave result) (after : List Answer) :
    ∃ result unheard, drive turn state (before ++ stop :: after) = some (result, unheard) ∧
      after.length ≤ unheard.length := by
  induction before generalizing state with
  | nil =>
      obtain ⟨result, leaving⟩ := stops state
      exact ⟨result, after, by simp [leaving], Nat.le_refl _⟩
  | cons head before ih =>
      simp only [List.cons_append, drive_cons]
      cases turn state head with
      | again next => exact ih
      | leave result => exact ⟨result, before ++ stop :: after, rfl, by simp; omega⟩

end Driven

end NanoKvm.Lib
