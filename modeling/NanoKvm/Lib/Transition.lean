import Mathlib.Data.List.Basic
import Mathlib.Tactic.Common

/-!
# Labelled runs of a partial step function

A component whose threads interleave is a partial function `step`: a label
names the thread that moves and the answer its environment gives, and `none`
means that thread cannot move that way.  A run is a list of labels.  The rules
below are the inductions over runs: an invariant, and an invariant of runs whose
steps meet a guard.
-/

set_option autoImplicit false

namespace NanoKvm.Lib

section Runs
variable {State Label : Type} (step : Label → State → Option State)

def run : List Label → State → Option State
  | [], state => some state
  | label :: rest, state => (step label state).bind (run rest)

/-- Every step of the run meets `guard` in the state it starts from. -/
def Guarded (guard : Label → State → Prop) : List Label → State → Prop
  | [], _ => True
  | label :: rest, state =>
      guard label state ∧ ∀ next, step label state = some next → Guarded guard rest next

def Reachable (start : State → Prop) (state : State) : Prop :=
  ∃ first labels, start first ∧ run step labels first = some state

instance (guard : Label → State → Prop) [∀ label state, Decidable (guard label state)] :
    ∀ labels state, Decidable (Guarded step guard labels state)
  | [], _ => isTrue trivial
  | label :: rest, state =>
      match decide (guard label state), decide_eq_true_iff (p := guard label state) with
      | false, spec => isFalse fun both => Bool.noConfusion (spec.mpr both.1)
      | true, spec =>
          match next : step label state with
          | none => isTrue ⟨spec.mp rfl, fun _ eq => by rw [next] at eq; cases eq⟩
          | some after =>
              match instDecidableGuarded guard rest after with
              | isTrue rest => isTrue ⟨spec.mp rfl, fun _ eq => by
                  rw [next] at eq; cases eq; exact rest⟩
              | isFalse rest => isFalse fun both => rest (both.2 after next)

variable {step}

theorem run_cons {label : Label} {rest : List Label} {state final : State}
    (success : run step (label :: rest) state = some final) :
    ∃ next, step label state = some next ∧ run step rest next = some final :=
  Option.bind_eq_some_iff.mp success

theorem run_append (first second : List Label) (state : State) :
    run step (first ++ second) state = (run step first state).bind (run step second) := by
  induction first generalizing state with
  | nil => rfl
  | cons label rest ih =>
      simp only [List.cons_append, run]
      cases step label state with
      | none => rfl
      | some next => exact ih next

/-- What one step preserves, a run preserves. -/
theorem run_preserves {P : State → Prop}
    (keep : ∀ label state next, P state → step label state = some next → P next)
    {labels : List Label} {state final : State} (holds : P state)
    (success : run step labels state = some final) : P final := by
  induction labels generalizing state with
  | nil =>
      cases Option.some.inj success
      exact holds
  | cons label rest ih =>
      obtain ⟨next, stepped, rested⟩ := run_cons success
      exact ih (keep label state next holds stepped) rested

/-- What every guarded step preserves, a guarded run preserves. -/
theorem run_preserves_guarded {P : State → Prop} {guard : Label → State → Prop}
    (keep : ∀ label state next, P state → guard label state →
      step label state = some next → P next)
    {labels : List Label} {state final : State} (holds : P state)
    (guarded : Guarded step guard labels state)
    (success : run step labels state = some final) : P final := by
  induction labels generalizing state with
  | nil =>
      cases Option.some.inj success
      exact holds
  | cons label rest ih =>
      obtain ⟨next, stepped, rested⟩ := run_cons success
      exact ih (keep label state next holds guarded.1 stepped) (guarded.2 next stepped) rested

/-- A run that leaves a set of states makes a step that can. -/
theorem run_exits {Inside : State → Prop} {exits : Label → Prop}
    (stays : ∀ label state next, Inside state → step label state = some next →
      Inside next ∨ exits label)
    {labels : List Label} {state final : State} (inside : Inside state)
    (success : run step labels state = some final) (outside : ¬ Inside final) :
    ∃ label ∈ labels, exits label := by
  induction labels generalizing state with
  | nil =>
      cases Option.some.inj success
      exact absurd inside outside
  | cons label rest ih =>
      obtain ⟨next, stepped, rested⟩ := run_cons success
      rcases stays label state next inside stepped with still | out
      · obtain ⟨later, member, out⟩ := ih still rested
        exact ⟨later, List.mem_cons_of_mem _ member, out⟩
      · exact ⟨label, List.mem_cons_self, out⟩

/-- A run is guarded when each of its steps is, in the state the steps before it reach. -/
theorem guarded_iff {guard : Label → State → Prop} {labels : List Label} {state : State} :
    Guarded step guard labels state ↔ ∀ first label rest reached,
      labels = first ++ label :: rest → run step first state = some reached →
        guard label reached := by
  induction labels generalizing state with
  | nil =>
      refine ⟨fun _ first label rest reached shape => ?_, fun _ => trivial⟩
      cases first <;> cases shape
  | cons label labels ih =>
      constructor
      · rintro ⟨guarded, later⟩ first other rest reached shape success
        cases first with
        | nil =>
            cases Option.some.inj success
            cases shape
            exact guarded
        | cons head first =>
            obtain ⟨rfl, tail⟩ := List.cons.inj shape
            obtain ⟨next, stepped, rested⟩ := run_cons success
            exact ih.mp (later next stepped) first other rest reached tail rested
      · intro every
        refine ⟨every [] label labels state rfl rfl, fun next stepped => ih.mpr ?_⟩
        intro first other rest reached shape success
        apply every (label :: first) other rest reached (by rw [shape]; rfl)
        simp [run, stepped, success]

/-- Where every guarded step keeps `Q`, which shows `P`, and every unguarded one breaks
`P`, a run has `P` all along exactly when all its steps are guarded. -/
theorem always_iff_guarded {P Q : State → Prop} {guard : Label → State → Prop}
    (keep : ∀ label state next, Q state → guard label state →
      step label state = some next → Q next)
    (shows : ∀ state, Q state → P state)
    (breaks : ∀ label state, Q state → ¬ guard label state →
      ∃ next, step label state = some next ∧ ¬ P next)
    {labels : List Label} {state : State} (holds : Q state) :
    (∀ first rest reached, labels = first ++ rest → run step first state = some reached →
      P reached) ↔ Guarded step guard labels state := by
  induction labels generalizing state with
  | nil =>
      refine ⟨fun _ => trivial, fun _ first rest reached shape success => ?_⟩
      obtain ⟨rfl, -⟩ := List.append_eq_nil_iff.mp shape.symm
      cases Option.some.inj success
      exact shows state holds
  | cons label labels ih =>
      constructor
      · intro always
        have guarded : guard label state := by
          by_contra unguarded
          obtain ⟨next, stepped, broken⟩ := breaks label state holds unguarded
          apply broken
          apply always [label] labels next rfl
          simp [run, stepped]
        refine ⟨guarded, fun next stepped => (ih (keep _ _ _ holds guarded stepped)).mp ?_⟩
        intro first rest reached shape success
        apply always (label :: first) rest reached (by rw [shape]; rfl)
        simp [run, stepped, success]
      · rintro ⟨guarded, later⟩ first rest reached shape success
        cases first with
        | nil =>
            cases Option.some.inj success
            exact shows state holds
        | cons head first =>
            obtain ⟨rfl, tail⟩ := List.cons.inj shape
            obtain ⟨next, stepped, rested⟩ := run_cons success
            exact (ih (keep _ _ _ holds guarded stepped)).mpr (later next stepped) first rest
              reached tail rested

theorem reachable_preserves {P start : State → Prop} (first : ∀ state, start state → P state)
    (keep : ∀ label state next, P state → step label state = some next → P next)
    {state : State} (reached : Reachable step start state) : P state := by
  obtain ⟨origin, labels, started, success⟩ := reached
  exact run_preserves keep (first origin started) success

theorem Reachable.run {start : State → Prop} {state final : State} {labels : List Label}
    (reached : Reachable step start state) (success : run step labels state = some final) :
    Reachable step start final := by
  obtain ⟨origin, earlier, started, before⟩ := reached
  refine ⟨origin, earlier ++ labels, started, ?_⟩
  rw [run_append, before]
  exact success

theorem Reachable.next {start : State → Prop} {state after : State} {label : Label}
    (reached : Reachable step start state) (stepped : step label state = some after) :
    Reachable step start after := by
  have success : NanoKvm.Lib.run step [label] state = some after := by
    simp [NanoKvm.Lib.run, stepped]
  exact reached.run success

/-- Where a run goes through, so does its state with any default. -/
theorem run_getD {labels : List Label} {state other : State}
    (goes : (run step labels state).isSome = true) :
    run step labels state = some ((run step labels state).getD other) := by
  obtain ⟨final, success⟩ := Option.isSome_iff_exists.mp goes
  rw [success, Option.getD_some]

end Runs

end NanoKvm.Lib
