import Mathlib.Data.List.Basic
import Mathlib.Data.List.Induction
import NanoKvm.Lib.Transition

/-!
# Lawful logs

A log whose every entry obeys a law that speaks of the entries before it.  A
machine that notes at most one entry a step, and only lawful ones, has a lawful
log in every reachable state; what holds of a run is then a statement about
lists.
-/

set_option autoImplicit false

namespace NanoKvm.Lib

/-- What stands at an earlier place of a log that grew. -/
theorem snoc_split {α : Type} {marks before after : List α} {last mark : α}
    (shape : marks ++ [last] = before ++ mark :: after) :
    (after = [] ∧ before = marks ∧ mark = last) ∨
      ∃ rest, after = rest ++ [last] ∧ marks = before ++ mark :: rest := by
  rcases List.eq_nil_or_concat after with rfl | ⟨rest, final, rfl⟩
  · obtain ⟨same, here⟩ := List.append_inj' shape rfl
    exact .inl ⟨rfl, same.symm, (List.cons.inj here).1.symm⟩
  · rw [List.concat_eq_append, ← List.cons_append, ← List.append_assoc] at shape
    obtain ⟨same, here⟩ := List.append_inj' shape rfl
    refine .inr ⟨rest, ?_, same⟩
    rw [List.concat_eq_append, (List.cons.inj here).1]

section Laws
variable {Event : Type} {law : List Event → Event → Prop} {log before : List Event}

def Lawful (law : List Event → Event → Prop) (log : List Event) : Prop :=
  ∀ before event after, log = before ++ event :: after → law before event

theorem lawful_nil : Lawful law [] := by
  intro before event after shape
  cases before <;> cases shape

theorem Lawful.snoc {event : Event} (lawful : Lawful law log) (next : law log event) :
    Lawful law (log ++ [event]) := by
  intro before other after shape
  rcases snoc_split shape with ⟨-, rfl, rfl⟩ | ⟨rest, -, earlier⟩
  · exact next
  · exact lawful before other rest earlier

theorem Lawful.of_prefix (lawful : Lawful law log) (early : before <+: log) :
    Lawful law before := by
  obtain ⟨after, rfl⟩ := early
  intro first event rest shape
  refine lawful first event (rest ++ after) ?_
  rw [shape, List.append_assoc, List.cons_append]

/-- From a prefix on, what each lawful entry preserves holds of the whole log. -/
theorem Lawful.extend {P : List Event → Prop} (lawful : Lawful law log) (early : before <+: log)
    (base : P before)
    (keep : ∀ middle event, before <+: middle → Lawful law middle → P middle →
      law middle event → P (middle ++ [event])) : P log := by
  obtain ⟨after, rfl⟩ := early
  induction after using List.reverseRecOn with
  | nil =>
      rw [List.append_nil]
      exact base
  | append_singleton rest event ih =>
      rw [← List.append_assoc] at lawful ⊢
      have earlier := lawful.of_prefix (List.prefix_append (before ++ rest) [event])
      exact keep _ event (List.prefix_append before rest) earlier (ih earlier)
        (lawful _ event [] rfl)

theorem Lawful.mem {event : Event} {after : List Event} (lawful : Lawful law (before ++ after))
    (member : event ∈ after) :
    ∃ middle rest, after = middle ++ event :: rest ∧ law (before ++ middle) event := by
  obtain ⟨middle, rest, shape⟩ := List.append_of_mem member
  refine ⟨middle, rest, shape, lawful (before ++ middle) event rest ?_⟩
  rw [shape, List.append_assoc]

/-- `after` only adds to the log, and only what the law allows. -/
structure Notes (law : List Event → Event → Prop) (log after : List Event) : Prop where
  extends_ : log <+: after
  lawful : Lawful law log → Lawful law after

theorem Notes.nothing : Notes law log log := ⟨List.prefix_refl _, id⟩

theorem Notes.one {event : Event} (ok : law log event) : Notes law log (log ++ [event]) :=
  ⟨List.prefix_append _ _, fun holds => holds.snoc ok⟩

theorem Notes.trans {middle after : List Event} (first : Notes law log middle)
    (second : Notes law middle after) : Notes law log after :=
  ⟨first.extends_.trans second.extends_, fun holds => second.lawful (first.lawful holds)⟩

end Laws

section Machines
variable {State Label Event : Type} {step : Label → State → Option State}
  {log : State → List Event} {law : List Event → Event → Prop}

theorem reachable_lawful {start P : State → Prop} (first : ∀ state, start state → log state = [])
    (holds : ∀ state, Reachable step start state → P state)
    (keep : ∀ label state next, P state → step label state = some next →
      Notes law (log state) (log next))
    {state : State} (reached : Reachable step start state) : Lawful law (log state) := by
  let Q := fun state => Reachable step start state ∧ Lawful law (log state)
  have both : Q state := by
    refine reachable_preserves ?_ ?_ reached
    · intro origin started
      refine ⟨⟨origin, [], started, rfl⟩, ?_⟩
      rw [first origin started]
      exact lawful_nil
    · intro label current next inner stepped
      exact ⟨inner.1.next stepped,
        (keep label current next (holds current inner.1) stepped).lawful inner.2⟩
  exact both.2

/-- The log of a run starts with the log it set out from. -/
theorem run_extends {P : State → Prop}
    (kept : ∀ label state next, P state → step label state = some next → P next)
    (keep : ∀ label state next, P state → step label state = some next →
      Notes law (log state) (log next))
    {labels : List Label} {state final : State} (holds : P state)
    (success : run step labels state = some final) : log state <+: log final := by
  induction labels generalizing state with
  | nil =>
      cases Option.some.inj success
      exact List.prefix_refl _
  | cons label rest ih =>
      obtain ⟨next, stepped, rested⟩ := run_cons success
      exact (keep label state next holds stepped).extends_.trans
        (ih (kept label state next holds stepped) rested)

end Machines

end NanoKvm.Lib
