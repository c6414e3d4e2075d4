import NanoKvm.Viewer.Paste
import NanoKvm.Viewer.State

/-!
# What a trigger comes to

Every case of the reducer, said once.  A press that engages capture is consumed
and sets its edge's flag; the up that finds the flag set is eaten.
-/

set_option autoImplicit false

namespace NanoKvm.Viewer

open NanoKvm.Proto
open NanoKvm.Input (Event ReleaseReason SubmitError)

def Edge.input : Edge → Input
  | .left => .button Button.left
  | .enter => .key (.usage 0x28#8)

def Input.trigger (input : Input) (down : Bool) : Trigger :=
  match input with
  | .key code => .key code down
  | .button mask => .button mask down

/-- The event an input trigger may forward. -/
def Trigger.event : Trigger → Option Event
  | .key code down => some (.key code down)
  | .button mask down => some (.button mask down)
  | .motion event => some event
  | _ => none

/-- Why a trigger releases, where it does. -/
def Trigger.reason : Trigger → Option ReleaseReason
  | .focusLost => some .focusLost
  | .inhibitorInactive | .releaseKey => some .userRequested
  | .submitFailed error => some (reasonFor error)
  | _ => none

@[simp] theorem consumed_setConsumed (session : Session) (edge other : Edge) (consumed : Bool) :
    (session.setConsumed edge consumed).consumed other =
      if other = edge then consumed else session.consumed other := by
  cases edge <;> cases other <;> simp [Session.setConsumed, Session.consumed]

@[simp] theorem setConsumed_capture (session : Session) (edge : Edge) (consumed : Bool) :
    (session.setConsumed edge consumed).capture = session.capture := by
  cases edge <;> rfl

@[simp] theorem setConsumed_closing (session : Session) (edge : Edge) (consumed : Bool) :
    (session.setConsumed edge consumed).closing = session.closing := by
  cases edge <;> rfl

theorem enterKey_eq : enterKey = some (.usage 0x28#8) := rfl

theorem edge_event_ne {edge other : Edge} (apart : other ≠ edge) (down down' : Bool) :
    edge.input.event down ≠ other.input.event down' := by
  cases edge <;> cases other <;> simp_all [Edge.input, Input.event]

/-! ## The cases of the reducer -/

inductive Response (session : Session) (trigger : Trigger) : Session → List Action → Prop where
  | closed {actions : List Action} (closing : session.closing = true)
      (exits : actions = [] ∨ actions = [.exit]) : Response session trigger session actions
  | closes (opened : session.closing = false) (asked : trigger = .closeRequested) :
      Response session trigger { (release session .shutdown).1 with closing := true }
        (leaveCapture .shutdown ++ [.exit])
  | leaves (opened : session.closing = false) (busy : session.capture ≠ .released)
      (reason : ReleaseReason) (asks : trigger.reason = some reason) (notice : Option Notice) :
      Response session trigger { (release session reason).1 with notice := notice }
        (leaveCapture reason)
  | presses (opened : session.closing = false) (captured : session.capture = .captured)
      (edge : Edge) (pressed : trigger = edge.input.trigger true) :
      Response session trigger (session.setConsumed edge false)
        [.forward (edge.input.event true)]
  | passes (opened : session.closing = false) (captured : session.capture = .captured)
      (event : Event) (fires : trigger.event = some event)
      (spared : ∀ (edge : Edge) (down : Bool), trigger = edge.input.trigger down →
        down = false ∧ session.consumed edge = false) :
      Response session trigger session [.forward event]
  | consumes {actions : List Action} (opened : session.closing = false) (edge : Edge)
      (pressed : trigger = edge.input.trigger true)
      (asks : session.capture = .released ∧ actions = beginCapture ∨
        session.capture = .engaging ∧ actions = [.tryEngage]) :
      Response session trigger { session.setConsumed edge true with capture := .engaging } actions
  | eats (opened : session.closing = false) (edge : Edge)
      (lifted : trigger = edge.input.trigger false) (eaten : session.consumed edge = true) :
      Response session trigger (session.setConsumed edge false) []
  | engages (opened : session.closing = false) (engaging : session.capture = .engaging)
      (asked : trigger = .engageSucceeded) :
      Response session trigger { session with capture := .captured, notice := none } []
  | waits {actions : List Action} (opened : session.closing = false)
      (free : trigger.event ≠ none → session.capture ≠ .captured)
      (spared : ∀ (edge : Edge) (down : Bool), trigger = edge.input.trigger down →
        down = false ∧ session.consumed edge = false)
      (asks : actions = [] ∨ session.capture = .engaging ∧ actions = [.tryEngage]) :
      Response session trigger session actions

theorem input_trigger_inj {input other : Input} {down down' : Bool}
    (same : input.trigger down = other.trigger down') : input = other ∧ down = down' := by
  cases input <;> cases other <;> simp_all [Input.trigger]

theorem edge_input_inj {edge other : Edge} (same : edge.input = other.input) : edge = other := by
  cases edge <;> cases other <;> simp_all [Edge.input]

theorem edge_trigger_inj {edge other : Edge} {down down' : Bool}
    (same : edge.input.trigger down = other.input.trigger down') : edge = other ∧ down = down' := by
  obtain ⟨input, downs⟩ := input_trigger_inj same
  exact ⟨edge_input_inj input, downs⟩

@[simp] theorem trigger_event (input : Input) (down : Bool) :
    (input.trigger down).event = some (input.event down) := by
  cases input <;> rfl

theorem reason_silent {trigger : Trigger} {reason : ReleaseReason}
    (asks : trigger.reason = some reason) : trigger.event = none := by
  cases trigger <;> first | rfl | cases asks

@[simp] theorem trigger_reason (input : Input) (down : Bool) :
    (input.trigger down).reason = none := by
  cases input <;> rfl

theorem plainInput_responds {session : Session} {trigger : Trigger} {event : Event}
    (opened : session.closing = false) (fires : trigger.event = some event)
    (plain : ∀ (edge : Edge) (down : Bool), trigger ≠ edge.input.trigger down) :
    Response session trigger (plainInput session event).1 (plainInput session event).2 := by
  have spared : ∀ (edge : Edge) (down : Bool), trigger = edge.input.trigger down →
      down = false ∧ session.consumed edge = false :=
    fun edge down same => absurd same (plain edge down)
  unfold plainInput
  cases capture : session.capture with
  | captured => exact .passes opened capture event fires spared
  | engaging => exact .waits opened (by simp [capture]) spared (Or.inr ⟨capture, rfl⟩)
  | released => exact .waits opened (by simp [capture]) spared (Or.inl rfl)

theorem capturingEdge_responds {session : Session} (opened : session.closing = false)
    (edge : Edge) (down : Bool) :
    Response session (edge.input.trigger down)
      (capturingEdge session down edge (edge.input.event down)).1
      (capturingEdge session down edge (edge.input.event down)).2 := by
  cases down with
  | true =>
      simp only [capturingEdge, if_true]
      cases capture : session.capture with
      | captured => exact .presses opened capture edge rfl
      | released => exact .consumes opened edge rfl (Or.inl ⟨capture, rfl⟩)
      | engaging =>
          have same : session.setConsumed edge true =
              { session.setConsumed edge true with capture := .engaging } := by
            rw [← capture, ← setConsumed_capture session edge true]
          dsimp only
          rw [same]
          exact .consumes opened edge rfl (Or.inr ⟨capture, rfl⟩)
  | false =>
      simp only [capturingEdge, Bool.false_eq_true, if_false]
      by_cases eaten : session.consumed edge = true
      · rw [if_pos eaten]
        exact .eats opened edge rfl eaten
      · rw [if_neg eaten]
        have fires := trigger_event edge.input false
        have spared : ∀ (other : Edge) (down : Bool),
            edge.input.trigger false = other.input.trigger down →
              down = false ∧ session.consumed other = false := by
          intro other down same
          obtain ⟨rfl, rfl⟩ := edge_trigger_inj same
          exact ⟨rfl, by simpa using eaten⟩
        cases capture : session.capture with
        | captured => exact .passes opened capture _ fires spared
        | engaging => exact .waits opened (by simp [capture]) spared (Or.inr ⟨capture, rfl⟩)
        | released => exact .waits opened (by simp [capture]) spared (Or.inl rfl)

/-- A trigger that is no input and changes nothing. -/
theorem inert_responds {session : Session} {trigger : Trigger} (opened : session.closing = false)
    (silent : trigger.event = none) : Response session trigger session [] := by
  refine .waits opened (by simp [silent]) ?_ (Or.inl rfl)
  rintro edge down rfl
  cases edge <;> cases silent

theorem reduceOpen_responds {session : Session} {trigger : Trigger}
    (opened : session.closing = false) :
    Response session trigger (reduceOpen session trigger).1 (reduceOpen session trigger).2 := by
  cases trigger with
  | button mask down =>
      by_cases left : mask = Button.left
      · subst left
        rw [reduceOpen, if_pos rfl]
        exact capturingEdge_responds opened .left down
      · rw [reduceOpen, if_neg left]
        apply plainInput_responds opened rfl
        intro edge down'
        cases edge <;> simp [Edge.input, Input.trigger, left]
  | key code down =>
      by_cases enter : some code = enterKey
      · obtain rfl : code = .usage 0x28#8 := Option.some.inj (enter.trans enterKey_eq)
        rw [reduceOpen, if_pos enterKey_eq.symm]
        exact capturingEdge_responds opened .enter down
      · rw [reduceOpen, if_neg enter]
        apply plainInput_responds opened rfl
        intro edge down'
        rw [enterKey_eq, Option.some.injEq] at enter
        cases edge <;> simp [Edge.input, Input.trigger, enter]
  | motion event =>
      apply plainInput_responds opened rfl
      intro edge down
      cases edge <;> simp [Edge.input, Input.trigger]
  | focusLost =>
      by_cases busy : session.capture ≠ .released
      · simpa only [reduceOpen, if_pos busy] using
          .leaves opened busy .focusLost rfl session.notice
      · simpa only [reduceOpen, if_neg busy] using inert_responds opened rfl
  | inhibitorInactive =>
      by_cases busy : session.capture ≠ .released
      · simpa only [reduceOpen, if_pos busy] using
          .leaves opened busy .userRequested rfl session.notice
      · simpa only [reduceOpen, if_neg busy] using inert_responds opened rfl
  | releaseKey =>
      by_cases busy : session.capture ≠ .released
      · simpa only [reduceOpen, if_pos busy] using
          .leaves opened busy .userRequested rfl session.notice
      · simpa only [reduceOpen, if_neg busy] using inert_responds opened rfl
  | submitFailed error =>
      by_cases busy : session.capture ≠ .released
      · simp only [reduceOpen, if_pos busy]
        cases noticeFor error with
        | none => exact .leaves opened busy (reasonFor error) rfl session.notice
        | some notice => exact .leaves opened busy (reasonFor error) rfl (some notice)
      · simpa only [reduceOpen, if_neg busy] using inert_responds opened rfl
  | engageSucceeded =>
      by_cases engaging : session.capture = .engaging
      · simpa only [reduceOpen, if_pos engaging] using .engages opened engaging rfl
      · simpa only [reduceOpen, if_neg engaging] using inert_responds opened rfl
  | retry =>
      by_cases engaging : session.capture = .engaging
      · simp only [reduceOpen, if_pos engaging]
        refine .waits opened (by simp [Trigger.event]) ?_ (Or.inr ⟨engaging, rfl⟩)
        intro edge down same
        cases edge <;> cases same
      · simpa only [reduceOpen, if_neg engaging] using inert_responds opened rfl
  | engageDeferred => exact inert_responds opened rfl
  | closeRequested => exact inert_responds opened rfl

theorem reduce_responds (session : Session) (trigger : Trigger) :
    Response session trigger (reduce session trigger).1 (reduce session trigger).2 := by
  unfold reduce
  by_cases asked : trigger = .closeRequested
  · rw [if_pos asked]
    by_cases closing : session.closing = true
    · rw [if_pos closing]
      exact .closed closing (Or.inr rfl)
    · rw [if_neg closing]
      exact .closes (by simpa using closing) asked
  · rw [if_neg asked]
    by_cases closing : session.closing = true
    · rw [if_pos closing]
      exact .closed closing (Or.inl rfl)
    · rw [if_neg closing]
      exact reduceOpen_responds (by simpa using closing)

end NanoKvm.Viewer
