import NanoKvm.Viewer.Response

/-!
# Whole histories of the capture state machine

A history is the turns one session takes for a list of triggers.  A consumed
press owes its up until the up comes, until everything is released, or until a
press of the same edge is forwarded in its place.
-/

set_option autoImplicit false

namespace NanoKvm.Viewer

open NanoKvm.Proto
open NanoKvm.Input (Event ReleaseReason SubmitError)

/-- A trigger and the session it finds. -/
structure Turn where
  before : Session
  trigger : Trigger
  deriving DecidableEq, Repr

def Turn.after (turn : Turn) : Session := (reduce turn.before turn.trigger).1

def Turn.actions (turn : Turn) : List Action := (reduce turn.before turn.trigger).2

def history : Session → List Trigger → List Turn
  | _, [] => []
  | session, trigger :: rest =>
      ⟨session, trigger⟩ :: history (reduce session trigger).1 rest

/-- Everything is released in this turn. -/
def Turn.Releases (turn : Turn) : Prop := ∃ reason, .releaseAll reason ∈ turn.actions

theorem Turn.responds (turn : Turn) :
    Response turn.before turn.trigger turn.after turn.actions :=
  reduce_responds turn.before turn.trigger

/-- The rest of a history is a history, from a session that has what the turns before
it preserve. -/
theorem history_split {P : Session → Prop} {session : Session} {triggers : List Trigger}
    {earlier rest : List Turn} (split : history session triggers = earlier ++ rest)
    (holds : P session) (keep : ∀ turn ∈ earlier, P turn.before → P turn.after) :
    ∃ session triggers, rest = history session triggers ∧ P session := by
  induction earlier generalizing session triggers with
  | nil => exact ⟨session, triggers, split.symm, holds⟩
  | cons turn earlier ih =>
      cases triggers with
      | nil => cases split
      | cons trigger triggers =>
          obtain ⟨rfl, later⟩ := List.cons.inj split
          have next : P (Turn.mk session trigger).after := keep _ List.mem_cons_self holds
          exact ih later next fun other member => keep other (List.mem_cons_of_mem _ member)

/-- The first turn of a history finds the session it starts from. -/
theorem history_first {session : Session} {triggers : List Trigger} {turn : Turn}
    {rest : List Turn} (split : turn :: rest = history session triggers) :
    turn.before = session ∧ ∃ triggers, rest = history turn.after triggers := by
  cases triggers with
  | nil => cases split
  | cons trigger triggers =>
      obtain ⟨rfl, later⟩ := List.cons.inj split
      exact ⟨rfl, triggers, later⟩

/-! ## One turn -/

section Turn
variable {turn : Turn} {edge : Edge}

/-- Only a captured session forwards, and it stays captured. -/
theorem forward_captured {event : Event} (forwards : .forward event ∈ turn.actions) :
    turn.before.capture = .captured ∧ turn.after.capture = .captured := by
  have responds := turn.responds
  generalize turn.actions = actions at responds forwards
  generalize turn.after = after at responds ⊢
  cases responds with
  | closed closing exits => rcases exits with rfl | rfl <;> simp at forwards
  | closes opened asked => simp [leaveCapture] at forwards
  | leaves opened busy reason asks notice => simp [leaveCapture] at forwards
  | presses opened captured edge pressed => exact ⟨captured, by simp [captured]⟩
  | passes opened captured event fires spared => exact ⟨captured, captured⟩
  | consumes opened edge pressed asks =>
      rcases asks with ⟨-, rfl⟩ | ⟨-, rfl⟩ <;> simp [beginCapture] at forwards
  | eats opened edge lifted eaten => simp at forwards
  | engages opened engaging asked => simp at forwards
  | waits opened free spared asks =>
      rcases asks with rfl | ⟨-, rfl⟩ <;> simp at forwards

/-- Whoever leaves capture releases everything first, and once. -/
theorem leaving_releases (busy : turn.before.capture ≠ .released)
    (left : turn.after.capture = .released) :
    ∃ reason exits, turn.actions = .releaseAll reason :: .disarmInhibitor :: .releasePointer ::
      exits ∧ (exits = [] ∨ exits = [.exit]) := by
  have responds := turn.responds
  generalize turn.actions = actions at responds ⊢
  generalize turn.after = after at responds left
  cases responds with
  | closed closing exits => exact absurd left busy
  | closes opened asked => exact ⟨.shutdown, [.exit], rfl, Or.inr rfl⟩
  | leaves opened busy reason asks notice => exact ⟨reason, [], rfl, Or.inl rfl⟩
  | presses opened captured edge pressed =>
      rw [setConsumed_capture] at left
      exact absurd left busy
  | passes opened captured event fires spared => exact absurd left busy
  | consumes opened edge pressed asks => cases left
  | eats opened edge lifted eaten =>
      rw [setConsumed_capture] at left
      exact absurd left busy
  | engages opened engaging asked => cases left
  | waits opened free spared asks => exact absurd left busy

/-- The edge's next up is not forwarded. -/
def Owes (edge : Edge) (session : Session) : Prop :=
  session.closing = true ∨ session.consumed edge = true

theorem consumed_capture (session : Session) (capture : CaptureState) (edge : Edge) :
    Session.consumed { session with capture := capture } edge = session.consumed edge := by
  cases edge <;> rfl

/-- A press that finds the session uncaptured is consumed. -/
theorem consumed_owes (pressed : turn.trigger = edge.input.trigger true)
    (free : turn.before.capture ≠ .captured) : Owes edge turn.after := by
  have responds := turn.responds
  generalize turn.actions = actions at responds
  generalize turn.after = after at responds ⊢
  rw [pressed] at responds
  cases responds with
  | closed closing exits => exact Or.inl closing
  | closes opened asked => cases edge <;> cases asked
  | leaves opened busy reason asks notice => simp at asks
  | presses opened captured other pressed => exact absurd captured free
  | passes opened captured event fires spared => exact absurd captured free
  | consumes opened other pressed asks =>
      obtain ⟨rfl, -⟩ := edge_trigger_inj pressed
      refine Or.inr ?_
      rw [consumed_capture, consumed_setConsumed, if_pos rfl]
  | eats opened other lifted eaten => cases (edge_trigger_inj lifted).2
  | engages opened engaging asked => cases edge <;> cases asked
  | waits opened free spared asks => cases (spared edge true rfl).1

/-- The up stays owed through everything but itself, a release and a press that is
forwarded. -/
theorem owes_kept (owes : Owes edge turn.before) (quiet : ¬ turn.Releases)
    (held : turn.trigger ≠ edge.input.trigger false)
    (consumed : turn.trigger = edge.input.trigger true → turn.before.capture ≠ .captured) :
    Owes edge turn.after := by
  have responds := turn.responds
  unfold Turn.Releases at quiet
  generalize turn.actions = actions at responds quiet
  generalize turn.after = after at responds ⊢
  cases responds with
  | closed closing exits => exact owes
  | closes opened asked => exact absurd ⟨_, List.mem_cons_self⟩ quiet
  | leaves opened busy reason asks notice => exact absurd ⟨_, List.mem_cons_self⟩ quiet
  | presses opened captured other pressed =>
      have apart : edge ≠ other := by
        rintro rfl
        exact consumed pressed captured
      exact owes.imp (by simp) (by simp [apart])
  | passes opened captured event fires spared => exact owes
  | consumes opened other pressed asks =>
      refine owes.imp (by simp) fun set => ?_
      rw [consumed_capture, consumed_setConsumed]
      split
      · rfl
      · exact set
  | eats opened other lifted eaten =>
      have apart : edge ≠ other := by
        rintro rfl
        exact held lifted
      exact owes.imp (by simp) (by simp [apart])
  | engages opened engaging asked =>
      refine owes.imp id fun set => ?_
      cases edge <;> exact set
  | waits opened free spared asks => exact owes

/-- An up that is owed is not forwarded. -/
theorem owed_eaten (owes : Owes edge turn.before)
    (lifted : turn.trigger = edge.input.trigger false) (event : Event) :
    .forward event ∉ turn.actions := by
  have responds := turn.responds
  generalize turn.actions = actions at responds ⊢
  generalize turn.after = after at responds
  rw [lifted] at responds
  cases responds with
  | closed closing exits => rcases exits with rfl | rfl <;> simp
  | closes opened asked => cases edge <;> cases asked
  | leaves opened busy reason asks notice => simp at asks
  | presses opened captured other pressed => cases (edge_trigger_inj pressed).2
  | passes opened captured event fires spared =>
      have clear := (spared edge false rfl).2
      rcases owes with closing | set
      · rw [closing] at opened
        cases opened
      · rw [clear] at set
        cases set
  | consumes opened other pressed asks => cases (edge_trigger_inj pressed).2
  | eats opened other _ eaten => simp
  | engages opened engaging asked => cases edge <;> cases asked
  | waits opened free spared asks => rcases asks with rfl | ⟨-, rfl⟩ <;> simp

/-- A captured session forwards an up whose press it forwarded. -/
def Forwarding (input : Input) (session : Session) : Prop :=
  session.closing = false ∧ session.capture = .captured ∧
    ∀ edge : Edge, edge.input = input → session.consumed edge = false

theorem forwarded_forwarding {input : Input} {event : Event}
    (pressed : turn.trigger = input.trigger true) (forwards : .forward event ∈ turn.actions) :
    Forwarding input turn.after := by
  have captured := (forward_captured forwards).2
  have responds := turn.responds
  generalize turn.actions = actions at responds forwards
  generalize turn.after = after at responds captured ⊢
  rw [pressed] at responds
  cases responds with
  | closed closing exits => rcases exits with rfl | rfl <;> simp at forwards
  | closes opened asked => cases input <;> cases asked
  | leaves opened busy reason asks notice => simp at asks
  | presses opened held other pressed =>
      refine ⟨by simp [opened], captured, ?_⟩
      intro edge same
      have own := edge_input_inj (same.trans (input_trigger_inj pressed).1)
      simp [own]
  | passes opened held event fires spared =>
      refine ⟨opened, captured, ?_⟩
      rintro edge rfl
      cases (spared edge true rfl).1
  | consumes opened other pressed asks => cases captured
  | eats opened other lifted eaten => simp at forwards
  | engages opened engaging asked => cases input <;> cases asked
  | waits opened free spared asks => rcases asks with rfl | ⟨-, rfl⟩ <;> simp at forwards

theorem forwarding_kept {input : Input} (forwarding : Forwarding input turn.before)
    (still : turn.after.capture = .captured) : Forwarding input turn.after := by
  obtain ⟨opened, captured, clear⟩ := forwarding
  have responds := turn.responds
  generalize turn.actions = actions at responds
  generalize turn.after = after at responds still ⊢
  cases responds with
  | closed closing exits => exact ⟨opened, captured, clear⟩
  | closes _ asked => cases still
  | leaves _ busy reason asks notice => cases still
  | presses _ held other pressed =>
      refine ⟨by simp [opened], still, fun edge same => ?_⟩
      rw [consumed_setConsumed]
      split
      · rfl
      · exact clear edge same
  | passes _ held event fires spared => exact ⟨opened, captured, clear⟩
  | consumes _ other pressed asks => cases still
  | eats _ other lifted eaten =>
      refine ⟨by simp [opened], still, fun edge same => ?_⟩
      rw [consumed_setConsumed]
      split
      · rfl
      · exact clear edge same
  | engages _ engaging asked =>
      rw [captured] at engaging
      cases engaging
  | waits _ free spared asks => exact ⟨opened, captured, clear⟩

theorem forwarding_forwards {input : Input} (forwarding : Forwarding input turn.before)
    (lifted : turn.trigger = input.trigger false) :
    turn.actions = [.forward (input.event false)] := by
  obtain ⟨opened, captured, clear⟩ := forwarding
  have responds := turn.responds
  generalize turn.actions = actions at responds ⊢
  generalize turn.after = after at responds
  rw [lifted] at responds
  cases responds with
  | closed closing exits =>
      rw [opened] at closing
      cases closing
  | closes _ asked => cases input <;> cases asked
  | leaves _ busy reason asks notice => simp at asks
  | presses _ held other pressed => cases (input_trigger_inj pressed).2
  | passes _ held event fires spared =>
      rw [trigger_event] at fires
      rw [Option.some.inj fires]
  | consumes _ other pressed asks => cases (input_trigger_inj pressed).2
  | eats _ other same eaten =>
      rw [clear other (input_trigger_inj same).1.symm] at eaten
      cases eaten
  | engages _ engaging asked => cases input <;> cases asked
  | waits _ free spared asks => exact absurd captured (free (by simp))

/-- Before a request to close, only a refused submission releases for a shutdown. -/
theorem shutdown_refused (other : turn.trigger ≠ .closeRequested)
    (shutdown : .releaseAll .shutdown ∈ turn.actions) :
    turn.trigger = .submitFailed .shuttingDown := by
  have responds := turn.responds
  generalize turn.actions = actions at responds shutdown
  generalize turn.after = after at responds
  cases responds with
  | closed closing exits => rcases exits with rfl | rfl <;> simp at shutdown
  | closes opened asked => exact absurd asked other
  | leaves opened busy reason asks notice =>
      obtain rfl : reason = .shutdown := by simpa [leaveCapture, eq_comm] using shutdown
      generalize turn.trigger = trigger at asks
      cases trigger with
      | submitFailed error => cases error <;> simp_all [Trigger.reason, reasonFor]
      | _ => cases asks
  | presses opened captured edge pressed => simp at shutdown
  | passes opened captured event fires spared => simp at shutdown
  | consumes opened edge pressed asks =>
      rcases asks with ⟨-, rfl⟩ | ⟨-, rfl⟩ <;> simp [beginCapture] at shutdown
  | eats opened edge lifted eaten => simp at shutdown
  | engages opened engaging asked => simp at shutdown
  | waits opened free spared asks =>
      rcases asks with rfl | ⟨-, rfl⟩ <;> simp at shutdown

/-- A closing session asks for nothing but the exit. -/
theorem closing_silent (closing : turn.before.closing = true) :
    turn.after = turn.before ∧ (turn.actions = [] ∨ turn.actions = [.exit]) := by
  have responds := turn.responds
  generalize turn.actions = actions at responds ⊢
  generalize turn.after = after at responds ⊢
  cases responds with
  | closed _ exits => exact ⟨rfl, exits⟩
  | _ opened => simp [closing] at opened

/-- Only a request to close closes. -/
theorem open_kept (opened : turn.before.closing = false) (other : turn.trigger ≠ .closeRequested) :
    turn.after.closing = false := by
  have responds := turn.responds
  generalize turn.actions = actions at responds
  generalize turn.after = after at responds ⊢
  cases responds with
  | closed closing exits => exact opened
  | closes _ asked => exact absurd asked other
  | leaves _ busy reason asks notice => exact opened
  | presses _ held other pressed => simp [opened]
  | passes _ held event fires spared => exact opened
  | consumes _ other pressed asks => simp [opened]
  | eats _ other lifted eaten => simp [opened]
  | engages _ engaging asked => exact opened
  | waits _ free spared asks => exact opened

end Turn

/-! ## Histories -/

/-- What holds of a whole history. -/
structure Orderly (turns : List Turn) : Prop where
  /-- Only a captured session forwards. -/
  captured : ∀ turn ∈ turns, ∀ event, .forward event ∈ turn.actions →
    turn.before.capture = .captured
  /-- A press that finds the session uncaptured is not forwarded, and neither is the next
  up of its edge, unless everything was released or another press forwarded between. -/
  eaten : ∀ earlier press between up later, ∀ edge : Edge,
    turns = earlier ++ press :: (between ++ up :: later) →
    press.trigger = edge.input.trigger true → press.before.capture ≠ .captured →
    (∀ turn ∈ between, ¬ turn.Releases ∧ turn.trigger ≠ edge.input.trigger false ∧
      (turn.trigger = edge.input.trigger true → turn.before.capture ≠ .captured)) →
    up.trigger = edge.input.trigger false →
    ∀ event, .forward event ∉ press.actions ∧ .forward event ∉ up.actions
  /-- A forwarded press is followed by its up, while the session stays captured. -/
  followed : ∀ earlier press between up later, ∀ input : Input,
    turns = earlier ++ press :: (between ++ up :: later) →
    press.trigger = input.trigger true → .forward (input.event true) ∈ press.actions →
    (∀ turn ∈ between, turn.after.capture = .captured) →
    up.trigger = input.trigger false → up.actions = [.forward (input.event false)]
  /-- Leaving capture releases everything, once and before anything else. -/
  left : ∀ turn ∈ turns, turn.before.capture ≠ .released → turn.after.capture = .released →
    ∃ reason exits, turn.actions = .releaseAll reason :: .disarmInhibitor :: .releasePointer ::
      exits ∧ (exits = [] ∨ exits = [.exit])
  /-- The first request to close releases everything, once, and nothing follows but
  exits; only a submission refused for the shutdown has released for it before. -/
  closed : ∀ earlier close later, turns = earlier ++ close :: later →
    (∀ turn ∈ earlier, turn.trigger ≠ .closeRequested) → close.trigger = .closeRequested →
    close.actions = [.releaseAll .shutdown, .disarmInhibitor, .releasePointer, .exit] ∧
      close.after.capture = .released ∧
      (∀ turn ∈ later, turn.after.capture = .released ∧
        (turn.actions = [] ∨ turn.actions = [.exit])) ∧
      ∀ turn ∈ earlier, .releaseAll .shutdown ∈ turn.actions →
        turn.trigger = .submitFailed .shuttingDown

theorem closing_history {session : Session} {triggers : List Trigger}
    (closing : session.closing = true) (released : session.capture = .released) :
    ∀ turn ∈ history session triggers, turn.after.capture = .released ∧
      (turn.actions = [] ∨ turn.actions = [.exit]) := by
  induction triggers generalizing session with
  | nil => simp [history]
  | cons trigger triggers ih =>
      obtain ⟨same, silent⟩ := closing_silent (show (Turn.mk session trigger).before.closing = true
        from closing)
      have next : (reduce session trigger).1 = session := same
      intro turn member
      rw [history, next] at member
      rcases List.mem_cons.mp member with rfl | later
      · exact ⟨same.symm ▸ released, silent⟩
      · exact ih closing released turn later

/-- Every history from a new session is orderly. -/
theorem history_orderly (triggers : List Trigger) : Orderly (history Session.new triggers) := by
  refine ⟨?_, ?_, ?_, ?_, ?_⟩
  · intro turn _ event forwards
    exact (forward_captured forwards).1
  · intro earlier press between up later edge split pressed free quiet lifted event
    refine ⟨fun forwards => free (forward_captured forwards).1, ?_⟩
    obtain ⟨session, rest, found, -⟩ :=
      history_split split (P := fun _ => True) trivial fun _ _ _ => trivial
    obtain ⟨-, rest, after⟩ := history_first found
    obtain ⟨session, rest, found, owes⟩ := history_split after.symm (consumed_owes pressed free)
      fun turn member owes =>
        owes_kept owes (quiet turn member).1 (quiet turn member).2.1 (quiet turn member).2.2
    obtain ⟨rfl, -⟩ := history_first found
    exact owed_eaten owes lifted event
  · intro earlier press between up later input split pressed forwards still lifted
    obtain ⟨session, rest, found, -⟩ :=
      history_split split (P := fun _ => True) trivial fun _ _ _ => trivial
    obtain ⟨-, rest, after⟩ := history_first found
    obtain ⟨session, rest, found, forwarding⟩ := history_split after.symm
      (forwarded_forwarding pressed forwards)
      fun turn member forwarding => forwarding_kept forwarding (still turn member)
    obtain ⟨rfl, -⟩ := history_first found
    exact forwarding_forwards forwarding lifted
  · intro turn _ busy left
    exact leaving_releases busy left
  · intro earlier close later split first asked
    obtain ⟨session, rest, found, opened⟩ := history_split split
      (P := fun session => session.closing = false) rfl
      fun turn member opened => open_kept opened (first turn member)
    obtain ⟨rfl, rest, after⟩ := history_first found
    have leaves : close.after = { (release close.before .shutdown).1 with closing := true } ∧
        close.actions = leaveCapture .shutdown ++ [.exit] := by
      simp [Turn.after, Turn.actions, reduce, asked, opened, release]
    have silent : ∀ turn ∈ later, turn.after.capture = .released ∧
        (turn.actions = [] ∨ turn.actions = [.exit]) := by
      rw [after]
      apply closing_history
      · rw [leaves.1]
      · rw [leaves.1]
        rfl
    refine ⟨leaves.2, by rw [leaves.1]; rfl, silent, ?_⟩
    intro turn member shutdown
    exact shutdown_refused (first turn member) shutdown

/-- Engaging becomes captured without a release; the up after a press that was consumed
and one that was forwarded is forwarded; and a submission refused for the shutdown
releases for it before the close does. -/
theorem history_corners :
    (history Session.new [.button Button.left true, .engageSucceeded, .button Button.left true,
        .button Button.left false]).map (fun turn => (turn.after.capture, turn.actions)) =
      [(.engaging, [.armInhibitor, .grabPointer, .tryEngage]), (.captured, []),
        (.captured, [.forward (.button Button.left true)]),
        (.captured, [.forward (.button Button.left false)])] ∧
    (history Session.new [.button Button.left true, .engageSucceeded,
        .submitFailed .shuttingDown, .closeRequested]).map Turn.actions =
      [[.armInhibitor, .grabPointer, .tryEngage], [],
        [.releaseAll .shutdown, .disarmInhibitor, .releasePointer],
        [.releaseAll .shutdown, .disarmInhibitor, .releasePointer, .exit]] := by
  decide

end NanoKvm.Viewer
