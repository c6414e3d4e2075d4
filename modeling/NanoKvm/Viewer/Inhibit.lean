import NanoKvm.Viewer.Response
import NanoKvm.Viewer.Route

/-!
# The shortcut inhibitor

`viewer/wayland.rs` with the parts of `viewer/app.rs` that hold it: the event loop
performs what the capture state machine asks for, the dispatch thread reports what
the compositor says, and both end before winit closes the display.  A step of the
event loop performs one action, so the other thread moves between two of them.
-/

set_option autoImplicit false

namespace NanoKvm.Viewer.Inhibit

open NanoKvm.Input (SubmitError)

inductive InhibitEvent where
  | active
  | inactive
  deriving DecidableEq, Repr

/-- The inhibitor's object is known by its number. -/
structure ShortcutInhibit where
  inhibitor : Option Nat
  displayGone : Bool
  deriving DecidableEq, Repr

/-- Where the dispatch thread stands. -/
inductive Dispatch where
  | absent
  /-- At the head of its loop, before the look at the stop flag. -/
  | looking
  | reading
  | storing (reported : InhibitEvent)
  | notifying (reported : InhibitEvent)
  | ended
  deriving DecidableEq, Repr

inductive Stage where
  | running
  /-- In `exiting`, where the inhibitor's drop joins the thread. -/
  | exiting
  | exited
  /-- `run_app` is back, and the display is closed. -/
  | returned
  | abandoned
  | dropping
  | done
  deriving DecidableEq, Repr

inductive Caller where
  | eventLoop
  | dispatchThread
  deriving DecidableEq, Repr

structure Desk where
  session : Session
  /-- What is still to be performed of the trigger at hand. -/
  agenda : List Action
  pointer : PointerMode
  window : Bool
  grab : Bool
  inhibit : Option ShortcutInhibit
  tornDown : Bool
  stage : Stage
  active : Bool
  stop : Bool
  dispatch : Dispatch
  /-- The user events on their way to the loop. -/
  mail : List InhibitEvent
  display : Bool
  /-- The compositor's inhibitors on the window's surface. -/
  live : List Nat
  made : Nat
  queued : List (Nat × InhibitEvent)
  /-- Nothing reads these: whether the loop has left by `exiting`, and the calls into a display
  that is closed. -/
  exitingRan : Bool
  fouls : List Caller
  deriving DecidableEq, Repr

def Desk.start (pointer : PointerMode) : Desk where
  session := Session.new
  agenda := []
  pointer
  window := false
  grab := false
  inhibit := none
  tornDown := false
  stage := .running
  active := false
  stop := false
  dispatch := .absent
  mail := []
  display := true
  live := []
  made := 0
  queued := []
  exitingRan := false
  fouls := []

section Operations
variable (desk : Desk)

def Desk.held : Option Nat := desk.inhibit.bind (·.inhibitor)

def Desk.calls (caller : Caller) : Desk :=
  { desk with fouls := if desk.display then desk.fouls else desk.fouls ++ [caller] }

def Desk.arm : Desk :=
  match desk.inhibit with
  | none => desk
  | some inhibit =>
      if inhibit.inhibitor.isSome || inhibit.displayGone then desk
      else
        { desk.calls .eventLoop with
          inhibit := some { inhibit with inhibitor := some desk.made }
          live := desk.live ++ [desk.made]
          made := desk.made + 1 }

def Desk.disarm : Desk :=
  match desk.inhibit with
  | none | some ⟨none, _⟩ => desk
  | some ⟨some id, displayGone⟩ =>
      let desk := { desk with inhibit := some ⟨none, displayGone⟩, active := false }
      if displayGone then desk
      else { desk.calls .eventLoop with live := desk.live.erase id }

/-- `granted` is the compositor's answer for either mode. -/
def Desk.grabPointer (granted : Bool) : Desk :=
  if desk.pointer = .relative && desk.window && granted then { desk with grab := true } else desk

def Desk.ungrab : Desk := if desk.window then { desk with grab := false } else desk

/-- The session moves, and what it asks for is performed before the rest. -/
def Desk.feed (trigger : Trigger) : Desk :=
  { desk with
    session := (reduce desk.session trigger).1
    agenda := (reduce desk.session trigger).2 ++ desk.agenda }

/-- What the producer and the compositor answer. -/
structure Answer where
  engage : Bool
  submit : Option SubmitError
  granted : Bool
  deriving DecidableEq, Repr

def Desk.perform (answer : Answer) : Action → Desk
  | .armInhibitor => desk.arm
  | .disarmInhibitor => desk.disarm
  | .grabPointer => desk.grabPointer answer.granted
  | .releasePointer => desk.ungrab
  | .tryEngage => desk.feed (if answer.engage then .engageSucceeded else .engageDeferred)
  | .releaseAll _ | .exit => desk
  | .forward _ =>
      match answer.submit with
      | none => desk
      | some error => desk.feed (.submitFailed error)

/-- `SetMouseMode`, of the chrome. -/
def Desk.setMouseMode (mode : PointerMode) (granted : Bool) : Desk :=
  let desk := { desk with pointer := mode }
  if desk.session.capture = .captured then
    match mode with
    | .relative => desk.grabPointer granted
    | .absolute => desk.ungrab
  else desk

/-- Up to the join of the dispatch thread: `joining` while there is one, `finished` otherwise. -/
def Desk.teardown (joining finished : Stage) : Desk :=
  if desk.tornDown then { desk with stage := finished }
  else
    let desk := ({ desk with tornDown := true }.ungrab).disarm
    if desk.inhibit.isSome then { desk with inhibit := none, stop := true, stage := joining }
    else { desk with stage := finished }

end Operations

inductive Label where
  /-- `none` where the window, the GPU or the renderer failed, and whether there is inhibition. -/
  | resumed (made : Option Bool)
  | trigger (trigger : Trigger)
  | perform (answer : Answer)
  | userEvent
  | setMouseMode (mode : PointerMode) (granted : Bool)
  | exiting
  | joined
  | returned
  | abandonDisplay
  | teardown
  | look
  /-- One round through the queue and the socket that brought nothing. -/
  | round
  | deliver
  | discard
  | fail
  | store
  | notify
  | say (id : Nat) (event : InhibitEvent)
  deriving DecidableEq, Repr

def Desk.idle (desk : Desk) : Bool := decide (desk.stage = .running ∧ desk.agenda = [])

def Desk.step (label : Label) (desk : Desk) : Option Desk :=
  match label with
  | .resumed made =>
      if desk.idle && !desk.window then
        match made with
        | none => some desk
        | some false => some { desk with window := true }
        | some true =>
            some { desk with
              window := true
              inhibit := some ⟨none, false⟩
              dispatch := .looking }
      else none
  -- Input comes to a window only.
  | .trigger trigger =>
      if desk.idle && (desk.window || trigger.event.isNone) then some (desk.feed trigger) else none
  | .perform answer =>
      match desk.agenda with
      | [] => none
      | action :: rest => some (({ desk with agenda := rest } : Desk).perform answer action)
  | .userEvent =>
      match desk.mail with
      | [] => none
      | event :: rest =>
          if desk.idle then
            let desk := { desk with mail := rest }
            match event with
            | .active => some desk
            | .inactive => some (desk.feed .inhibitorInactive)
          else none
  | .setMouseMode mode granted =>
      if desk.idle && desk.window then some (desk.setMouseMode mode granted) else none
  | .exiting =>
      if desk.idle then some { desk.teardown .exiting .exited with exitingRan := true } else none
  | .joined =>
      if desk.dispatch = .ended then
        match desk.stage with
        | .exiting => some { desk with stage := .exited }
        | .dropping => some { desk with stage := .done }
        | _ => none
      else none
  -- A loop that fails returns without `exiting`.
  | .returned =>
      if desk.idle || desk.stage = .exited then
        some { desk with stage := .returned, display := false, live := [] }
      else none
  | .abandonDisplay =>
      if desk.stage = .returned then
        some { desk with
          stage := .abandoned
          inhibit := desk.inhibit.map fun inhibit => { inhibit with displayGone := true } }
      else none
  | .teardown =>
      if desk.stage = .abandoned then some (desk.teardown .dropping .done) else none
  | .look =>
      if desk.dispatch = .looking then
        some { desk with dispatch := if desk.stop then .ended else .reading }
      else none
  | .round =>
      if desk.dispatch = .reading then
        some { desk.calls .dispatchThread with dispatch := .looking }
      else none
  | .deliver =>
      match desk.dispatch, desk.queued with
      | .reading, (_, event) :: rest =>
          some { desk.calls .dispatchThread with dispatch := .storing event, queued := rest }
      | _, _ => none
  -- What was said of an object destroyed since.
  | .discard =>
      match desk.dispatch, desk.queued with
      | .reading, (id, _) :: rest =>
          if id ∈ desk.live then none
          else some { desk.calls .dispatchThread with queued := rest }
      | _, _ => none
  | .fail =>
      if desk.dispatch = .reading then some { desk.calls .dispatchThread with dispatch := .ended }
      else none
  | .store =>
      match desk.dispatch with
      | .storing reported =>
          some { desk with
            active := decide (reported = .active)
            dispatch := .notifying reported }
      | _ => none
  | .notify =>
      match desk.dispatch with
      | .notifying reported =>
          some { desk with mail := desk.mail ++ [reported], dispatch := .reading }
      | _ => none
  | .say id event =>
      if desk.display && decide (id ∈ desk.live) then
        some { desk with queued := desk.queued ++ [(id, event)] }
      else none

end NanoKvm.Viewer.Inhibit
