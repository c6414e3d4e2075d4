import NanoKvm.Input.Shared
import NanoKvm.Proto.Keymap

/-!
# The capture state machine

`viewer/state.rs`.  The click or Enter that engages capture is consumed, its
release with it.
-/

set_option autoImplicit false

namespace NanoKvm.Viewer

open NanoKvm.Proto
open NanoKvm.Input (Event ReleaseReason SubmitError)

inductive CaptureState where
  | released
  | engaging
  | captured
  deriving DecidableEq, Repr

inductive Notice where
  | overflow
  | linkDown
  deriving DecidableEq, Repr

structure Session where
  capture : CaptureState
  consumedLeft : Bool
  consumedEnter : Bool
  closing : Bool
  notice : Option Notice
  deriving DecidableEq, Repr

def Session.new : Session := ⟨.released, false, false, false, none⟩

inductive Trigger where
  | key (key : HidKey) (down : Bool)
  | button (mask : U8) (down : Bool)
  | motion (event : Event)
  | releaseKey
  | focusLost
  | inhibitorInactive
  | submitFailed (error : SubmitError)
  | closeRequested
  | engageSucceeded
  | engageDeferred
  | retry
  deriving DecidableEq, Repr

inductive Action where
  | armInhibitor
  | disarmInhibitor
  | grabPointer
  | releasePointer
  | tryEngage
  | releaseAll (reason : ReleaseReason)
  | forward (event : Event)
  | exit
  deriving DecidableEq, Repr

def leaveCapture (reason : ReleaseReason) : List Action :=
  [.releaseAll reason, .disarmInhibitor, .releasePointer]

def beginCapture : List Action := [.armInhibitor, .grabPointer, .tryEngage]

def noticeFor : SubmitError → Option Notice
  | .overflow => some .overflow
  | .linkDown => some .linkDown
  | .disengaged | .shuttingDown => none

def reasonFor : SubmitError → ReleaseReason
  | .overflow => .overflow
  | .linkDown => .linkDown
  | .disengaged => .captureReleased
  | .shuttingDown => .shutdown

/-- Leave capture and forget the consumed edges. -/
def release (session : Session) (reason : ReleaseReason) : Session × List Action :=
  ({ session with capture := .released, consumedLeft := false, consumedEnter := false },
    leaveCapture reason)

/-- Which session flag belongs to an edge pair that can capture. -/
inductive Edge where
  | left
  | enter
  deriving DecidableEq, Repr

def Session.consumed (session : Session) : Edge → Bool
  | .left => session.consumedLeft
  | .enter => session.consumedEnter

def Session.setConsumed (session : Session) (edge : Edge) (consumed : Bool) : Session :=
  match edge with
  | .left => { session with consumedLeft := consumed }
  | .enter => { session with consumedEnter := consumed }

/-- One transition of a key or button whose press may be consumed to capture. -/
def capturingEdge (session : Session) (down : Bool) (edge : Edge) (event : Event) :
    Session × List Action :=
  if down then
    match session.capture with
    | .captured => (session.setConsumed edge false, [.forward event])
    | .released =>
        ({ session.setConsumed edge true with capture := .engaging }, beginCapture)
    | .engaging => (session.setConsumed edge true, [.tryEngage])
  else if session.consumed edge then (session.setConsumed edge false, [])
  else
    match session.capture with
    | .captured => (session, [.forward event])
    | .engaging => (session, [.tryEngage])
    | .released => (session, [])

/-- Forwarded while captured, a retry while engaging. -/
def plainInput (session : Session) (event : Event) : Session × List Action :=
  match session.capture with
  | .captured => (session, [.forward event])
  | .engaging => (session, [.tryEngage])
  | .released => (session, [])

def enterKey : Option HidKey := hidKey .enter

def reduceOpen (session : Session) : Trigger → Session × List Action
  | .button mask down =>
      if mask = Button.left then
        capturingEdge session down .left (.button Button.left down)
      else plainInput session (.button mask down)
  | .key key down =>
      if some key = enterKey then capturingEdge session down .enter (.key key down)
      else plainInput session (.key key down)
  | .motion event => plainInput session event
  | .focusLost =>
      if session.capture ≠ .released then release session .focusLost else (session, [])
  | .inhibitorInactive | .releaseKey =>
      if session.capture ≠ .released then release session .userRequested else (session, [])
  | .submitFailed error =>
      if session.capture ≠ .released then
        let (session, actions) := release session (reasonFor error)
        match noticeFor error with
        | some notice => ({ session with notice := some notice }, actions)
        | none => (session, actions)
      else (session, [])
  | .engageSucceeded =>
      if session.capture = .engaging then
        ({ session with capture := .captured, notice := none }, [])
      else (session, [])
  | .retry => if session.capture = .engaging then (session, [.tryEngage]) else (session, [])
  | .engageDeferred | .closeRequested => (session, [])

/-- The whole state machine: closing wins and releases once, and nothing moves after it. -/
def reduce (session : Session) (trigger : Trigger) : Session × List Action :=
  if trigger = .closeRequested then
    if session.closing then (session, [.exit])
    else
      let (session, actions) := release session .shutdown
      ({ session with closing := true }, actions ++ [.exit])
  else if session.closing then (session, [])
  else reduceOpen session trigger

end NanoKvm.Viewer
