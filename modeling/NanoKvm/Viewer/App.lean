import NanoKvm.Lib.Transition
import NanoKvm.Viewer.Paste
import NanoKvm.Viewer.Route

/-!
# The event loop

The routing half of `viewer/app.rs`.  A label is one event the loop handles, with
what the producer and the compositor answer while it is handled.  `down` is what
the host's user holds and `log` what happened; nothing reads either.  The window,
the rendering, the titles and the sub-detent motion accumulators are left out.
-/

set_option autoImplicit false

namespace NanoKvm.Viewer

open NanoKvm.Proto
open NanoKvm.Script (Layout)
open NanoKvm.Input (Event ReleaseReason SubmitError)

inductive PasteState where
  | idle
  | preparing (text : Option (List Char))
  | running (job : PasteJob)
  deriving DecidableEq, Repr

def PasteState.isActive : PasteState → Bool
  | .idle => false
  | _ => true

/-- What a running paste put down. -/
def PasteState.held : PasteState → Outstanding
  | .running job => job.held
  | _ => .none

inductive Origin where
  | host (physical : Physical)
  | paste
  /-- A shortcut of the keyboard popover. -/
  | menu
  | other
  deriving DecidableEq, Repr

inductive Happening where
  | edge (physical : Physical) (down : Bool)
  | forwarded (origin : Origin) (event : Event)
  | releaseAll (reason : ReleaseReason)
  deriving DecidableEq, Repr

structure App where
  session : Session
  pointer : PointerMode
  layout : Layout
  popoverOpen : Bool
  modalOpen : Bool
  pointerOverChrome : Bool
  grab : Bool
  outstanding : Outstanding
  paste : PasteState
  pasteLast : Option PasteOutcome
  pasteRefusal : Option Refusal
  down : List Physical
  log : List Happening
  deriving DecidableEq, Repr

def App.new (pointer : PointerMode) (layout : Layout) : App where
  session := Session.new
  pointer
  layout
  popoverOpen := false
  modalOpen := false
  pointerOverChrome := false
  grab := false
  outstanding := .none
  paste := .idle
  pasteLast := none
  pasteRefusal := none
  down := []
  log := []

/-- `engage` is the producer's, `submit` the refusal if it refuses, `grab` the compositor's. -/
structure Answers where
  engage : Bool
  submit : Option SubmitError
  grab : Bool
  deriving DecidableEq, Repr

def App.routeInputs (app : App) : RouteInputs where
  capture := app.session.capture
  pointer := app.pointer
  popoverOpen := app.popoverOpen
  modalOpen := app.modalOpen
  pointerOverChrome := app.pointerOverChrome
  pasteRunning := app.paste.isActive
  pointerLocked := app.grab
  outstanding := app.outstanding
  pasteHeld := app.paste.held

/-! ## Triggers and actions -/

def Outstanding.record (outstanding : Outstanding) : Event → Outstanding
  | .key key down => outstanding.setKey key down
  | .button button down => outstanding.setButton button down
  | _ => outstanding

/-- End the paste before the release-all it ends under. -/
def App.cancelPaste (app : App) (reason : ReleaseReason) : App :=
  match app.paste with
  | .idle => app
  | .preparing _ => { app with paste := .idle, pasteRefusal := none, pasteLast := none }
  | .running job =>
      { app with paste := .idle, pasteLast := (job.finish (endingFor reason)).outcome }

/-- `perform`, with `feed` for the answers it feeds back. -/
def App.perform (feed : Trigger → App → App) (answers : Answers) (origin : Origin) (app : App) :
    Action → App
  | .armInhibitor | .disarmInhibitor | .exit => app
  | .grabPointer =>
      if app.pointer = .relative && answers.grab then { app with grab := true } else app
  | .releasePointer => { app with grab := false }
  | .tryEngage => feed (if answers.engage then .engageSucceeded else .engageDeferred) app
  | .releaseAll reason =>
      let app := app.cancelPaste reason
      { app with
        outstanding := app.outstanding.clear
        log := app.log ++ [.releaseAll reason] }
  | .forward event =>
      let app :=
        { app with
          outstanding := app.outstanding.record event
          log := app.log ++ [.forwarded origin event] }
      match answers.submit with
      | none => app
      | some error => feed (.submitFailed error) app

def App.feedDepth (answers : Answers) (origin : Origin) : Nat → Trigger → App → App
  | 0, _, app => app
  | depth + 1, trigger, app =>
      (reduce app.session trigger).2.foldl
        (App.perform (App.feedDepth answers origin depth) answers origin)
        { app with session := (reduce app.session trigger).1 }

/-- An answer fed back asks for nothing that is answered in turn, so two levels are all. -/
def App.feed (answers : Answers) (origin : Origin) (trigger : Trigger) (app : App) : App :=
  App.feedDepth answers origin 2 trigger app

/-! ## Pasting -/

def App.refusePaste (app : App) (refusal : Refusal) : App :=
  { app with pasteRefusal := some refusal, pasteLast := none, paste := .idle }

/-- `clipboard` is what the probe and the reader thread's start say. -/
def App.startPaste (app : App) (clipboard : Except String Unit) : App :=
  if app.paste.isActive then app
  else if app.session.capture ≠ .captured then app.refusePaste .notCaptured
  else
    match clipboard with
    | .error reason => app.refusePaste (.clipboard reason)
    | .ok () => { app with paste := .preparing none, pasteRefusal := none }

/-- Compile the clipboard and start the job, or refuse. -/
def App.compileAndStart (app : App) (text : List Char) (capsLock : Option Bool) : App :=
  match compile text app.layout capsLock with
  | .error refusal => app.refusePaste refusal
  | .ok body =>
      { app with
        paste := .running (PasteJob.new app.outstanding body)
        pasteLast := none
        pasteRefusal := none }

/-- One look at what a preparing paste waits for. -/
structure Polled where
  clipboard : Option (Except String (List Char))
  fresh : Bool
  stale : Bool
  deviceCaps : Option Bool
  timedOut : Bool

def clipboardLate : String :=
  "the clipboard was not delivered within 3 s; the application that owns it did not answer"

def App.advancePreparing (app : App) (polled : Polled) : App :=
  match app.paste with
  | .preparing (some text) =>
      if polled.fresh then
        app.compileAndStart text (if polled.stale then none else polled.deviceCaps)
      else if polled.timedOut then app.refusePaste .deviceTimeout
      else app
  | .preparing none =>
      match polled.clipboard with
      | some (.error reason) => app.refusePaste (.clipboard reason)
      | some (.ok text) =>
          let app := { app with paste := .preparing (some text) }
          if polled.fresh then
            app.compileAndStart text (if polled.stale then none else polled.deviceCaps)
          else if polled.timedOut then app.refusePaste .deviceTimeout
          else app
      | none =>
          if polled.timedOut then app.refusePaste (.clipboard clipboardLate) else app
  | _ => app

/-- Move a finished job's outcome out and go idle. -/
def App.finishPasteIfOver (app : App) : App :=
  match app.paste with
  | .running job =>
      match job.outcome with
      | some outcome => { app with paste := .idle, pasteLast := some outcome }
      | none => app
  | _ => app

def App.failPaste (app : App) (reason : String) : App :=
  match app.paste with
  | .running job => App.finishPasteIfOver { app with paste := .running (job.fail reason) }
  | _ => app

/-- The trigger a step of a job is fed as. -/
def stepTrigger : Event → Option Trigger
  | .key key down => some (.key key down)
  | .button button false => some (.button button false)
  | _ => none

/-- Submit at most one due transition. -/
def App.advanceRunning (app : App) (answers : Answers) (due : Bool) : App :=
  if app.session.capture ≠ .captured then app.failPaste "input capture ended under the paste"
  else
    match app.paste with
    | .running job =>
        match (if due then job.nextStep else none) with
        | none => app.finishPasteIfOver
        | some step =>
            match stepTrigger step with
            | none => app.failPaste "a paste step was not a key or a button release"
            | some trigger =>
                let app := app.feed answers .paste trigger
                match app.paste with
                | .running job =>
                    App.finishPasteIfOver { app with paste := .running job.delivered }
                -- `feed` ended the paste itself.
                | _ => app
    | _ => app

def App.advancePaste (app : App) (answers : Answers) (polled : Polled) (due : Bool) : App :=
  match app.paste with
  | .idle => app
  | .preparing _ => app.advancePreparing polled
  | .running _ => app.advanceRunning answers due

/-! ## Events -/

def App.edge (app : App) (physical : Physical) (pressed : Bool) : App :=
  { app with
    down := if pressed then physical :: app.down else app.down.filter (· ≠ physical)
    log := app.log ++ [.edge physical pressed] }

/-- `KeyboardInput`. -/
def App.keyboardInput (app : App) (answers : Answers) (code : KeyCode)
    (pressed repeated shift : Bool) (clipboard : Except String Unit) : App :=
  let action := resolvePasteChord (mapKey code pressed repeated shift) app.paste.isActive
  match routeKey app.routeInputs action with
  | .chrome | .dropped => app
  | .target =>
      match action with
      | .forward key down => app.feed answers (.host (.key code)) (.key key down)
      | .release => app.feed answers .other .releaseKey
      | .paste => app.startPaste clipboard
      | .swallowed | .unmapped => app

/-- `MouseInput`. -/
def App.mouseInput (app : App) (answers : Answers) (which : MouseButton) (pressed : Bool) : App :=
  let mask := (mapButton which).getD 0#8
  match routePointer app.routeInputs (.button mask pressed) with
  | .chrome | .dropped => app
  | .target =>
      if mask ≠ 0#8 then app.feed answers (.host (.button which)) (.button mask pressed) else app

/-- `CursorMoved` in absolute mode, or `MouseWheel`. -/
def App.pointerMoved (app : App) (answers : Answers) (kind : PointerKind) (event : Event) : App :=
  match routePointer app.routeInputs kind with
  | .chrome | .dropped => app
  | .target => app.feed answers .other (.motion event)

inductive Occurrence where
  | key (code : KeyCode) (pressed repeated shift : Bool) (clipboard : Except String Unit)
  | button (which : MouseButton) (pressed : Bool)
  | cursor (x y : U16)
  | wheel (delta : Int)
  | deviceMotion (dx dy : Int)
  | control (trigger : Trigger)
  | flip (pointer : PointerMode) (popoverOpen modalOpen pointerOverChrome grab : Bool)
  | pasteCommand (clipboard : Except String Unit)
  | advancePaste (polled : Polled) (due : Bool)

structure Label where
  occurrence : Occurrence
  answers : Answers

def Trigger.isInput : Trigger → Bool
  | .key _ _ | .button _ _ | .motion _ => true
  | _ => false

/-- A physical input alternates; the host repeats only what is down. -/
def App.allows (app : App) : Occurrence → Bool
  | .key code pressed repeated _ _ =>
      if pressed && !repeated then !app.down.contains (.key code)
      else app.down.contains (.key code)
  | .button which pressed =>
      if pressed then !app.down.contains (.button which) else app.down.contains (.button which)
  | .control trigger => !trigger.isInput
  | _ => true

def App.handle (app : App) (answers : Answers) : Occurrence → App
  | .key code pressed repeated shift clipboard =>
      (if repeated then app else app.edge (.key code) pressed).keyboardInput answers code pressed
        repeated shift clipboard
  | .button which pressed => (app.edge (.button which) pressed).mouseInput answers which pressed
  | .cursor x y =>
      if app.pointer = .absolute then app.pointerMoved answers .motion (.pointerAbs x y) else app
  | .wheel delta => app.pointerMoved answers .wheel (.wheel delta)
  | .deviceMotion dx dy =>
      if app.pointer = .relative then app.feed answers .other (.motion (.pointerRel dx dy))
      else app
  | .control trigger => app.feed answers .other trigger
  | .flip pointer popoverOpen modalOpen pointerOverChrome grab =>
      { app with pointer, popoverOpen, modalOpen, pointerOverChrome, grab }
  | .pasteCommand clipboard => app.startPaste clipboard
  | .advancePaste polled due => app.advancePaste answers polled due

def step (label : Label) (app : App) : Option App :=
  if app.allows label.occurrence then some (app.handle label.answers label.occurrence) else none

def start (app : App) : Prop := ∃ pointer layout, app = App.new pointer layout

end NanoKvm.Viewer
