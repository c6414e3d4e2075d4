import NanoKvm.Viewer.Outstanding
import NanoKvm.Viewer.State

/-!
# Where an event goes

`viewer/chrome/route.rs` and the key and button mapping of `viewer/input_map.rs`.
-/

set_option autoImplicit false

namespace NanoKvm.Viewer

open NanoKvm.Proto

/-! ## Mapping -/

/-- What a key event means to the viewer. -/
inductive KeyAction where
  | forward (key : HidKey) (down : Bool)
  | release
  | paste
  | swallowed
  | unmapped
  deriving DecidableEq, Repr

def mapKey (code : KeyCode) (pressed repeated shift : Bool) : KeyAction :=
  if repeated then .swallowed
  else if code = .pause then
    match pressed, shift with
    | true, true => .paste
    | true, false => .release
    | false, _ => .swallowed
  else
    match hidKey code with
    | some key => .forward key pressed
    | none => .unmapped

inductive MouseButton where
  | left
  | right
  | middle
  | back
  | forward
  | other (number : Nat)
  deriving DecidableEq, Repr

def mapButton : MouseButton → Option U8
  | .left => some Button.left
  | .right => some Button.right
  | .middle => some Button.middle
  | .back => some Button.back
  | .forward => some Button.forward
  | .other _ => none

/-! ## Routing -/

inductive PointerMode where
  | absolute
  | relative
  deriving DecidableEq, Repr

inductive Sink where
  | target
  | chrome
  | dropped
  deriving DecidableEq, Repr

inductive PointerKind where
  | motion
  | button (mask : U8) (down : Bool)
  | wheel
  deriving DecidableEq, Repr

structure RouteInputs where
  capture : CaptureState
  pointer : PointerMode
  popoverOpen : Bool
  modalOpen : Bool
  pointerOverChrome : Bool
  pasteRunning : Bool
  pointerLocked : Bool
  outstanding : Outstanding
  pasteHeld : Outstanding
  deriving DecidableEq, Repr

/-- The grab is in force, so the pointer cannot get to the chrome. -/
def RouteInputs.chromeUnreachable (inputs : RouteInputs) : Bool :=
  inputs.capture = .captured && inputs.pointer = .relative && inputs.pointerLocked

def routeKey (inputs : RouteInputs) : KeyAction → Sink
  | .release => .target
  | .paste => .target
  | .swallowed | .unmapped => .dropped
  | .forward key down =>
      if !down && inputs.outstanding.holdsKey key && !inputs.pasteHeld.holdsKey key then .target
      else if inputs.pasteRunning then .dropped
      else if inputs.chromeUnreachable then .target
      else if inputs.popoverOpen || inputs.modalOpen then .chrome
      else .target

/-- The chord starts a paste when idle and is the release key when one is running. -/
def resolvePasteChord (action : KeyAction) (pasteRunning : Bool) : KeyAction :=
  match action with
  | .paste => if pasteRunning then .release else .paste
  | other => other

/-- The up of a button the target holds. -/
def RouteInputs.ownedUp (inputs : RouteInputs) : PointerKind → Bool
  | .button mask false => inputs.outstanding.holdsButton mask
  | _ => false

def PointerKind.isPress : PointerKind → Bool
  | .button _ true => true
  | _ => false

def routePointer (inputs : RouteInputs) (kind : PointerKind) : Sink :=
  if inputs.ownedUp kind then .target
  else if !inputs.chromeUnreachable &&
      (inputs.pointerOverChrome || inputs.popoverOpen || inputs.modalOpen) then .chrome
  else if inputs.pasteRunning && kind.isPress then .dropped
  else .target

/-! ## Host inputs -/

/-- A physical key or button of the host. -/
inductive Physical where
  | key (code : KeyCode)
  | button (button : MouseButton)
  deriving DecidableEq, Repr

/-- What forwarding a physical input puts down on the target, if it is mapped. -/
def Physical.input : Physical → Option Input
  | .key code => if code = .pause then none else (hidKey code).map .key
  | .button which => (mapButton which).map .button

theorem physical_single {physical : Physical} {input : Input}
    (mapped : physical.input = some input) : input.Single := by
  cases physical with
  | key code =>
      by_cases pause : code = .pause
      · simp [Physical.input, pause] at mapped
      · simp only [Physical.input, if_neg pause, Option.map_eq_some_iff] at mapped
        obtain ⟨key, found, rfl⟩ := mapped
        exact hidKey_single found
  | button which =>
      cases which <;> simp only [Physical.input, mapButton, Option.map_some, Option.map_none,
        Option.some.injEq, reduceCtorEq] at mapped <;> subst mapped <;> change Lib.IsBit _ <;>
        decide

/-- Host repeats and both edges of the release key are never forwarded. -/
theorem mapKey_forward {code : KeyCode} {pressed repeated shift down : Bool} {key : HidKey}
    (mapped : mapKey code pressed repeated shift = .forward key down) :
    repeated = false ∧ down = pressed ∧ (Physical.key code).input = some (.key key) := by
  unfold mapKey at mapped
  by_cases again : repeated = true
  · simp [again] at mapped
  by_cases pause : code = .pause
  · cases pressed <;> cases shift <;> simp [again, pause] at mapped
  rw [if_neg again, if_neg pause] at mapped
  cases found : hidKey code with
  | none => simp [found] at mapped
  | some key' =>
      simp only [found, KeyAction.forward.injEq] at mapped
      obtain ⟨rfl, rfl⟩ := mapped
      exact ⟨by simpa using again, rfl, by simp [Physical.input, pause, found]⟩

end NanoKvm.Viewer
