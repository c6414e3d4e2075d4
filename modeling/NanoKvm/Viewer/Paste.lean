import NanoKvm.Input.Queue
import NanoKvm.Script.Compile
import NanoKvm.Viewer.Outstanding

/-!
# Pasting

`viewer/chrome/paste.rs` and `transitions` of `viewer/chrome/shortcut.rs`.  A
refusal carries what its sentence is made from.  The pace is left out: when a
step is due is the event loop's question, and `next_step` answers the step.
-/

set_option autoImplicit false

namespace NanoKvm.Viewer

open NanoKvm.Proto
open NanoKvm.Lib
open NanoKvm.Script
open NanoKvm.Input

inductive Refusal where
  | notCaptured
  | clipboard (reason : String)
  | empty
  | unreachable (layout : Layout) (chars : List (Char × Nat))
  | capsLockOn
  | lockStateUnknown
  | deviceTimeout
  | compile (reason : CompileError)
  deriving DecidableEq, Repr

/-- CRLF and a bare CR become LF. -/
def normalise : List Char → List Char
  | [] => []
  | '\r' :: '\n' :: rest => '\n' :: normalise rest
  | '\r' :: rest => '\n' :: normalise rest
  | c :: rest => c :: normalise rest

/-! ## Edges of an input -/

def Input.event (input : Input) (down : Bool) : Event :=
  match input with
  | .key code => .key code down
  | .button mask => .button mask down

abbrev Input.press (input : Input) : Event := input.event true

abbrev Input.up (input : Input) : Event := input.event false

/-! ## Reports to key transitions -/

def usagesNotIn (report other : KeyboardReport) : List U8 :=
  report.keys.toList.filter fun usage => usage ≠ 0#8 && !other.keys.toList.contains usage

/-- What changes from `held` to `next`: usages up, modifiers up, modifiers down, usages down. -/
def reportDifference (held next : KeyboardReport) : List Event :=
  (usagesNotIn held next).map (fun usage => .key (.usage usage) false) ++
    (setBits (held.modifiers &&& ~~~next.modifiers)).map (fun bit => .key (.modifier bit) false) ++
    (setBits (next.modifiers &&& ~~~held.modifiers)).map (fun bit => .key (.modifier bit) true) ++
    (usagesNotIn next held).map fun usage => .key (.usage usage) true

def transitionsFrom (held : KeyboardReport) : List Step → List Event
  | [] => []
  | .send outgoing :: rest =>
      reportDifference held outgoing.report ++ transitionsFrom outgoing.report rest
  | .wait _ :: rest => transitionsFrom held rest

def transitions (script : Script) : List Event :=
  transitionsFrom KeyboardReport.releaseAll script.steps

/-- Clipboard text to the key transitions that type it, or a refusal.  The lock
state is `none` when the device has not said. -/
def compile (text : List Char) (layout : Layout) (capsLock : Option Bool) :
    Except Refusal (List Event) :=
  let text := normalise text
  if text = [] then .error .empty
  else
    match compileType text layout .off with
    | .error (.unreachable layout chars) => .error (.unreachable layout chars)
    | .error .nothingToType => .error .empty
    | .error e => .error (.compile e)
    | .ok script =>
        match compileType text layout .compensate with
        | .error e => .error (.compile e)
        | .ok compensated =>
            let capsMatters := compensated ≠ script
            match capsLock with
            | none => if capsMatters then .error .lockStateUnknown else .ok (transitions script)
            | some true => if capsMatters then .error .capsLockOn else .ok (transitions script)
            | some false => .ok (transitions script)

/-! ## A paste in progress -/

inductive PasteOutcome where
  | done (total : Nat)
  | cancelled (sent total : Nat)
  | failed (reason : String) (sent total : Nat)
  deriving DecidableEq, Repr

inductive Ending where
  | cancelled
  | failed (reason : String)
  deriving DecidableEq, Repr

/-- What a release-all does to the paste running under it. -/
def endingFor : ReleaseReason → Ending
  | .userRequested | .focusLost | .shutdown => .cancelled
  | .overflow => .failed "input queue overflow; capture again before retrying the paste"
  | .linkDown =>
      .failed ("serial connection lost during paste; some submitted input may not have reached " ++
        "the target")
  | .reconnected =>
      .failed "serial connection restored; capture again before retrying the incomplete paste"
  | .captureReleased => .failed "input capture ended under the paste"

structure PasteJob where
  steps : List Event
  prelude : Nat
  sent : Nat
  held : Outstanding
  outcome : Option PasteOutcome
  deriving DecidableEq, Repr

/-- Up edges of everything the target owns: keys, then buttons. -/
def releasePrelude (outstanding : Outstanding) : List Event :=
  outstanding.heldKeys.map (fun key => .key key false) ++
    outstanding.heldButtons.map fun button => .button button false

def PasteJob.new (outstanding : Outstanding) (body : List Event) : PasteJob where
  steps := releasePrelude outstanding ++ body
  prelude := (releasePrelude outstanding).length
  sent := 0
  held := .none
  outcome := none

def PasteJob.isRunning (job : PasteJob) : Bool := job.outcome.isNone

def PasteJob.nextStep (job : PasteJob) : Option Event :=
  if job.outcome.isSome then none else job.steps[job.sent]?

def PasteJob.fail (job : PasteJob) (reason : String) : PasteJob :=
  if job.outcome.isSome then job
  else { job with outcome := some (.failed reason job.sent job.steps.length) }

/-- What a submitted step does to the set the paste holds; a button press is not a step. -/
def stepHeld (held : Outstanding) : Event → Option Outstanding
  | .key key down => some (held.setKey key down)
  | .button button false => some (held.setButton button false)
  | _ => none

/-- The producer accepted the step `nextStep` returned. -/
def PasteJob.delivered (job : PasteJob) : PasteJob :=
  if job.outcome.isSome then job
  else
    match job.steps[job.sent]?.bind (stepHeld job.held) with
    | none => job.fail "a paste step was neither a key transition nor a button release"
    | some held =>
        { job with
          held
          sent := job.sent + 1
          outcome :=
            if job.sent + 1 = job.steps.length then some (.done (job.sent + 1)) else none }

/-- `end`: the outcome of an unfinished job. -/
def PasteJob.finish (job : PasteJob) (ending : Ending) : PasteJob :=
  if job.outcome.isSome then job
  else
    match ending with
    | .cancelled => { job with outcome := some (.cancelled job.sent job.steps.length) }
    | .failed reason => { job with outcome := some (.failed reason job.sent job.steps.length) }

/-! ## The prelude's inputs -/

def heldInputs (outstanding : Outstanding) : List Input :=
  outstanding.heldKeys.map .key ++ outstanding.heldButtons.map .button

theorem mem_heldInputs {outstanding : Outstanding} {input : Input} :
    input ∈ heldInputs outstanding ↔ input.Single ∧ outstanding.holds input = true := by
  cases input with
  | key key => simp [heldInputs, mem_heldKeys, Outstanding.holds]
  | button mask => simp [heldInputs, mem_heldButtons, Outstanding.holds]

theorem releasePrelude_eq (outstanding : Outstanding) :
    releasePrelude outstanding = (heldInputs outstanding).map Input.up := by
  simp only [releasePrelude, heldInputs, List.map_append, List.map_map]
  rfl

end NanoKvm.Viewer
