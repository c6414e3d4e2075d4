import NanoKvm.Proto.Reply
import NanoKvm.Script.Macro
import NanoKvm.Script.Target

/-!
# Delivering a compiled script

`deliver` of `cli/keys.rs` with the guard that releases the keyboard.  The world
answers by count: the n-th look at the signal flag, and the n-th keyboard report
handed to the link.  What is printed is left out.
-/

set_option autoImplicit false

namespace NanoKvm.Cli

open NanoKvm.Proto NanoKvm.Script

inductive CapsLockPolicy where
  | refuse
  | ignore
  | compensate
  deriving DecidableEq, Repr

/-- The delay is in milliseconds. -/
structure Delivery where
  delay : Nat
  dryRun : Bool
  capsLock : CapsLockPolicy
  deriving DecidableEq, Repr

/-- How the text and its compensated version are prepared, before anything is opened. -/
def compiledType (text : List Char) (layout : Layout) : Except CompileError Compiled :=
  match compileType text layout .off with
  | .error error => .error error
  | .ok script =>
      match compileType text layout .compensate with
      | .error error => .error error
      | .ok compensated => .ok ⟨script, some compensated⟩

inductive DeliverError where
  | opening (cause : String)
  | resync (error : LinkError)
  | getInfo (error : LinkError)
  | noTarget
  | capsLock
  | interrupted (sent total : Nat)
  | paused (sent total : Nat)
  | unacknowledged (label : StepLabel) (sent total : Nat) (error : LinkError)
  deriving DecidableEq, Repr

def capsLockRefusal : String :=
  "the target reports CapsLock ON; letters would be typed inverted. Turn it off with " ++
    "\"nanokvm key capslock\", or pass --caps-lock ignore|compensate. No keyboard report was sent."

def progress (sent total : Nat) : String := toString sent ++ " of " ++ toString total ++ " reports"

/-- The messages from the outermost to the cause. -/
def DeliverError.chain (serial : String) (showLabel : StepLabel → String)
    (showError : LinkError → String) : DeliverError → List String
  | .opening cause =>
      ["opening the CH9329 serial link on " ++ serial ++
        ". Check the path and that you can write to it " ++
        "(it is usually owned by the 'uucp' or 'dialout' group).", cause]
  | .resync error => ["resynchronising the CH9329 frame parser on " ++ serial, showError error]
  | .getInfo error => ["GET_INFO on " ++ serial ++ " did not answer", showError error]
  | .noTarget =>
      ["the device reports no target on its HID side: the keystrokes would go nowhere. " ++
        "Refusing to run. No keyboard report was sent."]
  | .capsLock => [capsLockRefusal]
  | .interrupted sent total => ["interrupted after " ++ progress sent total]
  | .paused sent total => ["after " ++ progress sent total, "interrupted"]
  | .unacknowledged label sent total error =>
      [showLabel label ++ " was not acknowledged; " ++ progress sent total ++
        " had been delivered, so the sequence is incomplete", showError error]

/-- The count that the error names. -/
def DeliverError.sent : DeliverError → Option Nat
  | .interrupted sent _ | .paused sent _ | .unacknowledged _ sent _ _ => some sent
  | .opening _ | .resync _ | .getInfo _ | .noTarget | .capsLock => none

/-- An error with a count says it in its first line. -/
theorem chain_progress {error : DeliverError} {sent : Nat} (named : error.sent = some sent)
    (serial : String) (showLabel : StepLabel → String) (showError : LinkError → String) :
    ∃ before total after,
      (error.chain serial showLabel showError).head? =
        some (before ++ progress sent total ++ after) := by
  cases error with
  | interrupted count total =>
      cases named
      exact ⟨"interrupted after ", total, "", by simp [DeliverError.chain]⟩
  | paused count total =>
      cases named
      exact ⟨"after ", total, "", by simp [DeliverError.chain]⟩
  | unacknowledged label count total failure =>
      cases named
      exact ⟨showLabel label ++ " was not acknowledged; ", total,
        " had been delivered, so the sequence is incomplete", rfl⟩
  | opening | resync | getInfo | noTarget | capsLock => cases named

/-- `slices millis look` is how often a pause begun at that look sleeps. -/
structure World where
  opened : Except String Unit
  resynced : Except LinkError Unit
  info : TransactResult
  signal : Nat → Bool
  slices : Nat → Nat → Nat
  answers : Nat → TransactResult

def getInfo : TransactResult → Except LinkError DeviceInfo
  | .error error => .error error
  | .ok reply =>
      match DeviceInfo.parse reply.data with
      | .ok info => .ok info
      -- A malformed payload is reported as `Io`.
      | .error _ => .error .io

theorem compensated_isSome {compiled : Compiled} {capsLockOn : Bool}
    (differs : ¬ (!capsLockOn || !compiled.affectedByCapsLock) = true) :
    compiled.compensated.isSome = true := by
  unfold Compiled.affectedByCapsLock at differs
  cases held : compiled.compensated with
  | none => simp [held] at differs
  | some script => rfl

/-- The policy is asked only where CapsLock is on and the compilations differ. -/
def chooseEncoding (compiled : Compiled) (capsLockOn : Bool) (policy : CapsLockPolicy) :
    Except DeliverError Script :=
  if differs : !capsLockOn || !compiled.affectedByCapsLock then .ok compiled.script
  else
    match policy with
    | .refuse => .error .capsLock
    | .ignore => .ok compiled.script
    | .compensate => .ok (compiled.compensated.get (compensated_isSome differs))

/-! ## The send loop -/

/-- How often the flag was looked at, what the link was handed, how much of it was acknowledged. -/
structure Running where
  looks : Nat
  handed : List KeyboardReport
  sent : Nat
  deriving DecidableEq, Repr

def Running.start : Running := ⟨0, [], 0⟩

section Loop
variable (world : World)

/-- The looks after it, and whether a signal was seen. -/
def pause (looks : Nat) : Nat → Nat × Bool
  | 0 => (looks + 1, world.signal looks)
  | slices + 1 => if world.signal looks then (looks + 1, true) else pause (looks + 1) slices

variable (total : Nat)

def pausing (r : Running) (millis : Nat) : Running × Option DeliverError :=
  match pause world r.looks (world.slices millis r.looks) with
  | (looks, true) => ({ r with looks }, some (.paused r.sent total))
  | (looks, false) => ({ r with looks }, none)

def transact (r : Running) (outgoing : Outgoing) : Running × Option DeliverError :=
  let after := { r with handed := r.handed ++ [outgoing.report] }
  match world.answers r.handed.length with
  | .ok _ => ({ after with sent := r.sent + 1 }, none)
  | .error error => (after, some (.unacknowledged outgoing.label r.sent total error))

variable (delay : Nat)

def runStep (r : Running) (step : Step) : Running × Option DeliverError :=
  let seen := world.signal r.looks
  let r := { r with looks := r.looks + 1 }
  if seen then (r, some (.interrupted r.sent total))
  else
    match step with
    | .wait millis => pausing world total r millis
    | .send outgoing =>
        if 0 < r.sent then
          match pausing world total r delay with
          | (r, some error) => (r, some error)
          | (r, none) => transact world total r outgoing
        else transact world total r outgoing

def runSteps (r : Running) : List Step → Running × Option DeliverError
  | [] => (r, none)
  | step :: rest =>
      match runStep world total delay r step with
      | (r, some error) => (r, some error)
      | (r, none) => runSteps r rest

end Loop

def reportCount (script : Script) : Nat := script.reports.length

inductive Done where
  | rendered
  | delivered (sent : Nat)
  deriving DecidableEq, Repr

/-- The keyboard reports handed to the link, and how the command ends. -/
structure Delivered where
  handed : List KeyboardReport
  result : Except DeliverError Done

/-- `run` under the guard, which releases the keyboard on every way out. -/
def guarded (world : World) (script : Script) (delay : Nat) : Delivered :=
  match runSteps world (reportCount script) delay Running.start script.steps with
  | (r, some error) => ⟨r.handed ++ [KeyboardReport.releaseAll], .error error⟩
  | (r, none) => ⟨r.handed ++ [KeyboardReport.releaseAll], .ok (.delivered r.sent)⟩

/-- Open, gate, guard, send. -/
def deliver (world : World) (compiled : Compiled) (how : Delivery) : Delivered :=
  if how.dryRun then ⟨[], .ok .rendered⟩
  else
    match world.opened with
    | .error cause => ⟨[], .error (.opening cause)⟩
    | .ok () =>
        match world.resynced with
        | .error error => ⟨[], .error (.resync error)⟩
        | .ok () =>
            match getInfo world.info with
            | .error error => ⟨[], .error (.getInfo error)⟩
            | .ok info =>
                if !info.targetConnected then ⟨[], .error .noTarget⟩
                else
                  match chooseEncoding compiled info.capsLock how.capsLock with
                  | .error error => ⟨[], .error error⟩
                  | .ok script => guarded world script how.delay

end NanoKvm.Cli
