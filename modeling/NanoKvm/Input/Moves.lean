import Mathlib.Logic.Relation
import NanoKvm.Input.Ledger

/-!
# The moves of the input path

What the writer's forty-five points come to: it is idle, holds an entry, writes
one, has just lost the link under one, or carries a release through its stages.
A step of the threads is a few moves of this smaller machine, and everything
said of logs is proved of the moves.
-/

set_option autoImplicit false

namespace NanoKvm.Input

open NanoKvm.Proto NanoKvm.Lib

/-- How far the reports of a release in force have got. -/
inductive Stage where
  | unwritten
  | writing (frames : List HidFrame)
  | delivered
  | unsent
  deriving DecidableEq, Repr

inductive Duty where
  | idle
  /-- An entry is popped and not yet taken up. -/
  | holding (entry : Entry)
  | writing (epoch : Nat)
  /-- A report failed; the trigger that follows is owed. -/
  | failing
  | releasing (epoch : Nat) (commissioning : Bool) (stage : Stage)
  /-- The release is recorded and the held state cleared. -/
  | cleared (epoch : Nat) (commissioning : Bool)
  deriving DecidableEq, Repr

def Duty.latched : Duty → Option (Nat × Bool)
  | .releasing epoch commissioning _ | .cleared epoch commissioning => some (epoch, commissioning)
  | _ => none

def Duty.inHand : Duty → Option Nat
  | .holding entry => some entry.epoch
  | .writing epoch => some epoch
  | _ => none

def Pc.duty : Pc → Duty
  | .checkStale entry | .checkLink entry => .holding entry
  | .writeEntry entry => .writing entry.epoch
  | .report epoch _ | .flush epoch _ | .flushCancelled epoch _ => .writing epoch
  | .reportFailed | .triggerLinkDown => .failing
  | .releaseCheck _ epoch _ => .releasing epoch false .unwritten
  | .release owner frames => .releasing owner.epoch owner.commissioning (.writing frames)
  | .releaseFailed owner => .releasing owner.epoch owner.commissioning .unsent
  | .record _ epoch _ .submitted => .releasing epoch false .delivered
  | .record _ epoch _ .unsent => .releasing epoch false .unsent
  | .acknowledge _ epoch => .cleared epoch false
  | .commissionResync _ epoch _ | .commissionDrain _ epoch _ => .releasing epoch true .unwritten
  | .commissionAsk _ epoch _ | .commissionAwait _ epoch _
  | .commissionRecord _ epoch _ (some _) => .releasing epoch true .delivered
  | .commissionRecord _ epoch _ none => .releasing epoch true .unsent
  | .commissionUp _ epoch _ | .commissionAcknowledge _ epoch _ => .cleared epoch true
  | _ => .idle

structure View where
  duty : Duty
  shared : Shared
  mode : PointerMode
  log : List Happening
  deriving DecidableEq, Repr

def Sys.view (sys : Sys) : View := ⟨sys.pc.duty, sys.shared, sys.mode, sys.log⟩

theorem view_at {sys : Sys} {pc : Pc} (point : sys.pc = pc) :
    sys.view = ⟨pc.duty, sys.shared, sys.mode, sys.log⟩ := by
  rw [Sys.view, point]

/-- The shared state the moves speak of is unchanged. -/
structure Shared.Keeps (shared after : Shared) : Prop where
  queue : after.queue = shared.queue
  requested : after.requestedEpoch = shared.requestedEpoch
  acked : after.ackedEpoch = shared.ackedEpoch
  shuttingDown : after.shuttingDown = shared.shuttingDown
  lastRelease : after.lastRelease = shared.lastRelease

/-- The duty a release passes on to once its reports are through or abandoned. -/
inductive Stage.Passes (mode : PointerMode) : Stage → Stage → Prop where
  | begin : Stage.Passes mode .unwritten (.writing (releaseFrames mode))
  | deliver : Stage.Passes mode (.writing []) .delivered
  | abandon (stage : Stage) : Stage.Passes mode stage .unsent

inductive Move (view : View) : View → Prop where
  /-- The link flag, the device reading or admission changes; the link comes up
  only under a release. -/
  | aside {after : Shared} (keeps : view.shared.Keeps after)
      (up : after.linkDown = false →
        view.shared.linkDown = false ∨ view.duty.latched.isSome = true) :
      Move view { view with shared := after }
  | engaged {after : Shared} (keeps : view.shared.Keeps after)
      (down : after.linkDown = view.shared.linkDown)
      (settled : view.shared.ackedEpoch = view.shared.requestedEpoch) :
      Move view { view with
        shared := after
        log := view.log ++ [.engaged view.shared.requestedEpoch] }
  | submitted {event : Event} {after : Shared} (accepted : view.shared.submit event = .ok after)
      (settled : view.shared.ackedEpoch = view.shared.requestedEpoch)
      (free : view.duty.latched = none) :
      Move view { view with
        shared := after
        log := view.log ++ [.submitted event view.shared.requestedEpoch (.ok ())] }
  | refused {event : Event} {refusal : SubmitError}
      (refused : view.shared.submit event = .error refusal)
      (settled : view.shared.engaged = true →
        view.shared.ackedEpoch = view.shared.requestedEpoch ∧ view.duty.latched = none) :
      Move view { view with
        log := view.log ++ [.submitted event view.shared.requestedEpoch (.error refusal)] }
  | raised (slot : ReasonSlot) (shutdown : Bool)
      (within : view.shared.ackedEpoch ≤ view.shared.requestedEpoch) :
      Move view { view with
        shared := view.shared.raise slot shutdown
        log := view.log ++ [.raised (view.shared.requestedEpoch + 1) shutdown] }
  | popped {entry : Entry} {queue : QueueState} (duty : view.duty = .idle)
      (popped : view.shared.queue.pop = some (entry, queue))
      (current : entry.epoch = view.shared.ackedEpoch)
      (settled : view.shared.ackedEpoch = view.shared.requestedEpoch) :
      Move view { view with
        duty := .holding entry
        shared := { view.shared with queue := queue }
        log := view.log ++ [.popped entry] }
  | taken {entry : Entry} (duty : view.duty = .holding entry)
      (current : entry.epoch = view.shared.ackedEpoch) (up : view.shared.linkDown = false) :
      Move view { view with
        duty := .writing entry.epoch
        log := view.log ++ [.takenUp entry] }
  | discarded {entry : Entry} (duty : view.duty = .holding entry)
      (down : view.shared.linkDown = true) : Move view { view with duty := .idle }
  | wrote {epoch : Nat} (duty : view.duty = .writing epoch) (frame : HidFrame)
      (result : TransactResult) (current : epoch = view.shared.ackedEpoch) :
      Move view { view with
        duty := if handed result then .writing epoch else .failing
        log := view.log ++ [.wrote (.entry epoch) frame result] }
  | steered {epoch : Nat} (duty : view.duty = .writing epoch) (after : PointerMode) :
      Move view { view with mode := after }
  | finished {epoch : Nat} (duty : view.duty = .writing epoch) :
      Move view { view with duty := .idle }
  | unlinked {epoch : Nat} (duty : view.duty = .writing epoch) :
      Move view { view with duty := .failing }
  | triggered (duty : view.duty = .failing)
      (behind : view.shared.ackedEpoch < view.shared.requestedEpoch) :
      Move view { view with duty := .idle }
  | asked (free : view.duty = .idle ∨ ∃ epoch stage, view.duty = .releasing epoch true stage) :
      Move view { view with log := view.log ++ [.askedInfo] }
  | informed (result : TransactResult)
      (free : view.duty = .idle ∨ ∃ epoch stage, view.duty = .releasing epoch true stage) :
      Move view { view with log := view.log ++ [.wrote .getInfo Sys.getInfoFrame result] }
  | resynced {epoch : Nat} {stage : Stage} (duty : view.duty = .releasing epoch true stage)
      (ok : Bool) : Move view { view with log := view.log ++ [.resynced ok] }
  | latched (duty : view.duty = .idle)
      (behind : view.shared.ackedEpoch < view.shared.requestedEpoch)
      (empty : view.shared.latch.queue.entries = []) :
      Move view { view with
        duty := .releasing view.shared.requestedEpoch false .unwritten
        shared := view.shared.latch
        log := view.log ++ [.latched view.shared.requestedEpoch false] }
  | commissioned (duty : view.duty = .idle)
      (behind : view.shared.ackedEpoch < view.shared.requestedEpoch)
      (empty : view.shared.queue.entries = []) :
      Move view { view with
        duty := .releasing view.shared.requestedEpoch true .unwritten
        log := view.log ++ [.latched view.shared.requestedEpoch true] }
  | drained {epoch : Nat} {commissioning : Bool} {stage : Stage}
      (duty : view.duty = .releasing epoch commissioning stage) :
      Move view { view with shared := view.shared.drain epoch }
  | passed {epoch : Nat} {commissioning : Bool} {stage after : Stage}
      (duty : view.duty = .releasing epoch commissioning stage)
      (passes : stage.Passes view.mode after) :
      Move view { view with duty := .releasing epoch commissioning after }
  | released {epoch : Nat} {commissioning : Bool} {frame : HidFrame} {rest : List HidFrame}
      (duty : view.duty = .releasing epoch commissioning (.writing (frame :: rest)))
      (result : TransactResult) :
      Move view { view with
        duty := .releasing epoch commissioning (if handed result then .writing rest else .unsent)
        log := view.log ++ [.wrote (.release epoch) frame result] }
  | recorded {epoch : Nat} {commissioning : Bool} {stage : Stage}
      (duty : view.duty = .releasing epoch commissioning stage) (reason : ReleaseReason)
      (outcome : ReleaseOutcome) (earned : outcome = .submitted → stage = .delivered) :
      Move view { view with
        duty := .cleared epoch commissioning
        shared := view.shared.record ⟨epoch, reason, outcome⟩
        mode := .rel }
  | acknowledged {epoch : Nat} {commissioning : Bool}
      (duty : view.duty = .cleared epoch commissioning)
      (above : view.shared.ackedEpoch < epoch) (below : epoch ≤ view.shared.requestedEpoch)
      (empty : view.shared.queue.entries = []) :
      Move view { view with
        duty := .idle
        shared := view.shared.acknowledge epoch
        log := view.log ++ [.acknowledged epoch] }

/-- Finitely many moves. -/
def Moves : View → View → Prop := Relation.ReflTransGen Move

end NanoKvm.Input
