import NanoKvm.Input.Queue
import NanoKvm.Proto.Reply

/-!
# Admission, cancellation and link state

`input/shared.rs`, and the critical sections of `Producer` in `input/mod.rs`.
Each function here is one section under the queue lock or the link-state lock.
The start of an outage is left out with every other instant.  The two epochs
are natural numbers: a `u64` counter raised once a nanosecond wraps after five
centuries.
-/

set_option autoImplicit false

namespace NanoKvm.Input

open NanoKvm.Proto

inductive ReleaseOutcome where
  | submitted
  | unsent
  deriving DecidableEq, Repr

structure ReleaseRecord where
  epoch : Nat
  reason : ReleaseReason
  outcome : ReleaseOutcome
  deriving DecidableEq, Repr

structure LinkState where
  down : Bool
  deviceInfo : Option DeviceInfo
  infoGeneration : BitVec 64
  infoStale : Bool
  deriving DecidableEq, Repr

structure Shared where
  queue : QueueState
  requestedEpoch : Nat
  ackedEpoch : Nat
  cancel : Bool
  engaged : Bool
  linkDown : Bool
  linkState : LinkState
  refreshInfo : Bool
  shuttingDown : Bool
  lastRelease : Option ReleaseRecord
  deriving DecidableEq, Repr

/-- A fresh session is engaged, and the epochs start equal. -/
def Shared.new (maxBarriers : Nat) : Shared where
  queue := QueueState.new maxBarriers
  requestedEpoch := 0
  ackedEpoch := 0
  cancel := false
  engaged := true
  linkDown := false
  linkState := ⟨false, none, 0#64, false⟩
  refreshInfo := false
  shuttingDown := false
  lastRelease := none

/-! ## Triggers -/

inductive ReasonSlot where
  | note (reason : ReleaseReason)
  | take
  deriving DecidableEq, Repr

def ReasonSlot.apply (slot : ReasonSlot) (queue : QueueState) : QueueState :=
  match slot with
  | .note reason => queue.noteReason reason
  | .take => queue.takeReason

/-- The body every trigger shares. -/
def Shared.raise (shared : Shared) (slot : ReasonSlot) (shuttingDown : Bool) : Shared :=
  { shared with
    shuttingDown := shared.shuttingDown || shuttingDown
    requestedEpoch := shared.requestedEpoch + 1
    queue := slot.apply shared.queue
    cancel := true
    engaged := false }

@[simp] theorem raise_entries (shared : Shared) (slot : ReasonSlot) (shuttingDown : Bool) :
    (shared.raise slot shuttingDown).queue.entries = shared.queue.entries := by
  cases slot <;> simp [Shared.raise, ReasonSlot.apply]

def Shared.trigger (shared : Shared) (reason : ReleaseReason) : Shared :=
  shared.raise (.note reason) false

/-- The reason `begin_reconnect` takes is `shared.queue.pendingReason`. -/
def Shared.beginReconnect (shared : Shared) : Shared := shared.raise .take false

def Shared.beginShutdown (shared : Shared) : Shared := shared.raise (.note .shutdown) true

/-! ## The link and the last `GET_INFO` -/

def Shared.markLinkDown (shared : Shared) : Shared :=
  { shared with linkDown := true, linkState := { shared.linkState with down := true } }

def LinkState.answered (state : LinkState) (info : DeviceInfo) : LinkState :=
  { state with
    deviceInfo := some info
    infoGeneration := state.infoGeneration + 1
    infoStale := false }

def Shared.markLinkUp (shared : Shared) (info : DeviceInfo) : Shared :=
  { shared with
    linkDown := false
    linkState := { shared.linkState.answered info with down := false } }

def Shared.publishDeviceInfo (shared : Shared) (info : DeviceInfo) : Shared :=
  { shared with linkState := shared.linkState.answered info }

def Shared.noteInfoRefreshFailed (shared : Shared) : Shared :=
  { shared with
    linkState := { shared.linkState with
      infoGeneration := shared.linkState.infoGeneration + 1
      infoStale := true } }

/-- The generation a request is against, and the request. -/
def Shared.requestInfoRefresh (shared : Shared) : BitVec 64 × Shared :=
  (shared.linkState.infoGeneration, { shared with refreshInfo := true })

/-! ## The producers' critical sections -/

inductive SubmitError where
  | disengaged
  | overflow
  | linkDown
  | shuttingDown
  deriving DecidableEq, Repr

/-- `submit` up to the end of its critical section; `overflow` still owes its trigger. -/
def Shared.submit (shared : Shared) (event : Event) : Except SubmitError Shared :=
  if shared.shuttingDown then .error .shuttingDown
  else if !shared.engaged then .error .disengaged
  else if shared.linkDown then .error .linkDown
  else
    let epoch := shared.requestedEpoch
    match event with
    | .pointerAbs x y =>
        .ok { shared with queue := shared.queue.pushAbs (clampAbs x) (clampAbs y) epoch }
    | .pointerRel dx dy => .ok { shared with queue := shared.queue.pushRel dx dy epoch }
    | .wheel delta => .ok { shared with queue := shared.queue.pushWheel delta epoch }
    | .key key down =>
        match shared.queue.pushBarrier (.key key down) epoch with
        | some queue => .ok { shared with queue := queue }
        | none => .error .overflow
    | .button button down =>
        match shared.queue.pushBarrier (.button button down) epoch with
        | some queue => .ok { shared with queue := queue }
        | none => .error .overflow

inductive EngageError where
  | notYetAcked (requested acked : Nat)
  | shuttingDown
  deriving DecidableEq, Repr

def Shared.engage (shared : Shared) : Except EngageError Shared :=
  if shared.shuttingDown then .error .shuttingDown
  else if shared.ackedEpoch < shared.requestedEpoch then
    .error (.notYetAcked shared.requestedEpoch shared.ackedEpoch)
  else .ok { shared with engaged := true }

/-- Submissions reach the queue. -/
structure Shared.Admits (shared : Shared) : Prop where
  opened : shared.shuttingDown = false
  engaged : shared.engaged = true
  up : shared.linkDown = false

/-- What a submission comes to. -/
inductive Shared.Submits (shared : Shared) (event : Event) : Except SubmitError Shared → Prop where
  | shuttingDown (closed : shared.shuttingDown = true) :
      Shared.Submits shared event (.error .shuttingDown)
  | disengaged (released : shared.engaged = false) :
      Shared.Submits shared event (.error .disengaged)
  | linkDown (engaged : shared.engaged = true) (down : shared.linkDown = true) :
      Shared.Submits shared event (.error .linkDown)
  | motion (admits : shared.Admits) (plain : event.transition = none)
      (fold : MotionRun → MotionRun) (fresh : MotionRun) :
      Shared.Submits shared event (.ok { shared with
        queue := shared.queue.pushMotion shared.requestedEpoch fold fresh })
  | transition (admits : shared.Admits) {kind : EntryKind} {queue : QueueState}
      (barrier : kind.isBarrier = true) (same : event.transition = some kind)
      (pushed : shared.queue.pushBarrier kind shared.requestedEpoch = some queue) :
      Shared.Submits shared event (.ok { shared with queue := queue })
  | overflow (admits : shared.Admits) {kind : EntryKind} (same : event.transition = some kind)
      (full : shared.queue.pushBarrier kind shared.requestedEpoch = none) :
      Shared.Submits shared event (.error .overflow)

theorem submit_submits (shared : Shared) (event : Event) :
    shared.Submits event (shared.submit event) := by
  unfold Shared.submit
  by_cases closed : shared.shuttingDown = true
  · rw [if_pos closed]
    exact .shuttingDown closed
  rw [if_neg closed]
  by_cases released : (!shared.engaged) = true
  · rw [if_pos released]
    exact .disengaged (by simpa using released)
  rw [if_neg released]
  have engaged : shared.engaged = true := by simpa using released
  by_cases down : shared.linkDown = true
  · rw [if_pos down]
    exact .linkDown engaged down
  rw [if_neg down]
  have admits : shared.Admits := ⟨by simpa using closed, engaged, by simpa using down⟩
  cases event with
  | key key held =>
      cases pushed : shared.queue.pushBarrier (.key key held) shared.requestedEpoch with
      | none => simpa only [pushed] using .overflow admits rfl pushed
      | some queue => simpa only [pushed] using .transition admits rfl rfl pushed
  | button mask held =>
      cases pushed : shared.queue.pushBarrier (.button mask held) shared.requestedEpoch with
      | none => simpa only [pushed] using .overflow admits rfl pushed
      | some queue => simpa only [pushed] using .transition admits rfl rfl pushed
  | pointerAbs x y => exact Shared.Submits.motion admits (by rfl) _ _
  | pointerRel dx dy => exact Shared.Submits.motion admits (by rfl) _ _
  | wheel delta => exact Shared.Submits.motion admits (by rfl) _ _

/-! ## The writer's critical sections -/

/-- The latch of `cancellation_sequence`; the epoch it latches is `requestedEpoch`. -/
def Shared.latch (shared : Shared) : Shared :=
  { shared with queue := shared.queue.takeReason.drainUpto shared.requestedEpoch }

def Shared.drain (shared : Shared) (epoch : Nat) : Shared :=
  { shared with queue := shared.queue.drainUpto epoch }

def Shared.record (shared : Shared) (record : ReleaseRecord) : Shared :=
  { shared with lastRelease := some record }

/-- A newer trigger needs another release, so its flag stays set. -/
def Shared.acknowledge (shared : Shared) (epoch : Nat) : Shared :=
  { shared with
    ackedEpoch := epoch
    cancel := if shared.requestedEpoch = epoch then false else shared.cancel }

/-- What `WriterHandle::shutdown` returns once the writer has been joined. -/
def Shared.shutdownOutcome (shared : Shared) (epoch : Nat) (joined : Bool) : ReleaseOutcome :=
  match joined, shared.lastRelease with
  | true, some record =>
      if shared.ackedEpoch ≥ epoch ∧ record.epoch ≥ epoch then record.outcome else .unsent
  | _, _ => .unsent

end NanoKvm.Input
