import NanoKvm.Input.Held

/-!
# The input queue

`input/queue.rs` and the types of `input/mod.rs` it stores.  Motion coalesces
into the tail run of its own epoch; a key or button transition is a barrier.
The depth counters and the submission instant of an entry are left out: only
the statistics read them.
-/

set_option autoImplicit false

namespace NanoKvm.Input

open NanoKvm.Proto

/-- One input event as the viewer produces it. -/
inductive Event where
  | key (key : HidKey) (down : Bool)
  | button (button : U8) (down : Bool)
  | pointerAbs (x y : U16)
  | pointerRel (dx dy : Int)
  | wheel (delta : Int)
  deriving DecidableEq, Repr

inductive ReleaseReason where
  | focusLost
  | captureReleased
  | userRequested
  | overflow
  | linkDown
  | reconnected
  | shutdown
  deriving DecidableEq, Repr

def ReleaseReason.severity : ReleaseReason → Nat
  | .shutdown => 3
  | .linkDown | .reconnected => 2
  | .overflow => 1
  | .focusLost | .captureReleased | .userRequested => 0

/-- `i32::saturating_add`. -/
def saturatingAdd (a b : Int) : Int := max (-2147483648) (min 2147483647 (a + b))

structure MotionRun where
  abs : Option (U16 × U16)
  dx : Int
  dy : Int
  wheel : Int
  deriving DecidableEq, Repr

def MotionRun.isEmpty (motion : MotionRun) : Bool :=
  motion.abs.isNone && motion.dx = 0 && motion.dy = 0 && motion.wheel = 0

inductive EntryKind where
  | motion (motion : MotionRun)
  | key (key : HidKey) (down : Bool)
  | button (mask : U8) (down : Bool)
  deriving DecidableEq, Repr

def EntryKind.isBarrier : EntryKind → Bool
  | .motion _ => false
  | .key _ _ => true
  | .button _ _ => true

/-- The barrier a key or button event queues; motion queues none. -/
def Event.transition : Event → Option EntryKind
  | .key usage down => some (.key usage down)
  | .button mask down => some (.button mask down)
  | _ => none

structure Entry where
  kind : EntryKind
  epoch : Nat
  deriving DecidableEq, Repr

structure QueueState where
  entries : List Entry
  barriers : Nat
  maxBarriers : Nat
  pendingReason : Option ReleaseReason
  deriving DecidableEq, Repr

/-- A bound of zero would refuse every transition. -/
def QueueState.new (maxBarriers : Nat) : QueueState := ⟨[], 0, max 1 maxBarriers, none⟩

/-- The tail motion run, only when it belongs to `epoch`, and what is before it. -/
def tailRun (entries : List Entry) (epoch : Nat) : Option (List Entry × MotionRun) :=
  match entries.getLast? with
  | some ⟨.motion motion, tail⟩ =>
      if tail = epoch then some (entries.dropLast, motion) else none
  | _ => none

/-- Fold motion into the tail run, or start a new run from `fresh`. -/
def QueueState.pushMotion (queue : QueueState) (epoch : Nat) (fold : MotionRun → MotionRun)
    (fresh : MotionRun) : QueueState :=
  match tailRun queue.entries epoch with
  | some (before, motion) => { queue with entries := before ++ [⟨.motion (fold motion), epoch⟩] }
  | none => { queue with entries := queue.entries ++ [⟨.motion fresh, epoch⟩] }

def QueueState.pushAbs (queue : QueueState) (x y : U16) (epoch : Nat) : QueueState :=
  queue.pushMotion epoch (fun motion => { motion with abs := some (x, y) })
    ⟨some (x, y), 0, 0, 0⟩

def QueueState.pushRel (queue : QueueState) (dx dy : Int) (epoch : Nat) : QueueState :=
  queue.pushMotion epoch
    (fun motion => { motion with
      dx := saturatingAdd motion.dx dx
      dy := saturatingAdd motion.dy dy })
    ⟨none, dx, dy, 0⟩

def QueueState.pushWheel (queue : QueueState) (delta : Int) (epoch : Nat) : QueueState :=
  queue.pushMotion epoch
    (fun motion => { motion with wheel := saturatingAdd motion.wheel delta })
    ⟨none, 0, 0, delta⟩

/-- `none` is `Overflow`: the queue is left as it was. -/
def QueueState.pushBarrier (queue : QueueState) (kind : EntryKind) (epoch : Nat) :
    Option QueueState :=
  if queue.barriers ≥ queue.maxBarriers then none
  else some { queue with
    entries := queue.entries ++ [⟨kind, epoch⟩]
    barriers := queue.barriers + 1 }

/-- The most severe reason is kept, ties going to the first. -/
def QueueState.noteReason (queue : QueueState) (reason : ReleaseReason) : QueueState :=
  match queue.pendingReason with
  | none => { queue with pendingReason := some reason }
  | some current =>
      if reason.severity > current.severity then { queue with pendingReason := some reason }
      else queue

def QueueState.takeReason (queue : QueueState) : QueueState := { queue with pendingReason := none }

def QueueState.pop (queue : QueueState) : Option (Entry × QueueState) :=
  match queue.entries with
  | [] => none
  | entry :: rest =>
      some (entry, { queue with
        entries := rest
        barriers := if entry.kind.isBarrier then queue.barriers - 1 else queue.barriers })

/-- Discard entries through `epoch` without writing them. -/
def QueueState.drainUpto (queue : QueueState) (epoch : Nat) : QueueState :=
  let kept := queue.entries.filter fun entry => entry.epoch > epoch
  { queue with
    entries := kept
    barriers := kept.countP fun entry => entry.kind.isBarrier }

/-! ## The entries an operation leaves -/

@[simp] theorem noteReason_entries (queue : QueueState) (reason : ReleaseReason) :
    (queue.noteReason reason).entries = queue.entries := by
  unfold QueueState.noteReason
  split
  · rfl
  · split <;> rfl

@[simp] theorem takeReason_entries (queue : QueueState) :
    queue.takeReason.entries = queue.entries := rfl

@[simp] theorem drainUpto_entries (queue : QueueState) (epoch : Nat) :
    (queue.drainUpto epoch).entries = queue.entries.filter fun entry => entry.epoch > epoch := rfl

theorem drainUpto_all {queue : QueueState} {epoch : Nat}
    (covered : ∀ entry ∈ queue.entries, entry.epoch ≤ epoch) :
    (queue.drainUpto epoch).entries = [] := by
  rw [drainUpto_entries, List.filter_eq_nil_iff]
  intro entry member
  have := covered entry member
  simp only [gt_iff_lt, decide_eq_true_eq]
  omega

theorem pop_entries {queue after : QueueState} {entry : Entry}
    (popped : queue.pop = some (entry, after)) : queue.entries = entry :: after.entries := by
  unfold QueueState.pop at popped
  split at popped
  · cases popped
  · rename_i head rest shape
    cases popped
    exact shape

theorem pop_none {queue : QueueState} (empty : queue.pop = none) : queue.entries = [] := by
  unfold QueueState.pop at empty
  split at empty
  · assumption
  · cases empty

theorem pushBarrier_entries {queue after : QueueState} {kind : EntryKind} {epoch : Nat}
    (pushed : queue.pushBarrier kind epoch = some after) :
    after.entries = queue.entries ++ [⟨kind, epoch⟩] := by
  unfold QueueState.pushBarrier at pushed
  split at pushed
  · cases pushed
  · cases pushed
    rfl

theorem tailRun_some {entries before : List Entry} {epoch : Nat} {motion : MotionRun}
    (found : tailRun entries epoch = some (before, motion)) :
    entries = before ++ [⟨.motion motion, epoch⟩] := by
  unfold tailRun at found
  split at found
  · rename_i last tail isLast
    split at found
    · rename_i same
      cases found
      subst same
      obtain ⟨_, shape⟩ := List.getLast?_eq_some_iff.mp isLast
      rw [shape, List.dropLast_concat]
    · cases found
  · cases found

/-- A motion push replaces the tail run of its epoch or appends one. -/
theorem pushMotion_entries (queue : QueueState) (epoch : Nat) (fold : MotionRun → MotionRun)
    (fresh : MotionRun) :
    ∃ before after,
      (queue.entries = before ∨ ∃ motion, queue.entries = before ++ [⟨.motion motion, epoch⟩]) ∧
      (queue.pushMotion epoch fold fresh).entries = before ++ [⟨.motion after, epoch⟩] := by
  unfold QueueState.pushMotion
  cases found : tailRun queue.entries epoch with
  | none => exact ⟨queue.entries, fresh, Or.inl rfl, rfl⟩
  | some tail =>
      obtain ⟨before, motion⟩ := tail
      exact ⟨before, fold motion, Or.inr ⟨motion, tailRun_some found⟩, rfl⟩

end NanoKvm.Input
