import NanoKvm.Input.Session
import NanoKvm.Lib.Log

/-!
# What the log of a run looks like

The epochs, the shutdown flag and the latch in force can be read off the log,
and so can the transitions of each session at each stage of their way to the
link.  The law a noted happening obeys speaks of the log before it alone; what
is said of a run then follows from the law.
-/

set_option autoImplicit false

namespace NanoKvm.Input

open NanoKvm.Proto NanoKvm.Lib

/-! ## Reading the state off the log -/

structure Replay where
  requested : Nat
  acked : Nat
  shuttingDown : Bool
  /-- The epoch latched and not acknowledged, and whether a commissioning latched it. -/
  latched : Option (Nat × Bool)
  /-- An entry was taken up since the last acknowledgement. -/
  touched : Bool
  deriving DecidableEq, Repr

def Replay.next (replay : Replay) : Happening → Replay
  | .raised epoch shutdown =>
      { replay with requested := epoch, shuttingDown := replay.shuttingDown || shutdown }
  | .latched epoch commissioning => { replay with latched := some (epoch, commissioning) }
  | .acknowledged epoch => { replay with acked := epoch, latched := none, touched := false }
  | .takenUp _ => { replay with touched := true }
  | _ => replay

def replay (log : List Happening) : Replay := log.foldl Replay.next ⟨0, 0, false, none, false⟩

@[simp] theorem replay_nil : replay [] = ⟨0, 0, false, none, false⟩ := rfl

@[simp] theorem replay_snoc (log : List Happening) (happening : Happening) :
    replay (log ++ [happening]) = (replay log).next happening := by
  simp [replay]

/-! ## The transitions of one session -/

def Entry.transition (epoch : Nat) (entry : Entry) : Option EntryKind :=
  if entry.epoch = epoch ∧ entry.kind.isBarrier = true then some entry.kind else none

/-- A transition submitted while the session was engaged, and whether it was queued. -/
def Happening.submittedUnder (epoch : Nat) : Happening → Option (EntryKind × Bool)
  | .submitted event under verdict =>
      if under = epoch then
        match verdict with
        | .ok () => event.transition.map (·, true)
        | .error .overflow | .error .linkDown => event.transition.map (·, false)
        | .error .disengaged | .error .shuttingDown => none
      else none
  | _ => none

def Happening.acceptedUnder (epoch : Nat) : Happening → Option EntryKind
  | .submitted event under (.ok ()) => if under = epoch then event.transition else none
  | _ => none

def Happening.poppedUnder (epoch : Nat) : Happening → Option EntryKind
  | .popped entry => entry.transition epoch
  | _ => none

def Happening.takenUnder (epoch : Nat) : Happening → Option EntryKind
  | .takenUp entry => entry.transition epoch
  | _ => none

def Happening.releasedUnder (epoch : Nat) : Happening → Option (HidFrame × TransactResult)
  | .wrote (.release under) frame result => if under = epoch then some (frame, result) else none
  | _ => none

def submissionsIn (epoch : Nat) (log : List Happening) : List (EntryKind × Bool) :=
  log.filterMap (Happening.submittedUnder epoch)

def acceptedIn (epoch : Nat) (log : List Happening) : List EntryKind :=
  log.filterMap (Happening.acceptedUnder epoch)

def poppedIn (epoch : Nat) (log : List Happening) : List EntryKind :=
  log.filterMap (Happening.poppedUnder epoch)

def takenIn (epoch : Nat) (log : List Happening) : List EntryKind :=
  log.filterMap (Happening.takenUnder epoch)

/-- The release reports written for one epoch, with what became of them. -/
def releaseWrites (epoch : Nat) (log : List Happening) : List (HidFrame × TransactResult) :=
  log.filterMap (Happening.releasedUnder epoch)

/-- Some event was accepted under `epoch`. -/
def Accepted (log : List Happening) (epoch : Nat) : Prop :=
  ∃ event, Happening.submitted event epoch (.ok ()) ∈ log

/-- Some event was refused under `epoch` because the link was down. -/
def RefusedDown (log : List Happening) (epoch : Nat) : Prop :=
  ∃ event, Happening.submitted event epoch (.error .linkDown) ∈ log

/-- A report of an entry of `epoch` failed with the transport. -/
def Failed (log : List Happening) (epoch : Nat) : Prop :=
  ∃ frame result, Happening.wrote (.entry epoch) frame result ∈ log ∧ handed result = false

/-- Every report of a release was handed to the link, none failing with the transport. -/
def Delivered (log : List Happening) (epoch : Nat) : Prop :=
  ∃ mode, (releaseWrites epoch log).map Prod.fst = releaseFrames mode ∧
    ∀ write ∈ releaseWrites epoch log, handed write.2 = true

section Snoc
variable (log : List Happening) (happening : Happening) (epoch : Nat)

@[simp] theorem acceptedIn_snoc : acceptedIn epoch (log ++ [happening]) =
    acceptedIn epoch log ++ (happening.acceptedUnder epoch).toList := by
  unfold acceptedIn
  cases shape : happening.acceptedUnder epoch <;> simp [shape]

@[simp] theorem poppedIn_snoc : poppedIn epoch (log ++ [happening]) =
    poppedIn epoch log ++ (happening.poppedUnder epoch).toList := by
  unfold poppedIn
  cases shape : happening.poppedUnder epoch <;> simp [shape]

@[simp] theorem takenIn_snoc : takenIn epoch (log ++ [happening]) =
    takenIn epoch log ++ (happening.takenUnder epoch).toList := by
  unfold takenIn
  cases shape : happening.takenUnder epoch <;> simp [shape]

@[simp] theorem submissionsIn_snoc : submissionsIn epoch (log ++ [happening]) =
    submissionsIn epoch log ++ (happening.submittedUnder epoch).toList := by
  unfold submissionsIn
  cases shape : happening.submittedUnder epoch <;> simp [shape]

@[simp] theorem releaseWrites_snoc : releaseWrites epoch (log ++ [happening]) =
    releaseWrites epoch log ++ (happening.releasedUnder epoch).toList := by
  unfold releaseWrites
  cases shape : happening.releasedUnder epoch <;> simp [shape]

end Snoc

theorem Accepted.mono {log more : List Happening} {epoch : Nat}
    (accepted : Accepted log epoch) : Accepted (log ++ more) epoch := by
  obtain ⟨event, member⟩ := accepted
  exact ⟨event, List.mem_append_left more member⟩

/-! ## The law -/

/-- What may be noted after `before`, in a path whose queue holds `bound` transitions. -/
def Law (bound : Nat) (before : List Happening) : Happening → Prop
  | .submitted _ epoch (.ok ()) => epoch = (replay before).requested ∧
      (replay before).shuttingDown = false ∧ (replay before).acked = epoch ∧
        ¬ RefusedDown before epoch
  | .submitted _ epoch (.error .overflow) => epoch = (replay before).requested ∧
      (poppedIn epoch before).length + bound ≤ (acceptedIn epoch before).length
  | .submitted _ epoch (.error _) => epoch = (replay before).requested
  | .engaged epoch => (replay before).acked = epoch
  | .raised epoch _ => epoch = (replay before).requested + 1
  | .popped entry => (replay before).latched = none ∧ entry.epoch = (replay before).acked ∧
      Accepted before entry.epoch
  | .takenUp entry => (replay before).latched = none ∧ entry.epoch = (replay before).acked ∧
      Accepted before entry.epoch ∧ ¬ Failed before entry.epoch
  | .latched epoch _ => (replay before).latched = none ∧ (replay before).acked < epoch
  | .resynced _ => ∃ epoch, (replay before).latched = some (epoch, true)
  | .askedInfo =>
      (replay before).latched = none ∨ ∃ epoch, (replay before).latched = some (epoch, true)
  | .wrote (.entry epoch) _ _ => (replay before).latched = none ∧
      epoch = (replay before).acked ∧ Accepted before epoch
  | .wrote (.release epoch) frame _ => ∃ commissioning mode,
      (replay before).latched = some (epoch, commissioning) ∧ frame ∈ releaseFrames mode ∧
        ((replay before).touched = false → mode = .rel)
  | .wrote .getInfo frame _ => frame = Sys.getInfoFrame ∧
      ((replay before).latched = none ∨ ∃ epoch, (replay before).latched = some (epoch, true))
  | .acknowledged epoch => (replay before).acked < epoch ∧ epoch ≤ (replay before).requested ∧
      ∃ commissioning, (replay before).latched = some (epoch, commissioning)

end NanoKvm.Input
