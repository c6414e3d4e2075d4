import NanoKvm.Audio.Stats
import NanoKvm.Lib.Transition

/-!
# The audio workers and whoever reads them

`capture_loop` and `playback_loop` of `audio/mod.rs` around the statistics, and any
number of calls of `snapshot`, one lock section or device call at a time.  A label
says which thread moves, and what its device answered.  The ring between the two
workers carries no condition, and is left out but for its closing.
-/

set_option autoImplicit false

namespace NanoKvm.Audio

open NanoKvm.Lib

/-- What a device call came back with. -/
inductive DeviceResult where
  | opened
  /-- One period was read, or written. -/
  | moved
  | failed (error : AudioError)
  deriving DecidableEq, Repr

/-- Where a worker is in its loop. -/
inductive Phase where
  /-- The head of the outer loop, asleep or not. -/
  | top
  /-- Not stopping; `stats.opening` is next. -/
  | starting
  /-- In the open. -/
  | opening
  /-- The head of the inner loop, with its `working`. -/
  | ready (working : Bool)
  /-- In the read, or in the pop and the write. -/
  | moving (working : Bool)
  /-- The first period moved; `stats.opened` is next. -/
  | moved
  /-- `stats.recovered` is next. -/
  | recovering
  /-- A period failed; the stop flag is next. -/
  | interrupted (error : AudioError)
  /-- `stats.opened` is next. -/
  | closing (error : AudioError)
  /-- `stats.report` is next. -/
  | reporting (error : AudioError)
  | finished
  deriving DecidableEq, Repr

/-- Between a device result and the bookkeeping for it. -/
def Phase.between : Phase → Bool
  | .moved | .recovering | .interrupted _ | .closing _ | .reporting _ => true
  | _ => false

/-- Where a call of `snapshot` is. -/
inductive Caller where
  /-- `supervise_opening` has these sides left to report. -/
  | surfacing (overdue : List AudioSide)
  /-- The condition is read; `opening_sides` is next. -/
  | marking (condition : Option AudioCondition)
  deriving DecidableEq, Repr

/-- The conditions of an `AudioSnapshot`. -/
structure AudioSnapshot where
  condition : Option AudioCondition
  opening : PerSide Bool
  deriving DecidableEq, Repr

/-- What the log keeps of a run. -/
inductive Event where
  | device (side : AudioSide) (result : DeviceResult)
  | recovered (side : AudioSide)
  /-- A snapshot reported the side as overdue. -/
  | surfaced (side : AudioSide)
  deriving DecidableEq, Repr

structure AudioPath where
  stats : AudioStats
  phases : PerSide Phase
  callers : List Caller
  stop : Bool
  /-- The ring is closed. -/
  closed : Bool
  now : Nat
  /-- What calls of `snapshot` returned, the last first. -/
  shown : List AudioSnapshot
  /-- The last event first. -/
  log : List Event
  deriving DecidableEq, Repr

/-- `AudioHandle::spawn`, with the longest backoff in milliseconds. -/
def AudioPath.spawn (reopenBackoffCap now : Nat) : AudioPath where
  stats := AudioStats.default.setOpeningLimit reopenBackoffCap
  phases := ⟨.top, .top⟩
  callers := []
  stop := false
  closed := false
  now := now
  shown := []
  log := []

namespace AudioPath
variable (path : AudioPath) (side : AudioSide)

def go (phase : Phase) : AudioPath := { path with phases := path.phases.set side phase }

def note (event : Event) : AudioPath := { path with log := event :: path.log }

def keep (stats : AudioStats) : AudioPath := { path with stats := stats }

end AudioPath

inductive WorkerAct where
  /-- A load of the stop flag. -/
  | check
  /-- The lock section that is next. -/
  | lock
  | device (result : DeviceResult)
  /-- The pop of a ring that is closed and empty. -/
  | drained
  deriving DecidableEq, Repr

/-- What the two loops have in common. -/
def AudioPath.work (path : AudioPath) (side : AudioSide) (act : WorkerAct) : Option AudioPath :=
  match path.phases.get side, act with
  | .top, .check => some (path.go side (if path.stop then .finished else .starting))
  | .starting, .lock => some ((path.go side .opening).keep (path.stats.opening side path.now))
  | .opening, .device .opened =>
      some ((path.go side (.ready false)).note (.device side .opened))
  -- Nothing asks for the stop flag when an open fails.
  | .opening, .device (.failed error) =>
      some ((path.go side (.closing error)).note (.device side (.failed error)))
  | .ready working, .check =>
      some (path.go side (if path.stop then .top else .moving working))
  | .moving working, .device .moved =>
      some ((path.go side (if working then .ready true else .moved)).note (.device side .moved))
  | .moving _, .device (.failed error) =>
      some ((path.go side (.interrupted error)).note (.device side (.failed error)))
  | .moved, .lock => some ((path.go side .recovering).keep (path.stats.opened side))
  -- Once an open: `working` keeps the worker away from here until the next.
  | .recovering, .lock =>
      some (((path.go side (.ready true)).keep (path.stats.recovered side).2).note
        (.recovered side))
  | .interrupted error, .check =>
      some (path.go side (if path.stop then .top else .closing error))
  | .closing error, .lock =>
      some ((path.go side (.reporting error)).keep (path.stats.opened side))
  | .reporting error, .lock =>
      some ((path.go side .top).keep (path.stats.report side error path.now).2)
  | _, _ => none

def AudioPath.captureLoop (path : AudioPath) (act : WorkerAct) : Option AudioPath :=
  path.work .capture act

/-- The playback side takes its period from the ring first. -/
def AudioPath.playbackLoop (path : AudioPath) (act : WorkerAct) : Option AudioPath :=
  match path.phases.playback, act with
  | .moving _, .drained => if path.closed then some (path.go .playback .top) else none
  | _, act => path.work .playback act

inductive AudioLabel where
  | capture (act : WorkerAct)
  | playback (act : WorkerAct)
  /-- A call of `snapshot` looks which sides are overdue. -/
  | snapshot
  /-- It reports one of them. -/
  | surface (caller : Nat) (side : AudioSide)
  /-- It reads the condition to show, and which sides are opening. -/
  | read (caller : Nat)
  | finish (caller : Nat)
  /-- The two halves of `AudioHandle::stop`. -/
  | stop
  | close
  | elapse (time : Nat)
  deriving DecidableEq, Repr

/-- The side a step, or the supervision in it, is about. -/
def AudioLabel.side : AudioLabel → Option AudioSide
  | .capture _ => some .capture
  | .playback _ => some .playback
  | .surface _ side => some side
  | _ => none

/-- The next section of one call of `snapshot`. -/
def AudioPath.surface (path : AudioPath) (caller : Nat) (side : AudioSide) : Option AudioPath :=
  match path.callers[caller]? with
  | some (.surfacing (first :: rest)) =>
      if first = side then
        let error := overdueError path.stats.openingLimitMs side
        some (({ path with callers := path.callers.set caller (.surfacing rest) }.keep
          (path.stats.report side error path.now).2).note (.surfaced side))
      else none
  | _ => none

def AudioPath.read (path : AudioPath) (caller : Nat) : Option AudioPath :=
  match path.callers[caller]? with
  | some (.surfacing []) =>
      some { path with callers := path.callers.set caller (.marking path.stats.condition) }
  | _ => none

def AudioPath.finish (path : AudioPath) (caller : Nat) : Option AudioPath :=
  match path.callers[caller]? with
  | some (.marking condition) =>
      some { path with
        callers := path.callers.eraseIdx caller
        shown := ⟨condition, path.stats.openingSides⟩ :: path.shown }
  | _ => none

def step : AudioLabel → AudioPath → Option AudioPath
  | .capture act, path => path.captureLoop act
  | .playback act, path => path.playbackLoop act
  | .snapshot, path =>
      some { path with callers := path.callers ++ [.surfacing (path.stats.overdue path.now)] }
  | .surface caller side, path => path.surface caller side
  | .read caller, path => path.read caller
  | .finish caller, path => path.finish caller
  | .stop, path => some { path with stop := true }
  -- `stop` comes first.
  | .close, path => if path.stop then some { path with closed := true } else none
  | .elapse time, path => some { path with now := path.now + time }

/-! ## One side of the path -/

/-- The side moved a period since its last open, and has not failed since. -/
def working (side : AudioSide) : List Event → Bool
  | [] => false
  | .device about result :: earlier =>
      if about = side then result = .moved else working side earlier
  | _ :: earlier => working side earlier

/-- The side failed, and has moved no period since. -/
def failing (side : AudioSide) : List Event → Bool
  | [] => false
  | .device about result :: earlier =>
      if about = side then
        match result with
        | .failed _ => true
        | .moved => false
        | .opened => failing side earlier
      else failing side earlier
  | _ :: earlier => failing side earlier

/-- A snapshot reported the side after its last recovery. -/
def late (side : AudioSide) : List Event → Bool
  | [] => false
  | .surfaced about :: earlier => about = side || late side earlier
  | .recovered about :: earlier => about ≠ side && late side earlier
  | _ :: earlier => late side earlier

/-- What a warning about one side goes by. -/
structure SideView where
  phase : Phase
  stop : Bool
  condition : Option AudioCondition
  working : Bool
  failing : Bool
  late : Bool
  deriving DecidableEq, Repr

def AudioPath.view (path : AudioPath) (side : AudioSide) : SideView where
  phase := path.phases.get side
  stop := path.stop
  condition := path.stats.conditionOf side
  working := working side path.log
  failing := failing side path.log
  late := late side path.log

def Event.side : Event → AudioSide
  | .device side _ | .recovered side | .surfaced side => side

section View
variable {path after : AudioPath} {side other : AudioSide} {act : WorkerAct}

attribute [local simp] working failing late

theorem view_go (phase : Phase) (apart : side ≠ other) :
    (path.go side phase).view other = path.view other := by
  unfold AudioPath.view AudioPath.go
  rw [path.phases.get_set_other phase apart]

theorem view_note (event : Event) (apart : event.side ≠ other) :
    (path.note event).view other = path.view other := by
  unfold AudioPath.view AudioPath.note
  cases event with
  | device about result | recovered about | surfaced about =>
      have apart : about ≠ other := apart
      simp [apart]

theorem view_keep {stats : AudioStats}
    (same : stats.conditionOf other = path.stats.conditionOf other) :
    (path.keep stats).view other = path.view other := by
  unfold AudioPath.view AudioPath.keep
  rw [same]

/-- A worker leaves the other side as it was. -/
theorem work_other (apart : side ≠ other) (worked : path.work side act = some after) :
    after.view other = path.view other := by
  unfold AudioPath.work at worked
  split at worked
  all_goals cases worked
  · exact view_go _ apart
  · exact (view_keep rfl).trans (view_go _ apart)
  · exact (view_note (.device side _) apart).trans (view_go _ apart)
  · exact (view_note (.device side _) apart).trans (view_go _ apart)
  · exact view_go _ apart
  · exact (view_note (.device side _) apart).trans (view_go _ apart)
  · exact (view_note (.device side _) apart).trans (view_go _ apart)
  · exact (view_keep rfl).trans (view_go _ apart)
  · refine (view_note (.recovered side) apart).trans ((view_keep ?_).trans (view_go _ apart))
    exact recovered_other _ apart
  · exact view_go _ apart
  · exact (view_keep rfl).trans (view_go _ apart)
  · exact (view_keep (report_other _ _ _ apart)).trans (view_go _ apart)

theorem playbackLoop_cases (worked : path.playbackLoop act = some after) :
    path.work .playback act = some after ∨
      ∃ first, path.phases.playback = .moving first ∧ path.closed = true ∧
        after = path.go .playback .top := by
  unfold AudioPath.playbackLoop at worked
  split at worked
  · rename_i first phase
    split at worked
    · rename_i closed
      exact .inr ⟨first, phase, closed, (Option.some.inj worked).symm⟩
    · cases worked
  · exact .inl worked

theorem surface_cases {caller : Nat} (surfaced : path.surface caller side = some after) :
    ∃ rest, path.callers[caller]? = some (.surfacing (side :: rest)) ∧
      after = ({ path with callers := path.callers.set caller (.surfacing rest) }.keep
        (path.stats.report side (overdueError path.stats.openingLimitMs side) path.now).2).note
          (.surfaced side) := by
  unfold AudioPath.surface at surfaced
  split at surfaced
  · rename_i first rest held
    split at surfaced
    · rename_i same
      subst same
      exact ⟨rest, held, (Option.some.inj surfaced).symm⟩
    · cases surfaced
  · cases surfaced

theorem read_cases {caller : Nat} (read : path.read caller = some after) :
    path.callers[caller]? = some (.surfacing []) ∧
      after = { path with callers := path.callers.set caller (.marking path.stats.condition) } := by
  unfold AudioPath.read at read
  split at read
  · rename_i held
    exact ⟨held, (Option.some.inj read).symm⟩
  · cases read

theorem finish_cases {caller : Nat} (finished : path.finish caller = some after) :
    ∃ condition, path.callers[caller]? = some (.marking condition) ∧
      after = { path with
        callers := path.callers.eraseIdx caller
        shown := ⟨condition, path.stats.openingSides⟩ :: path.shown } := by
  unfold AudioPath.finish at finished
  split at finished
  · rename_i condition held
    exact ⟨condition, held, (Option.some.inj finished).symm⟩
  · cases finished

theorem close_cases (closed : step .close path = some after) :
    path.stop = true ∧ after = { path with closed := true } := by
  change (if path.stop then some { path with closed := true } else none) = some after at closed
  split at closed
  · rename_i stopping
    exact ⟨stopping, (Option.some.inj closed).symm⟩
  · cases closed

end View

end NanoKvm.Audio
