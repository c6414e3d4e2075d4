import NanoKvm.Input.Queue

/-!
# Report emission

The report half of `input/writer.rs`: `write_entry`, `write_buttons`,
`flush_motion`, `take_step` and `emit_release_all`.  `flush_motion` is cut at
its `write_step`: a `Flush` is the loop it is in with the locals still live,
and `Flush.emit` is one turn of that loop.  The statistics counters are left
out.
-/

set_option autoImplicit false

namespace NanoKvm.Input

open NanoKvm.Proto

/-- Last active pointer mode. -/
inductive PointerMode where
  | rel
  | abs (x y : U16)
  deriving DecidableEq, Repr

/-- The cap on one coalesced run's accumulated delta, per axis. -/
def relRunMax : Int := 4095

def clampTo (bound v : Int) : Int := max (-bound) (min bound v)

def capRun (motion : MotionRun) : MotionRun :=
  { motion with
    dx := clampTo relRunMax motion.dx
    dy := clampTo relRunMax motion.dy
    wheel := clampTo relRunMax motion.wheel }

/-- One report's worth of an accumulated delta, and what it leaves behind. -/
def takeStep (remaining : Int) : I8 × Int :=
  let step := clampTo MouseRelReport.deltaMax remaining
  (BitVec.ofInt 8 step, remaining - step)

inductive Flush where
  /-- At the head of the absolute `loop`. -/
  | abs (x y : U16) (dx dy dw : Int)
  /-- In the relative `while`, its condition true. -/
  | rel (dx dy dw : Int)
  /-- In the wheel-only `while`, its condition true. -/
  | wheel (dw : Int)
  deriving DecidableEq, Repr

def hasRel (dx dy : Int) : Bool := dx ≠ 0 || dy ≠ 0

/-- `flush_motion` up to its first report; `none` when the run is empty. -/
def startFlush (motion : MotionRun) : Option Flush :=
  let motion := capRun motion
  if motion.isEmpty then none
  else
    match motion.abs with
    | some (x, y) => some (.abs x y motion.dx motion.dy motion.wheel)
    | none =>
        if hasRel motion.dx motion.dy then some (.rel motion.dx motion.dy motion.wheel)
        else some (.wheel motion.wheel)

def relFlush (dx dy dw : Int) : Option Flush :=
  if dx ≠ 0 ∨ dy ≠ 0 ∨ dw ≠ 0 then some (.rel dx dy dw) else none

/-- The report at the last position, for the transitions that carry none. -/
def PointerMode.pointerFrame (mode : PointerMode) (buttons : U8) (wheel : I8) : HidFrame :=
  match mode with
  | .abs x y => (MouseAbsReport.mk buttons x y wheel).frame
  | .rel => (MouseRelReport.mk buttons 0#8 0#8 wheel).frame

/-- One report: the mode it leaves, the frame, and the loop that follows. -/
def Flush.emit (mode : PointerMode) (buttons : U8) : Flush → PointerMode × HidFrame × Option Flush
  | .abs x y dx dy dw =>
      if hasRel dx dy then
        -- The wheel rides with the relative deltas that follow.
        (.abs x y, (MouseAbsReport.mk buttons x y 0#8).frame, some (.rel dx dy dw))
      else
        let (w, dw) := takeStep dw
        (.abs x y, (MouseAbsReport.mk buttons x y w).frame,
          if dw = 0 then none else some (.abs x y dx dy dw))
  | .rel dx dy dw =>
      let (sx, dx) := takeStep dx
      let (sy, dy) := takeStep dy
      let (w, dw) := takeStep dw
      (.rel, (MouseRelReport.mk buttons sx sy w).frame, relFlush dx dy dw)
  | .wheel dw =>
      let (w, dw) := takeStep dw
      (mode, mode.pointerFrame buttons w, if dw = 0 then none else some (.wheel dw))

/-- What one entry asks of the link. -/
inductive Work where
  | nothing
  | report (frame : HidFrame)
  | flush (loop : Flush)
  deriving DecidableEq, Repr

/-- `write_entry` up to its first report. -/
def startEntry (held : HeldState) (mode : PointerMode) : EntryKind → HeldState × Work
  | .motion motion =>
      match startFlush motion with
      | none => (held, .nothing)
      | some loop => (held, .flush loop)
  | .key key down =>
      match held.applyKey key down with
      | (held, some report) => (held, .report report.frame)
      | (held, none) => (held, .nothing)
  | .button mask down =>
      match held.applyButton mask down with
      | (held, some buttons) => (held, .report (mode.pointerFrame buttons 0#8))
      | (held, none) => (held, .nothing)

/-- The reports of `emit_release_all`: absolute mode also releases the absolute mouse. -/
def releaseFrames (mode : PointerMode) : List HidFrame :=
  match mode with
  | .abs x y =>
      [KeyboardReport.releaseAll.frame, (MouseAbsReport.mk 0#8 x y 0#8).frame,
        mouseReleaseAll.frame]
  | .rel => [KeyboardReport.releaseAll.frame, mouseReleaseAll.frame]

/-! ## The reports of a loop, one after the other -/

/-- At most `limit` reports: the mode they leave, the frames, and the loop left over. -/
def Flush.frames (buttons : U8) :
    Nat → PointerMode → Flush → PointerMode × List HidFrame × Option Flush
  | 0, mode, loop => (mode, [], some loop)
  | limit + 1, mode, loop =>
      match loop.emit mode buttons with
      | (mode, frame, none) => (mode, [frame], none)
      | (mode, frame, some loop) =>
          let (mode, rest, left) := loop.frames buttons limit mode
          (mode, frame :: rest, left)

/-- Reports needed to empty one axis. -/
def axisSteps (v : Int) : Nat := (v.natAbs + 126) / 127

/-- How many reports a loop still writes. -/
def Flush.size : Flush → Nat
  | .abs _ _ dx dy dw =>
      if hasRel dx dy then 1 + max (axisSteps dx) (max (axisSteps dy) (axisSteps dw))
      else max 1 (axisSteps dw)
  | .rel dx dy dw => max (axisSteps dx) (max (axisSteps dy) (axisSteps dw))
  | .wheel dw => axisSteps dw

theorem axisSteps_takeStep (v : Int) : axisSteps (takeStep v).2 = axisSteps v - 1 := by
  simp only [axisSteps, takeStep, clampTo, MouseRelReport.deltaMax]
  omega

theorem takeStep_eq_zero_iff (v : Int) : (takeStep v).2 = 0 ↔ axisSteps v ≤ 1 := by
  simp only [axisSteps, takeStep, clampTo, MouseRelReport.deltaMax]
  omega

/-- A report brings the loop one nearer its end, and only the last one ends it. -/
theorem emit_size (mode : PointerMode) (buttons : U8) (loop : Flush) :
    match (loop.emit mode buttons).2.2 with
    | none => loop.size ≤ 1
    | some next => next.size + 1 = loop.size ∧ 0 < next.size := by
  cases loop with
  | abs x y dx dy dw =>
      simp only [Flush.emit, Flush.size]
      by_cases rel : hasRel dx dy = true
      · simp only [if_pos rel]
        have moves : dx ≠ 0 ∨ dy ≠ 0 := by simpa [hasRel] using rel
        simp only [axisSteps]
        omega
      · simp only [if_neg rel]
        by_cases last : (takeStep dw).2 = 0
        · simp only [if_pos last]
          have := (takeStep_eq_zero_iff dw).mp last
          omega
        · simp only [if_neg last, if_neg rel, axisSteps_takeStep]
          have := mt (takeStep_eq_zero_iff dw).mpr last
          omega
  | rel dx dy dw =>
      simp only [Flush.emit, Flush.size, relFlush]
      by_cases more : (takeStep dx).2 ≠ 0 ∨ (takeStep dy).2 ≠ 0 ∨ (takeStep dw).2 ≠ 0
      · simp only [if_pos more, axisSteps_takeStep]
        simp only [ne_eq, takeStep_eq_zero_iff] at more
        omega
      · simp only [if_neg more]
        simp only [ne_eq, not_or, not_not, takeStep_eq_zero_iff] at more
        omega
  | wheel dw =>
      simp only [Flush.emit, Flush.size]
      by_cases last : (takeStep dw).2 = 0
      · simp only [if_pos last]
        exact (takeStep_eq_zero_iff dw).mp last
      · simp only [if_neg last, axisSteps_takeStep]
        have := mt (takeStep_eq_zero_iff dw).mpr last
        omega

/-- `flush_motion` terminates: a loop given as many reports as its size has none left. -/
theorem frames_finish (buttons : U8) {limit : Nat} {mode : PointerMode} {loop : Flush}
    (enough : loop.size ≤ limit) (live : 0 < limit) :
    (loop.frames buttons limit mode).2.2 = none := by
  induction limit generalizing mode loop with
  | zero => omega
  | succ limit ih =>
      have shrinks := emit_size mode buttons loop
      rw [Flush.frames]
      rcases emitted : loop.emit mode buttons with ⟨after, frame, _ | next⟩
      · rfl
      · simp only [emitted] at shrinks
        exact ih (by omega) (by omega)

end NanoKvm.Input
