import Mathlib
import NanoKvm.Input.Motion

/-!
# What the reports of a run add up to

Each report takes its share off what the loop still owes, so what all of them
carry is what the run was capped to.
-/

set_option autoImplicit false

namespace NanoKvm.Input

open NanoKvm.Proto

/-- A mouse report as `flush_motion` builds it. -/
inductive MouseReport where
  | abs (report : MouseAbsReport)
  | rel (report : MouseRelReport)
  deriving DecidableEq, Repr

namespace MouseReport

def frame : MouseReport → HidFrame
  | .abs report => report.frame
  | .rel report => report.frame

def buttons : MouseReport → U8
  | .abs report => report.buttons
  | .rel report => report.buttons

/-- An absolute report moves by no delta. -/
def dx : MouseReport → Int
  | .abs _ => 0
  | .rel report => report.dx.toInt

def dy : MouseReport → Int
  | .abs _ => 0
  | .rel report => report.dy.toInt

def wheel : MouseReport → Int
  | .abs report => report.wheel.toInt
  | .rel report => report.wheel.toInt

def position : MouseReport → Option (U16 × U16)
  | .abs report => some (report.x, report.y)
  | .rel _ => none

/-- No field is outside the range the device takes. -/
structure Within (report : MouseReport) : Prop where
  dx : -MouseRelReport.deltaMax ≤ report.dx ∧ report.dx ≤ MouseRelReport.deltaMax
  dy : -MouseRelReport.deltaMax ≤ report.dy ∧ report.dy ≤ MouseRelReport.deltaMax
  wheel : -MouseRelReport.deltaMax ≤ report.wheel ∧ report.wheel ≤ MouseRelReport.deltaMax

end MouseReport

/-- What is still to be reported, on each axis. -/
def Flush.dx : Flush → Int
  | .abs _ _ dx _ _ | .rel dx _ _ => dx
  | .wheel _ => 0

def Flush.dy : Flush → Int
  | .abs _ _ _ dy _ | .rel _ dy _ => dy
  | .wheel _ => 0

def Flush.dw : Flush → Int
  | .abs _ _ _ _ dw | .rel _ _ dw | .wheel dw => dw

def PointerMode.position : PointerMode → Option (U16 × U16)
  | .rel => none
  | .abs x y => some (x, y)

/-- The report at the last position. -/
def PointerMode.pointerReport (mode : PointerMode) (buttons : U8) (wheel : I8) : MouseReport :=
  match mode with
  | .abs x y => .abs ⟨buttons, x, y, wheel⟩
  | .rel => .rel ⟨buttons, 0#8, 0#8, wheel⟩

/-- The position the absolute reports of a loop carry. -/
def Flush.position (mode : PointerMode) : Flush → Option (U16 × U16)
  | .abs x y _ _ _ => some (x, y)
  | .rel _ _ _ => none
  | .wheel _ => mode.position

/-- `flush_motion` over a link that accepts every report, uncancelled, given up after
`limit` reports. -/
def flushMotion (limit : Nat) (mode : PointerMode) (buttons : U8) (motion : MotionRun) :
    PointerMode × List HidFrame × Option Flush :=
  match startFlush motion with
  | none => (mode, [], none)
  | some loop => loop.frames buttons limit mode

/-! ## One report -/

theorem hasRel_iff (dx dy : Int) : hasRel dx dy = true ↔ dx ≠ 0 ∨ dy ≠ 0 := by
  simp [hasRel]

/-- A share fits a report, and what is left is the rest. -/
theorem takeStep_share (v : Int) :
    (takeStep v).1.toInt + (takeStep v).2 = v ∧
      -MouseRelReport.deltaMax ≤ (takeStep v).1.toInt ∧
        (takeStep v).1.toInt ≤ MouseRelReport.deltaMax := by
  have fits : (takeStep v).1.toInt = clampTo MouseRelReport.deltaMax v := by
    simp only [takeStep, BitVec.toInt_ofInt, clampTo, MouseRelReport.deltaMax]
    rw [Int.bmod_eq_of_le] <;> omega
  rw [fits]
  simp only [takeStep, clampTo, MouseRelReport.deltaMax]
  omega

/-- What the report `report` leaves of `loop` is `next`. -/
structure Shares (mode : PointerMode) (buttons : U8) (loop : Flush) (report : MouseReport)
    (next : Option Flush) : Prop where
  dx : report.dx + (next.map Flush.dx).getD 0 = loop.dx
  dy : report.dy + (next.map Flush.dy).getD 0 = loop.dy
  dw : report.wheel + (next.map Flush.dw).getD 0 = loop.dw
  buttons : report.buttons = buttons
  within : report.Within
  position : report.position = loop.position mode

section Reports
variable {mode after : PointerMode} {buttons : U8} {loop : Flush} {report : MouseReport}

theorem pointerReport_fields (mode : PointerMode) (buttons : U8) (wheel : I8) :
    (mode.pointerReport buttons wheel).frame = mode.pointerFrame buttons wheel ∧
      (mode.pointerReport buttons wheel).dx = 0 ∧ (mode.pointerReport buttons wheel).dy = 0 ∧
      (mode.pointerReport buttons wheel).wheel = wheel.toInt ∧
      (mode.pointerReport buttons wheel).buttons = buttons ∧
      (mode.pointerReport buttons wheel).position = mode.position := by
  cases mode <;> exact ⟨rfl, rfl, rfl, rfl, rfl, rfl⟩

theorem relFlush_rest (dx dy dw : Int) :
    ((relFlush dx dy dw).map Flush.dx).getD 0 = dx ∧
      ((relFlush dx dy dw).map Flush.dy).getD 0 = dy ∧
        ((relFlush dx dy dw).map Flush.dw).getD 0 = dw := by
  unfold relFlush
  split
  · exact ⟨rfl, rfl, rfl⟩
  · rename_i done
    simp only [not_or, not_not] at done
    exact ⟨done.1.symm, done.2.1.symm, done.2.2.symm⟩

theorem emit_shares (mode : PointerMode) (buttons : U8) (loop : Flush) :
    ∃ report : MouseReport, (loop.emit mode buttons).2.1 = report.frame ∧
      Shares mode buttons loop report (loop.emit mode buttons).2.2 ∧
      ∀ next, (loop.emit mode buttons).2.2 = some next →
        next.position (loop.emit mode buttons).1 = none ∨
          next.position (loop.emit mode buttons).1 = loop.position mode := by
  have zero : -MouseRelReport.deltaMax ≤ 0 ∧ 0 ≤ MouseRelReport.deltaMax := by decide
  cases loop with
  | abs x y dx dy dw =>
      simp only [Flush.emit]
      by_cases rel : hasRel dx dy = true
      · rw [if_pos rel]
        refine ⟨.abs ⟨buttons, x, y, 0#8⟩, rfl, ?_, ?_⟩
        · exact ⟨Int.zero_add dx, Int.zero_add dy, Int.zero_add dw, rfl, ⟨zero, zero, zero⟩, rfl⟩
        · rintro next ⟨⟩
          exact Or.inl rfl
      · rw [if_neg rel]
        obtain ⟨still, level⟩ : dx = 0 ∧ dy = 0 := by simpa [hasRel] using rel
        subst still level
        obtain ⟨share, range⟩ := takeStep_share dw
        refine ⟨.abs ⟨buttons, x, y, (takeStep dw).1⟩, rfl, ?_, ?_⟩
        · by_cases last : (takeStep dw).2 = 0
          · rw [last] at share
            simp only [if_pos last]
            exact ⟨rfl, rfl, share, rfl, ⟨zero, zero, range⟩, rfl⟩
          · simp only [if_neg last]
            exact ⟨rfl, rfl, share, rfl, ⟨zero, zero, range⟩, rfl⟩
        · intro next going
          by_cases last : (takeStep dw).2 = 0
          · simp [last] at going
          · simp only [if_neg last, Option.some.injEq] at going
            exact Or.inr (going ▸ rfl)
  | rel dx dy dw =>
      obtain ⟨shareX, rangeX⟩ := takeStep_share dx
      obtain ⟨shareY, rangeY⟩ := takeStep_share dy
      obtain ⟨shareW, rangeW⟩ := takeStep_share dw
      obtain ⟨restX, restY, restW⟩ :=
        relFlush_rest (takeStep dx).2 (takeStep dy).2 (takeStep dw).2
      refine ⟨.rel ⟨buttons, (takeStep dx).1, (takeStep dy).1, (takeStep dw).1⟩, rfl, ?_, ?_⟩
      · refine ⟨?_, ?_, ?_, rfl, ⟨rangeX, rangeY, rangeW⟩, rfl⟩
        · simp only [Flush.emit, restX]
          exact shareX
        · simp only [Flush.emit, restY]
          exact shareY
        · simp only [Flush.emit, restW]
          exact shareW
      · intro next going
        simp only [Flush.emit, relFlush, Option.ite_none_right_eq_some, Option.some.injEq] at going
        exact Or.inl (going.2 ▸ rfl)
  | wheel dw =>
      obtain ⟨share, range⟩ := takeStep_share dw
      obtain ⟨framed, dx, dy, wheel, held, position⟩ :=
        pointerReport_fields mode buttons (takeStep dw).1
      simp only [Flush.emit]
      refine ⟨mode.pointerReport buttons (takeStep dw).1, framed.symm, ?_, ?_⟩
      · by_cases last : (takeStep dw).2 = 0
        · rw [if_pos last]
          rw [last] at share
          exact ⟨by rw [dx]; rfl, by rw [dy]; rfl, by rw [wheel]; exact share, held,
            ⟨dx ▸ zero, dy ▸ zero, wheel ▸ range⟩, position⟩
        · rw [if_neg last]
          exact ⟨by rw [dx]; rfl, by rw [dy]; rfl, by rw [wheel]; exact share, held,
            ⟨dx ▸ zero, dy ▸ zero, wheel ▸ range⟩, position⟩
      · intro next going
        rw [Option.ite_none_left_eq_some, Option.some.injEq] at going
        exact Or.inr (going.2 ▸ rfl)

/-! ## All of them -/

/-- The reports a loop is drained by. -/
structure Drains (mode : PointerMode) (buttons : U8) (loop : Flush) (reports : List MouseReport) :
    Prop where
  dx : (reports.map MouseReport.dx).sum = loop.dx
  dy : (reports.map MouseReport.dy).sum = loop.dy
  dw : (reports.map MouseReport.wheel).sum = loop.dw
  each : ∀ report ∈ reports, report.buttons = buttons ∧ report.Within ∧
    (report.position = none ∨ report.position = loop.position mode)
  first : ∃ report rest, reports = report :: rest ∧ report.position = loop.position mode

theorem frames_drain {limit : Nat} {frames : List HidFrame}
    (drained : loop.frames buttons limit mode = (after, frames, none)) :
    ∃ reports : List MouseReport,
      frames = reports.map MouseReport.frame ∧ Drains mode buttons loop reports := by
  induction limit generalizing mode loop frames with
  | zero => cases drained
  | succ limit ih =>
      obtain ⟨report, framed, shares, onward⟩ := emit_shares mode buttons loop
      rw [Flush.frames] at drained
      rcases emitted : loop.emit mode buttons with ⟨left, frame, _ | next⟩
      · simp only [emitted] at drained framed shares
        cases drained
        refine ⟨[report], by rw [framed]; rfl, ?_, ?_, ?_, ?_, report, [], rfl, shares.position⟩
        · simpa using shares.dx
        · simpa using shares.dy
        · simpa using shares.dw
        · intro other member
          rw [List.mem_singleton.mp member]
          exact ⟨shares.buttons, shares.within, Or.inr shares.position⟩
      · simp only [emitted] at drained framed shares onward
        rcases rest : next.frames buttons limit left with ⟨final, others, more⟩
        rw [rest] at drained
        cases drained
        obtain ⟨reports, rfl, drains⟩ := ih rest
        refine ⟨report :: reports, by rw [framed]; rfl, ?_, ?_, ?_, ?_, report, reports, rfl,
          shares.position⟩
        · rw [List.map_cons, List.sum_cons, drains.dx]
          exact shares.dx
        · rw [List.map_cons, List.sum_cons, drains.dy]
          exact shares.dy
        · rw [List.map_cons, List.sum_cons, drains.dw]
          exact shares.dw
        · intro other member
          rcases List.mem_cons.mp member with rfl | later
          · exact ⟨shares.buttons, shares.within, Or.inr shares.position⟩
          · obtain ⟨held, within, position⟩ := drains.each other later
            refine ⟨held, within, position.elim Or.inl fun same => ?_⟩
            rw [same]
            exact onward next rfl

theorem frames_length (buttons : U8) (limit : Nat) (mode : PointerMode) (loop : Flush) :
    (loop.frames buttons limit mode).2.1.length ≤ limit := by
  induction limit generalizing mode loop with
  | zero => exact Nat.le_refl _
  | succ limit ih =>
      rw [Flush.frames]
      rcases loop.emit mode buttons with ⟨left, frame, _ | next⟩
      · exact Nat.succ_le_succ (Nat.zero_le _)
      · exact Nat.succ_le_succ (ih left next)

end Reports

/-- A capped run needs a position and thirty-three reports of deltas. -/
theorem startFlush_size {motion : MotionRun} {loop : Flush}
    (started : startFlush motion = some loop) : loop.size ≤ 34 := by
  have capped (v : Int) : axisSteps (clampTo relRunMax v) ≤ 33 := by
    simp only [axisSteps, clampTo, relRunMax]
    omega
  have x : axisSteps (capRun motion).dx ≤ 33 := capped motion.dx
  have y : axisSteps (capRun motion).dy ≤ 33 := capped motion.dy
  have w : axisSteps (capRun motion).wheel ≤ 33 := capped motion.wheel
  simp only [startFlush] at started
  split at started
  · cases started
  split at started
  · cases started
    simp only [Flush.size]
    split <;> omega
  · split at started
    · cases started
      simp only [Flush.size]
      omega
    · cases started
      simp only [Flush.size]
      omega

theorem clampTo_eq_zero_iff (v : Int) : clampTo relRunMax v = 0 ↔ v = 0 := by
  simp only [clampTo, relRunMax]
  omega

/-- Only an empty run is not flushed at all. -/
theorem startFlush_none {motion : MotionRun} :
    startFlush motion = none ↔
      motion.abs = none ∧ motion.dx = 0 ∧ motion.dy = 0 ∧ motion.wheel = 0 := by
  have empty : (capRun motion).isEmpty = true ↔
      motion.abs = none ∧ motion.dx = 0 ∧ motion.dy = 0 ∧ motion.wheel = 0 := by
    simp [MotionRun.isEmpty, capRun, clampTo_eq_zero_iff, and_assoc]
  rw [← empty]
  simp only [startFlush]
  split
  · rename_i nothing
    exact iff_of_true rfl nothing
  · rename_i something
    refine iff_of_false (fun none_ => ?_) something
    split at none_
    · cases none_
    · split at none_ <;> cases none_

/-- What a run starts with owes all of it, at its own position or the last. -/
theorem startFlush_owes {motion : MotionRun} {loop : Flush}
    (started : startFlush motion = some loop) (mode : PointerMode) :
    loop.dx = clampTo relRunMax motion.dx ∧ loop.dy = clampTo relRunMax motion.dy ∧
      loop.dw = clampTo relRunMax motion.wheel ∧
      (motion.abs = none → loop.position mode = none ∨ loop.position mode = mode.position) ∧
      ∀ p, motion.abs = some p → loop.position mode = some p := by
  simp only [startFlush] at started
  split at started
  · cases started
  split at started
  · rename_i x y here
    cases started
    have here : motion.abs = some (x, y) := here
    rw [here]
    exact ⟨rfl, rfl, rfl, nofun, fun p same => same⟩
  · rename_i nowhere
    have nowhere : motion.abs = none := nowhere
    rw [nowhere]
    split at started
    · cases started
      exact ⟨rfl, rfl, rfl, fun _ => Or.inl rfl, nofun⟩
    · rename_i still
      cases started
      rw [hasRel_iff, not_or, not_not, not_not] at still
      obtain ⟨dx, dy⟩ := still
      exact ⟨dx.symm, dy.symm, rfl, fun _ => Or.inr rfl, nofun⟩

/-- A run is flushed within 34 reports, which carry exactly what it was capped to: the
position first, every delta once, and the held mask throughout. -/
theorem flush_conserves (motion : MotionRun) (mode : PointerMode) (buttons : U8) :
    ∃ after reports,
      flushMotion 34 mode buttons motion = (after, reports.map MouseReport.frame, none) ∧
      (reports.map MouseReport.dx).sum = clampTo relRunMax motion.dx ∧
      (reports.map MouseReport.dy).sum = clampTo relRunMax motion.dy ∧
      (reports.map MouseReport.wheel).sum = clampTo relRunMax motion.wheel ∧
      (∀ report ∈ reports, report.buttons = buttons ∧ report.Within) ∧
      (∀ p, motion.abs = some p →
        (∃ first rest, reports = first :: rest ∧ first.position = some p) ∧
          ∀ report ∈ reports, report.position = none ∨ report.position = some p) ∧
      (motion.abs = none →
        ∀ report ∈ reports, report.position = none ∨ report.position = mode.position) ∧
      (motion.isEmpty = true → reports = []) ∧
      reports.length ≤ 34 := by
  unfold flushMotion
  cases started : startFlush motion with
  | none =>
      obtain ⟨nowhere, dx, dy, dw⟩ := startFlush_none.mp started
      rw [nowhere, dx, dy, dw]
      exact ⟨mode, [], rfl, rfl, rfl, rfl, nofun, nofun, nofun, fun _ => rfl, by decide⟩
  | some loop =>
      have finished := @frames_finish buttons 34 mode loop (startFlush_size started)
        (by decide)
      have short := frames_length buttons 34 mode loop
      rcases ran : loop.frames buttons 34 mode with ⟨after, frames, left⟩
      rw [ran] at finished short
      cases finished
      obtain ⟨reports, rfl, drains⟩ := frames_drain ran
      obtain ⟨dx, dy, dw, nowhere, somewhere⟩ := startFlush_owes started mode
      refine ⟨after, reports, ran, drains.dx.trans dx, drains.dy.trans dy, drains.dw.trans dw,
        fun report member => ?_, fun p here => ⟨?_, fun report member => ?_⟩,
        fun away report member => ?_, fun empty => ?_, by simpa using short⟩
      · exact ⟨(drains.each report member).1, (drains.each report member).2.1⟩
      · obtain ⟨first, rest, shape, position⟩ := drains.first
        exact ⟨first, rest, shape, position.trans (somewhere p here)⟩
      · rw [← somewhere p here]
        exact (drains.each report member).2.2
      · rcases (drains.each report member).2.2 with relative | same
        · exact Or.inl relative
        · rw [same]
          exact nowhere away
      · have nothing := startFlush_none.mpr (by
          simpa [MotionRun.isEmpty, and_assoc] using empty)
        rw [started] at nothing
        cases nothing

end NanoKvm.Input
