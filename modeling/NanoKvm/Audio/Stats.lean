import Mathlib.Data.List.DropRight

/-!
# What the audio path reports

`AudioError`, `AudioSide` and the conditions of `AudioStats` in `audio/mod.rs`.
Each operation on the statistics is one lock section; the conditions and the marks
of the opens are under two locks, which no section holds together.  Instants are
nanoseconds.
-/

set_option autoImplicit false

namespace NanoKvm.Audio

inductive AudioError where
  | noCard (why : String)
  | busy (device why : String)
  | gone (device why : String)
  /-- The variant `Open`. -/
  | openFailed (device why : String)
  | io (device why : String)
  deriving DecidableEq, Repr

def AudioError.kind : AudioError → String
  | .noCard _ => "no card"
  | .busy _ _ => "busy"
  | .gone _ _ => "gone"
  | .openFailed _ _ => "open failed"
  | .io _ _ => "I/O error"

/-- `Display` -/
def AudioError.display : AudioError → String
  | .noCard why => "no sound card: " ++ why
  | .busy device why => device ++ " is busy: " ++ why ++ ". Another client holds the card"
  | .gone device why => device ++ " is gone: " ++ why
  | .openFailed device why => "cannot open " ++ device ++ ": " ++ why
  | .io device why => device ++ ": " ++ why

inductive AudioSide where
  | capture
  | playback
  deriving DecidableEq, Repr

/-- Capture first, wherever one is shown. -/
def AudioSide.all : List AudioSide := [.capture, .playback]

/-- `Display` -/
def AudioSide.display : AudioSide → String
  | .capture => "capture"
  | .playback => "playback"

/-! ## One value a side -/

/-- An array of two, by `AudioSide::index`. -/
structure PerSide (α : Type) where
  capture : α
  playback : α
  deriving DecidableEq, Repr

section PerSide
variable {α : Type}

def PerSide.get (held : PerSide α) : AudioSide → α
  | .capture => held.capture
  | .playback => held.playback

def PerSide.set (held : PerSide α) (side : AudioSide) (value : α) : PerSide α :=
  match side with
  | .capture => { held with capture := value }
  | .playback => { held with playback := value }

@[simp] theorem PerSide.get_set (held : PerSide α) (side : AudioSide) (value : α) :
    (held.set side value).get side = value := by
  cases side <;> rfl

theorem PerSide.get_set_other (held : PerSide α) {side other : AudioSide} (value : α)
    (apart : side ≠ other) : (held.set side value).get other = held.get other := by
  cases side <;> cases other <;> first | rfl | exact absurd rfl apart

end PerSide

/-! ## The statistics -/

structure AudioCondition where
  side : AudioSide
  kind : String
  message : String
  since : Nat
  deriving DecidableEq, Repr

structure AudioStats where
  conditionsLogged : Nat
  recoveriesLogged : Nat
  conditions : PerSide (Option AudioCondition)
  /-- The field `opening`: since when a side has been in its open, or its first period. -/
  openings : PerSide (Option Nat)
  openingLimitMs : Nat
  deriving DecidableEq, Repr

def AudioStats.default : AudioStats := ⟨0, 0, ⟨none, none⟩, ⟨none, none⟩, 0⟩

def u64Max : Nat := 18446744073709551615

namespace AudioStats
variable (stats : AudioStats) (side : AudioSide)

/-- New is by kind and message; whether it is to be logged. -/
def report (error : AudioError) (now : Nat) : Bool × AudioStats :=
  let message := error.display
  if (stats.conditions.get side).any fun c => c.kind = error.kind && c.message = message then
    (false, stats)
  else
    (true, { stats with
      conditions := stats.conditions.set side (some ⟨side, error.kind, message, now⟩)
      conditionsLogged := stats.conditionsLogged + 1 })

def recovered : Bool × AudioStats :=
  let after := { stats with conditions := stats.conditions.set side none }
  if (stats.conditions.get side).isSome then
    (true, { after with recoveriesLogged := stats.recoveriesLogged + 1 })
  else (false, after)

def conditionOf : Option AudioCondition := stats.conditions.get side

/-- The condition to show. -/
def condition : Option AudioCondition := AudioSide.all.findSome? stats.conditionOf

def setOpeningLimit (ms : Nat) : AudioStats := { stats with openingLimitMs := min ms u64Max }

def opening (now : Nat) : AudioStats :=
  { stats with openings := stats.openings.set side (some now) }

def opened : AudioStats := { stats with openings := stats.openings.set side none }

def openingSides : PerSide Bool := ⟨stats.openings.capture.isSome, stats.openings.playback.isSome⟩

/-- The sides `supervise_opening` finds overdue, under the first of its locks. -/
def overdue (now : Nat) : List AudioSide :=
  if stats.openingLimitMs = 0 then []
  else AudioSide.all.filter fun side =>
    (stats.openings.get side).any fun since => now - since ≥ stats.openingLimitMs * 1000000

end AudioStats

/-- The thousandths of a second, as `Debug` of a `Duration` has them. -/
def fraction (thousandths : Nat) : String :=
  let digits := [thousandths / 100, thousandths / 10 % 10, thousandths % 10].rdropWhile (· = 0)
  if digits = [] then "" else "." ++ String.join (digits.map toString)

/-- `Debug` of `Duration::from_millis` -/
def durationDebug (ms : Nat) : String :=
  if ms ≥ 1000 then toString (ms / 1000) ++ fraction (ms % 1000) ++ "s"
  else if ms = 0 then "0ns"
  else toString ms ++ "ms"

/-- What `supervise_opening` reports of an overdue side. -/
def overdueError (limitMs : Nat) (side : AudioSide) : AudioError :=
  .openFailed side.display
    ("the open has not returned in " ++ durationDebug limitMs ++
      ". It is inside a device call that has not come back; " ++
      "nothing is waiting on it and video and input are unaffected")

/-! ## What a section does to the conditions -/

section Conditions
variable (stats : AudioStats) {side other : AudioSide} (error : AudioError) (now : Nat)

/-- A reported side has a condition. -/
theorem report_some : ((stats.report side error now).2.conditionOf side).isSome = true := by
  unfold AudioStats.report
  dsimp only
  split
  · rename_i same
    unfold AudioStats.conditionOf
    cases held : stats.conditions.get side with
    | none =>
        rw [held] at same
        cases same
    | some condition => rfl
  · simp [AudioStats.conditionOf]

theorem report_other (apart : side ≠ other) :
    (stats.report side error now).2.conditionOf other = stats.conditionOf other := by
  unfold AudioStats.report
  dsimp only
  split
  · rfl
  · exact stats.conditions.get_set_other _ apart

theorem recovered_none : (stats.recovered side).2.conditionOf side = none := by
  unfold AudioStats.recovered
  dsimp only
  split <;> exact stats.conditions.get_set side none

theorem recovered_other (apart : side ≠ other) :
    (stats.recovered side).2.conditionOf other = stats.conditionOf other := by
  unfold AudioStats.recovered
  dsimp only
  split <;> exact stats.conditions.get_set_other none apart

end Conditions

end NanoKvm.Audio
