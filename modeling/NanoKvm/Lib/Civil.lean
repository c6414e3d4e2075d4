import Mathlib.Order.Nat
import Mathlib.Tactic.Common
import Mathlib.Tactic.IntervalCases

/-!
# The civil calendar

Dates of the Gregorian calendar with the rule for the day after, the number of a
date in the order of days, and a clock that ticks seconds through them.  A date
after another has the greater number, so that a date is known from its number.
-/

set_option autoImplicit false

namespace NanoKvm.Lib

structure Date where
  year : Nat
  month : Nat
  day : Nat
  deriving DecidableEq, Repr

def isLeap (year : Nat) : Bool := year % 4 = 0 && (year % 100 ≠ 0 || year % 400 = 0)

def monthLength (year month : Nat) : Nat :=
  if month = 2 then (if isLeap year then 29 else 28)
  else if month = 4 ∨ month = 6 ∨ month = 9 ∨ month = 11 then 30
  else 31

structure Date.Valid (date : Date) : Prop where
  month_pos : 1 ≤ date.month
  month_le : date.month ≤ 12
  day_pos : 1 ≤ date.day
  day_le : date.day ≤ monthLength date.year date.month

/-- The day after. -/
def Date.next (date : Date) : Date :=
  if date.day < monthLength date.year date.month then { date with day := date.day + 1 }
  else if date.month < 12 then ⟨date.year, date.month + 1, 1⟩
  else ⟨date.year + 1, 1, 1⟩

theorem monthLength_pos (year month : Nat) : 28 ≤ monthLength year month := by
  unfold monthLength
  split_ifs <;> decide

theorem monthLength_le (year month : Nat) : monthLength year month ≤ 31 := by
  unfold monthLength
  split_ifs <;> decide

theorem Date.next_valid {date : Date} (valid : date.Valid) : date.next.Valid := by
  have long := monthLength_pos date.year (date.month + 1)
  have last := monthLength_pos (date.year + 1) 1
  unfold Date.next
  split_ifs with inside early
  · exact ⟨valid.month_pos, valid.month_le, Nat.succ_pos _, inside⟩
  · exact ⟨Nat.succ_pos _, early, le_refl 1, by dsimp only; omega⟩
  · exact ⟨le_refl 1, Nat.le_of_ble_eq_true rfl, le_refl 1, by dsimp only; omega⟩

/-- The days of the year before a month. -/
def daysBefore (year month : Nat) : Nat :=
  if month ≤ 2 then 31 * (month - 1)
  else (153 * month - 457) / 5 + (if isLeap year then 60 else 59)

/-- The days of the years before a year. -/
def yearStart (year : Nat) : Nat :=
  365 * year + (year + 3) / 4 + (year + 399) / 400 - (year + 99) / 100

def Date.number (date : Date) : Nat :=
  yearStart date.year + daysBefore date.year date.month + date.day

theorem isLeap_iff (year : Nat) :
    isLeap year = true ↔ year % 4 = 0 ∧ (year % 100 ≠ 0 ∨ year % 400 = 0) := by
  simp [isLeap]

theorem yearStart_succ (year : Nat) :
    yearStart (year + 1) = yearStart year + if isLeap year then 366 else 365 := by
  have fourth : (year + 1 + 3) / 4 = (year + 3) / 4 + if year % 4 = 0 then 1 else 0 := by
    split_ifs <;> omega
  have century : (year + 1 + 99) / 100 = (year + 99) / 100 + if year % 100 = 0 then 1 else 0 := by
    split_ifs <;> omega
  have cycle : (year + 1 + 399) / 400 = (year + 399) / 400 + if year % 400 = 0 then 1 else 0 := by
    split_ifs <;> omega
  have rarer : (year + 99) / 100 ≤ (year + 3) / 4 := by omega
  unfold yearStart
  rw [fourth, century, cycle]
  generalize (year + 3) / 4 = fourths at *
  generalize (year + 99) / 100 = centuries at *
  generalize (year + 399) / 400 = cycles at *
  clear fourth century cycle
  simp only [isLeap_iff]
  split_ifs <;> omega

theorem yearStart_mono {year later : Nat} (le : year ≤ later) :
    yearStart year ≤ yearStart later := by
  refine monotone_nat_of_le_succ (fun year => ?_) le
  rw [yearStart_succ]
  exact Nat.le_add_right _ _

theorem daysBefore_succ (year month : Nat) (pos : 1 ≤ month) (early : month < 12) :
    daysBefore year (month + 1) = daysBefore year month + monthLength year month := by
  unfold daysBefore monthLength
  interval_cases month <;> cases isLeap year <;> rfl

theorem daysBefore_december (year : Nat) :
    daysBefore year 12 + monthLength year 12 = if isLeap year then 366 else 365 := by
  unfold daysBefore monthLength
  cases isLeap year <;> rfl

@[simp] theorem daysBefore_january (year : Nat) : daysBefore year 1 = 0 := rfl

theorem Date.number_next {date : Date} (valid : date.Valid) :
    date.next.number = date.number + 1 := by
  obtain ⟨pos, top, -, within⟩ := valid
  unfold Date.next Date.number
  split_ifs with inside early
  · rfl
  · have : date.day = monthLength date.year date.month := by omega
    have := daysBefore_succ date.year date.month pos early
    dsimp only
    omega
  · have : date.day = monthLength date.year date.month := by omega
    have december : date.month = 12 := by omega
    have past := daysBefore_december date.year
    rw [← december] at past
    rw [yearStart_succ, daysBefore_january]
    dsimp only
    omega

/-- A year is over before the next begins, a month likewise. -/
theorem daysBefore_lt (year : Nat) {month later : Nat} (pos : 1 ≤ month) (lt : month < later)
    (top : later ≤ 12) :
    daysBefore year month + monthLength year month ≤ daysBefore year later := by
  induction later with
  | zero => omega
  | succ later ih =>
      rcases Nat.lt_or_ge month later with before | here
      · have := ih before (by omega)
        have := daysBefore_succ year later (by omega) (by omega)
        omega
      · obtain rfl : month = later := by omega
        exact (daysBefore_succ year month pos (by omega)).ge

theorem number_within {date : Date} (valid : date.Valid) :
    yearStart date.year < date.number ∧ date.number ≤ yearStart (date.year + 1) := by
  obtain ⟨pos, top, first, within⟩ := valid
  have december := daysBefore_december date.year
  have succ := yearStart_succ date.year
  unfold Date.number
  refine ⟨by omega, ?_⟩
  rcases Nat.lt_or_ge date.month 12 with early | last
  · have := daysBefore_lt date.year pos early le_rfl
    omega
  · have here : date.month = 12 := by omega
    rw [here] at within ⊢
    omega

/-- The fields of a date, compared in this order. -/
def Date.fields (date : Date) : List Nat := [date.year, date.month, date.day]

@[simp] theorem Date.fields_length (date : Date) : date.fields.length = 3 := rfl

theorem Date.number_lt {date later : Date} (valid : date.Valid) (there : later.Valid)
    (lt : date.fields < later.fields) : date.number < later.number := by
  simp only [Date.fields, List.cons_lt_cons_iff, List.lt_irrefl, and_false, or_false] at lt
  rcases lt with year | ⟨year, month | ⟨month, day⟩⟩
  · have := (number_within valid).2
    have := (number_within there).1
    have : yearStart (date.year + 1) ≤ yearStart later.year := yearStart_mono year
    omega
  · have := daysBefore_lt date.year valid.month_pos month there.month_le
    have := valid.day_le
    have := there.day_pos
    unfold Date.number
    rw [← year]
    omega
  · unfold Date.number
    rw [← year, ← month]
    omega

theorem Date.fields_injective {date other : Date} (same : date.fields = other.fields) :
    date = other := by
  cases date
  cases other
  simp only [Date.fields, List.cons.injEq, and_true] at same
  obtain ⟨rfl, rfl, rfl⟩ := same
  rfl

theorem Date.number_lt_iff {date later : Date} (valid : date.Valid) (there : later.Valid) :
    date.number < later.number ↔ date.fields < later.fields := by
  refine ⟨fun lt => ?_, Date.number_lt valid there⟩
  by_cases gt : later.fields < date.fields
  · exact absurd lt (Date.number_lt there valid gt).le.not_gt
  · rcases List.le_iff_lt_or_eq.mp (List.not_lt.mp gt) with before | same
    · exact before
    · rw [Date.fields_injective same] at lt
      exact absurd lt (Nat.lt_irrefl _)

/-- Valid dates with one number are one date. -/
theorem Date.number_injective {date other : Date} (valid : date.Valid) (there : other.Valid)
    (same : date.number = other.number) : date = other := by
  have forward := (Date.number_lt_iff valid there).not.mp same.not_lt
  have backward := (Date.number_lt_iff there valid).not.mp same.not_gt
  exact Date.fields_injective
    (List.le_antisymm (List.not_lt.mp backward) (List.not_lt.mp forward))

/-- The next date is the only valid one with the next number. -/
theorem Date.next_eq {date later : Date} (valid : date.Valid) (there : later.Valid)
    (succ : later.number = date.number + 1) : date.next = later :=
  Date.number_injective (Date.next_valid valid) there
    ((Date.number_next valid).trans succ.symm)

structure Moment where
  date : Date
  hour : Nat
  minute : Nat
  second : Nat
  deriving DecidableEq, Repr

structure Moment.Valid (moment : Moment) : Prop where
  date : moment.date.Valid
  hour : moment.hour < 24
  minute : moment.minute < 60
  second : moment.second < 60

/-- The clock one second later; no minute has a leap second. -/
def Moment.tick (moment : Moment) : Moment :=
  if moment.second < 59 then { moment with second := moment.second + 1 }
  else if moment.minute < 59 then { moment with minute := moment.minute + 1, second := 0 }
  else if moment.hour < 23 then
    { moment with hour := moment.hour + 1, minute := 0, second := 0 }
  else ⟨moment.date.next, 0, 0, 0⟩

/-- The fields of a moment, compared in this order. -/
def Moment.fields (moment : Moment) : List Nat :=
  moment.date.fields ++ [moment.hour, moment.minute, moment.second]

end NanoKvm.Lib
