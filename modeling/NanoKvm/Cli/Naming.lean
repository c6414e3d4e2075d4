import NanoKvm.Lib.Civil
import NanoKvm.Lib.Digits
import Mathlib.Logic.Function.Iterate

/-!
# The default name of a screenshot

`default_name` and `utc_parts` of `cli/shot.rs`.  The arithmetic of the latter
counts years from March, in eras of 400 years; here it is shown to be the clock
of the calendar, ticking from the epoch.  All of it stays far below the range of
its words, which are numbers here.
-/

set_option autoImplicit false

namespace NanoKvm.Cli

open NanoKvm.Lib

def yearOfEra (doe : Nat) : Nat := (doe - doe / 1460 + doe / 36524 - doe / 146096) / 365

def utcParts (unixSecs : Nat) : Moment :=
  let days := unixSecs / 86400
  let rem := unixSecs % 86400
  let z := days + 719468
  let era := z / 146097
  let doe := z % 146097
  let yoe := yearOfEra doe
  let doy := doe - (365 * yoe + yoe / 4 - yoe / 100)
  let mp := (5 * doy + 2) / 153
  let day := doy - (153 * mp + 2) / 5 + 1
  let month := if mp < 10 then mp + 3 else mp - 9
  let year := yoe + era * 400 + if month ≤ 2 then 1 else 0
  ⟨⟨year, month, day⟩, rem / 3600, (rem / 60) % 60, rem % 60⟩

/-- The clock in nanoseconds from the epoch; a time before it counts as the epoch. -/
def unixSecs (now : Int) : Nat := if now < 0 then 0 else now.toNat / 1000000000

def nameStart : List Char := "nanokvm-".toList

def nameEnd : List Char := ".jpg".toList

def defaultName (now : Int) : List Char :=
  let moment := utcParts (unixSecs now)
  nameStart ++ padded 4 moment.date.year ++ padded 2 moment.date.month ++
    padded 2 moment.date.day ++ ['-'] ++ padded 2 moment.hour ++ padded 2 moment.minute ++
    padded 2 moment.second ++ nameEnd

example : utcParts 1709164800 = ⟨⟨2024, 2, 29⟩, 0, 0, 0⟩ := rfl

/-- Within a century no correction but the leap day of each fourth year is left. -/
theorem century_year (c r : Nat) (century : c ≤ 3) (inside : r < 36524) :
    (r - (24 * c + r) / 1460) / 365 < 100 ∧
      365 * ((r - (24 * c + r) / 1460) / 365) + (r - (24 * c + r) / 1460) / 365 / 4 ≤ r ∧
      r < 365 * ((r - (24 * c + r) / 1460) / 365 + 1) +
        ((r - (24 * c + r) / 1460) / 365 + 1) / 4 := by
  obtain ⟨q, s, cycles, below, rfl⟩ : ∃ q s, q ≤ 24 ∧ s < 1461 ∧ 1461 * q + s = r :=
    ⟨r / 1461, r % 1461, by omega, Nat.mod_lt _ (by decide), Nat.div_add_mod r 1461⟩
  omega

/-- The year of the era holds the day of the era. -/
theorem yearOfEra_holds (doe : Nat) (inside : doe < 146097) :
    yearOfEra doe < 400 ∧
      365 * yearOfEra doe + yearOfEra doe / 4 ≤ doe + yearOfEra doe / 100 ∧
      doe + (yearOfEra doe + 1) / 100 <
        365 * (yearOfEra doe + 1) + (yearOfEra doe + 1) / 4 + (yearOfEra doe + 1) / 400 := by
  by_cases last : doe = 146096
  · subst last
    decide
  obtain ⟨c, r, century, small, rfl⟩ : ∃ c r, c ≤ 3 ∧ r < 36524 ∧ 36524 * c + r = doe :=
    ⟨doe / 36524, doe % 36524, by omega, by omega, by omega⟩
  have found : yearOfEra (36524 * c + r) = 100 * c + (r - (24 * c + r) / 1460) / 365 := by
    have : (36524 * c + r) / 1460 = 25 * c + (24 * c + r) / 1460 := by omega
    have : (36524 * c + r) / 36524 = c := by omega
    have : (36524 * c + r) / 146096 = 0 := by omega
    unfold yearOfEra
    omega
  have holds := century_year c r century small
  rw [found]
  generalize (r - (24 * c + r) / 1460) / 365 = y at holds
  clear found last inside
  have : (100 * c + y) / 4 = 25 * c + y / 4 := by omega
  have : (100 * c + y) / 100 = c := by omega
  have : (100 * c + y + 1) / 4 = 25 * c + (y + 1) / 4 := by omega
  -- the last year of a century has its leap day in the era's last century only
  rcases Nat.lt_or_ge y 99 with early | late
  · have : (100 * c + y + 1) / 100 = c := by omega
    have : (100 * c + y + 1) / 400 = 0 := by omega
    omega
  · obtain rfl : y = 99 := by omega
    have : (100 * c + 99 + 1) / 100 = c + 1 := by omega
    have : (100 * c + 99 + 1) / 400 = (c + 1) / 4 := by omega
    omega

/-- The days before the March of a year, from the March of year 0. -/
def marchStart (year : Nat) : Nat := 365 * year + year / 4 + year / 400 - year / 100

theorem yearStart_march (year : Nat) :
    yearStart year + (if isLeap year then 60 else 59) = marchStart year + 60 := by
  have fourth : (year + 3) / 4 + (if year % 4 = 0 then 1 else 0) = year / 4 + 1 := by
    split_ifs <;> omega
  have century : (year + 99) / 100 + (if year % 100 = 0 then 1 else 0) = year / 100 + 1 := by
    split_ifs <;> omega
  have cycle : (year + 399) / 400 + (if year % 400 = 0 then 1 else 0) = year / 400 + 1 := by
    split_ifs <;> omega
  have rarer : (year + 99) / 100 ≤ (year + 3) / 4 := by omega
  have : year / 100 ≤ year / 4 := by omega
  unfold yearStart marchStart
  generalize (year + 3) / 4 = fourths at *
  generalize (year + 99) / 100 = centuries at *
  generalize (year + 399) / 400 = cycles at *
  simp only [isLeap_iff]
  split_ifs at * <;> omega

theorem marchStart_succ (year : Nat) :
    marchStart (year + 1) = marchStart year + if isLeap (year + 1) then 366 else 365 := by
  have here := yearStart_march year
  have there := yearStart_march (year + 1)
  have succ := yearStart_succ year
  split_ifs at * <;> omega

/-- The date of a day counted from the March of a year. -/
def marchDate (year doy : Nat) : Date :=
  let mp := (5 * doy + 2) / 153
  let day := doy - (153 * mp + 2) / 5 + 1
  let month := if mp < 10 then mp + 3 else mp - 9
  ⟨year + if month ≤ 2 then 1 else 0, month, day⟩

theorem month_holds (doy : Nat) (inside : doy < 366) :
    (5 * doy + 2) / 153 < 12 ∧ (153 * ((5 * doy + 2) / 153) + 2) / 5 ≤ doy ∧
      doy < (153 * ((5 * doy + 2) / 153 + 1) + 2) / 5 := by
  omega

theorem month_long (year mp : Nat) (early : mp < 10) :
    (153 * (mp + 1) + 2) / 5 = (153 * mp + 2) / 5 + monthLength year (mp + 3) := by
  unfold monthLength
  interval_cases mp <;> rfl

theorem marchDate_spec (year doy : Nat)
    (inside : doy < if isLeap (year + 1) then 366 else 365) :
    (marchDate year doy).Valid ∧ (marchDate year doy).number = marchStart year + doy + 61 := by
  have within : doy < 366 := by
    split_ifs at inside <;> omega
  obtain ⟨top, start, stop⟩ := month_holds doy within
  have march := yearStart_march year
  unfold marchDate
  generalize (5 * doy + 2) / 153 = mp at *
  dsimp only
  rcases Nat.lt_or_ge mp 10 with early | late
  · have long := month_long year mp early
    have start : ¬ mp + 3 ≤ 2 := by omega
    rw [if_pos early, if_neg start, Nat.add_zero]
    refine ⟨⟨Nat.succ_pos _, by dsimp only; omega, Nat.succ_pos _, by dsimp only; omega⟩, ?_⟩
    unfold Date.number daysBefore
    dsimp only
    rw [if_neg start]
    omega
  · -- January and February are of the year after
    have succ := yearStart_succ year
    have early : mp - 9 ≤ 2 := by omega
    rw [if_neg (Nat.not_lt.mpr late), if_pos early]
    obtain rfl | rfl : mp = 10 ∨ mp = 11 := by omega
    · refine ⟨⟨Nat.succ_pos _, Nat.le_of_ble_eq_true rfl, Nat.succ_pos _, ?_⟩, ?_⟩
      · change doy - 306 + 1 ≤ 31
        omega
      · change yearStart (year + 1) + 0 + (doy - 306 + 1) = _
        split_ifs at * <;> omega
    · refine ⟨⟨Nat.succ_pos _, Nat.le_of_ble_eq_true rfl, Nat.succ_pos _, ?_⟩, ?_⟩
      · change doy - 337 + 1 ≤ if isLeap (year + 1) then 29 else 28
        split_ifs at * <;> omega
      · change yearStart (year + 1) + 31 + (doy - 337 + 1) = _
        split_ifs at * <;> omega

def utcDate (days : Nat) : Date := (utcParts (86400 * days)).date

theorem utcParts_date (secs : Nat) : (utcParts secs).date = utcDate (secs / 86400) := by
  unfold utcDate utcParts
  have : 86400 * (secs / 86400) / 86400 = secs / 86400 := by omega
  rw [this]

theorem era_start (era yoe : Nat) (inside : yoe < 400) :
    marchStart (yoe + era * 400) = 146097 * era + (365 * yoe + yoe / 4 - yoe / 100) := by
  have : (yoe + era * 400) / 4 = yoe / 4 + 100 * era := by omega
  have : (yoe + era * 400) / 100 = yoe / 100 + 4 * era := by omega
  have : (yoe + era * 400) / 400 = era := by omega
  have : yoe / 100 ≤ yoe / 4 := by omega
  unfold marchStart
  omega

theorem era_stop (era yoe : Nat) (inside : yoe < 400) :
    marchStart (yoe + era * 400 + 1) =
      146097 * era + (365 * (yoe + 1) + (yoe + 1) / 4 + (yoe + 1) / 400 - (yoe + 1) / 100) := by
  have : (yoe + era * 400 + 1) / 4 = (yoe + 1) / 4 + 100 * era := by omega
  have : (yoe + era * 400 + 1) / 100 = (yoe + 1) / 100 + 4 * era := by omega
  have : (yoe + era * 400 + 1) / 400 = (yoe + 1) / 400 + era := by omega
  have : (yoe + 1) / 100 ≤ (yoe + 1) / 4 := by omega
  unfold marchStart
  omega

/-- The year of the era and the day of that year, as a date. -/
def eraDate (era doe : Nat) : Date :=
  marchDate (yearOfEra doe + era * 400)
    (doe - (365 * yearOfEra doe + yearOfEra doe / 4 - yearOfEra doe / 100))

theorem eraDate_spec (era doe : Nat) (inside : doe < 146097) :
    (eraDate era doe).Valid ∧ (eraDate era doe).number = 146097 * era + doe + 61 := by
  obtain ⟨small, start, stop⟩ := yearOfEra_holds doe inside
  unfold eraDate
  generalize yearOfEra doe = yoe at *
  have here := era_start era yoe small
  have next := era_stop era yoe small
  have succ := marchStart_succ (yoe + era * 400)
  have : yoe / 100 ≤ yoe / 4 := by omega
  obtain ⟨valid, number⟩ := marchDate_spec (yoe + era * 400)
    (doe - (365 * yoe + yoe / 4 - yoe / 100)) (by omega)
  exact ⟨valid, number.trans (by omega)⟩

theorem utcDate_eq (days : Nat) :
    utcDate days = eraDate ((days + 719468) / 146097) ((days + 719468) % 146097) := by
  have whole : 86400 * days / 86400 = days := Nat.mul_div_cancel_left days (by decide)
  unfold utcDate utcParts
  rw [whole]
  rfl

theorem utcDate_spec (days : Nat) :
    (utcDate days).Valid ∧ (utcDate days).number = days + 719529 := by
  have inside : (days + 719468) % 146097 < 146097 := Nat.mod_lt _ (by decide)
  have split := Nat.div_add_mod (days + 719468) 146097
  obtain ⟨valid, number⟩ := eraDate_spec ((days + 719468) / 146097) _ inside
  rw [utcDate_eq]
  exact ⟨valid, number.trans (by omega)⟩

theorem utcDate_succ (days : Nat) : utcDate (days + 1) = (utcDate days).next := by
  obtain ⟨valid, number⟩ := utcDate_spec days
  obtain ⟨there, after⟩ := utcDate_spec (days + 1)
  exact (Date.next_eq valid there (by omega)).symm

theorem utcParts_eq (secs : Nat) : utcParts secs =
    ⟨utcDate (secs / 86400), secs % 86400 / 3600, secs % 86400 / 60 % 60, secs % 86400 % 60⟩ := by
  rw [← utcParts_date]
  rfl

theorem utcParts_valid (secs : Nat) : (utcParts secs).Valid := by
  have hour : secs % 86400 / 3600 < 24 := by omega
  have minute : secs % 86400 / 60 % 60 < 60 := by omega
  have second : secs % 86400 % 60 < 60 := by omega
  rw [utcParts_eq]
  exact ⟨(utcDate_spec _).1, hour, minute, second⟩

theorem utcParts_succ (secs : Nat) : utcParts (secs + 1) = (utcParts secs).tick := by
  rw [utcParts_eq, utcParts_eq]
  unfold Moment.tick
  dsimp only
  split_ifs with second minute hour
  · have : (secs + 1) / 86400 = secs / 86400 := by omega
    rw [this, Moment.mk.injEq]
    exact ⟨rfl, by omega, by omega, by omega⟩
  · have : (secs + 1) / 86400 = secs / 86400 := by omega
    rw [this, Moment.mk.injEq]
    exact ⟨rfl, by omega, by omega, by omega⟩
  · have : (secs + 1) / 86400 = secs / 86400 := by omega
    rw [this, Moment.mk.injEq]
    exact ⟨rfl, by omega, by omega, by omega⟩
  · have : (secs + 1) / 86400 = secs / 86400 + 1 := by omega
    rw [this, utcDate_succ, Moment.mk.injEq]
    exact ⟨rfl, by omega, by omega, by omega⟩

/-- Every second is where the calendar's clock is after as many ticks from the epoch. -/
theorem utc_parts_tick_by_tick (secs : Nat) :
    utcParts secs = Moment.tick^[secs] ⟨⟨1970, 1, 1⟩, 0, 0, 0⟩ ∧ (utcParts secs).Valid := by
  refine ⟨?_, utcParts_valid secs⟩
  induction secs with
  | zero => rfl
  | succ secs ih => rw [Function.iterate_succ_apply', utcParts_succ, ih]

/-- A later second has the greater fields. -/
theorem utcParts_lt {secs later : Nat} (lt : secs < later) :
    (utcParts secs).fields < (utcParts later).fields := by
  obtain ⟨valid, number⟩ := utcDate_spec (secs / 86400)
  obtain ⟨there, after⟩ := utcDate_spec (later / 86400)
  rw [utcParts_eq, utcParts_eq]
  unfold Moment.fields
  rcases Nat.lt_or_ge (secs / 86400) (later / 86400) with before | same
  · have fields := (Date.number_lt_iff valid there).mp (by omega)
    exact append_lt_append fields (by rw [Date.fields_length, Date.fields_length]) _ _
  · have : secs / 86400 = later / 86400 := by omega
    rw [this]
    refine append_lt_append_left _ ?_
    simp only [List.cons_lt_cons_iff, List.not_lt_nil, and_false, or_false]
    omega

def nameShape : List (Nat × List Char) :=
  [(4, []), (2, []), (2, ['-']), (2, []), (2, []), (2, nameEnd)]

theorem defaultName_eq (now : Int) : defaultName now =
    nameStart ++ fieldsText nameShape (utcParts (unixSecs now)).fields := by
  simp [defaultName, Moment.fields, Date.fields, fieldsText, nameShape]

/-- The last second whose year has four digits. -/
def lastSortable : Nat := 253402300799

/-- All fields but the year fit their widths at any time. -/
theorem utcParts_tail_fits (secs : Nat) :
    Fits nameShape.tail (utcParts secs).fields.tail := by
  have moment := utcParts_valid secs
  have := monthLength_le (utcParts secs).date.year (utcParts secs).date.month
  obtain ⟨⟨-, month, -, day⟩, hour, minute, second⟩ := moment
  refine ⟨by decide, ?_, by decide, ?_, by decide, ?_, by decide, ?_, by decide, ?_, trivial⟩
  all_goals
    change _ < 100
    omega

theorem utcParts_fits {secs : Nat} (early : secs ≤ lastSortable) :
    Fits nameShape (utcParts secs).fields := by
  obtain ⟨valid, number⟩ := utcDate_spec (secs / 86400)
  have year : (utcParts secs).date.year < 10000 := by
    rw [utcParts_date]
    by_contra late
    have := (number_within valid).1
    have : yearStart 10000 ≤ yearStart (utcDate (secs / 86400)).year :=
      yearStart_mono (Nat.not_lt.mp late)
    have : yearStart 10000 = 3652425 := rfl
    unfold lastSortable at early
    omega
  exact ⟨by decide, year, utcParts_tail_fits secs⟩

theorem defaultName_lt {now later : Int} (bound : unixSecs later ≤ lastSortable)
    (lt : unixSecs now < unixSecs later) : defaultName now < defaultName later := by
  rw [defaultName_eq, defaultName_eq]
  exact append_lt_append_left _
    (fieldsText_lt nameShape (utcParts_fits (lt.le.trans bound)) (utcParts_fits bound)
      (utcParts_lt lt))

/-- The fields after the year have a fixed length, so that the year is read off as well. -/
theorem defaultName_injective {now later : Int} (same : defaultName now = defaultName later) :
    unixSecs now = unixSecs later := by
  rw [defaultName_eq, defaultName_eq] at same
  have here := utcParts_tail_fits (unixSecs now)
  have there := utcParts_tail_fits (unixSecs later)
  have text := List.append_cancel_left same
  change padded 4 _ ++ [] ++ fieldsText nameShape.tail (utcParts (unixSecs now)).fields.tail =
    padded 4 _ ++ [] ++ fieldsText nameShape.tail (utcParts (unixSecs later)).fields.tail at text
  have long := (fieldsText_length here).trans (fieldsText_length there).symm
  obtain ⟨year, tail⟩ := List.append_inj' text long
  have fields : (utcParts (unixSecs now)).fields = (utcParts (unixSecs later)).fields :=
    congrArg₂ List.cons (padded_injective (List.append_cancel_right year))
      (fieldsText_injective here there tail)
  rcases Nat.lt_trichotomy (unixSecs now) (unixSecs later) with lt | eq | gt
  · have := utcParts_lt lt
    rw [fields] at this
    exact absurd this (List.lt_irrefl _)
  · exact eq
  · have := utcParts_lt gt
    rw [fields] at this
    exact absurd this (List.lt_irrefl _)

/-- One name for one second, and while years have four digits the names sort by time. -/
theorem default_names_sort (now later : Int) :
    (defaultName now = defaultName later ↔ unixSecs now = unixSecs later) ∧
      (unixSecs now ≤ lastSortable → unixSecs later ≤ lastSortable →
        (defaultName now < defaultName later ↔ unixSecs now < unixSecs later)) := by
  refine ⟨⟨defaultName_injective, fun same => by unfold defaultName; rw [same]⟩, ?_⟩
  refine fun here there => ⟨fun lt => ?_, defaultName_lt there⟩
  rcases Nat.lt_trichotomy (unixSecs now) (unixSecs later) with before | same | after
  · exact before
  · unfold defaultName at lt
    rw [same] at lt
    exact absurd lt (List.lt_irrefl _)
  · exact absurd lt (List.lt_asymm (defaultName_lt here after))

theorem default_names_sort_new_year :
    "nanokvm-20241231-235959.jpg".toList < "nanokvm-20250101-000000.jpg".toList := by
  have first : defaultName 1735689599000000000 = "nanokvm-20241231-235959.jpg".toList := by
    rfl
  have second : defaultName 1735689600000000000 = "nanokvm-20250101-000000.jpg".toList := by
    rfl
  rw [← first, ← second]
  exact ((default_names_sort 1735689599000000000 1735689600000000000).2 (by decide)
    (by decide +kernel)).mpr (by decide)

end NanoKvm.Cli
