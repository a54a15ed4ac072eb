/-! # The calendar

Days are numbered from the first day of year 1, which is day 0, by the Gregorian rule for all years.
-/

namespace IssueBridge.Time

def isLeap (y : Nat) : Bool := y % 4 = 0 && (y % 100 ≠ 0 || y % 400 = 0)

def monthLengths (leap : Bool) : List Nat :=
  [31, if leap then 29 else 28, 31, 30, 31, 30, 31, 31, 30, 31, 30, 31]

structure Date where
  year : Nat
  month : Nat
  day : Nat
  deriving DecidableEq, Repr

def daysInMonth (y m : Nat) : Nat := (monthLengths (isLeap y)).getD (m - 1) 0

/-- A day of the calendar between the years 1 and 9999. -/
def Date.Valid (d : Date) : Prop :=
  1 ≤ d.year ∧ d.year ≤ 9999 ∧ 1 ≤ d.month ∧ d.month ≤ 12 ∧
    1 ≤ d.day ∧ d.day ≤ daysInMonth d.year d.month

instance (d : Date) : Decidable d.Valid := by unfold Date.Valid; infer_instance

/-- The number of days in the years before `y`. -/
def daysBeforeYear (y : Nat) : Nat :=
  let p := y - 1
  p * 365 + p / 4 - p / 100 + p / 400

def daysBeforeMonth (leap : Bool) (m : Nat) : Nat := ((monthLengths leap).take (m - 1)).foldl (· + ·) 0

def Date.dayNumber (d : Date) : Nat :=
  daysBeforeYear d.year + daysBeforeMonth (isLeap d.year) d.month + (d.day - 1)

/-- The month and the day of the month, from the lengths of the months left and the days before. -/
def monthFrom (month rest : Nat) : List Nat → Nat × Nat
  | [] => (month, rest + 1)
  | len :: more => if rest < len then (month, rest + 1) else monthFrom (month + 1) (rest - len) more

/-- The years since year 1 and the days since the start of the year, by cycles of 400, 100 and 4. -/
def yearFrom (n : Nat) : Nat × Nat :=
  let r := n % 146097
  let centuries := min (r / 36524) 3
  let r := r - centuries * 36524
  let fours := r / 1461
  let r := r % 1461
  let ones := min (r / 365) 3
  (n / 146097 * 400 + centuries * 100 + fours * 4 + ones, r - ones * 365)

def Date.ofDayNumber (n : Nat) : Date :=
  let (years, rest) := yearFrom n
  let (month, day) := monthFrom 1 rest (monthLengths (isLeap (years + 1)))
  ⟨years + 1, month, day⟩

/-- The day of the week, Monday being 0. -/
def weekday (dayNumber : Nat) : Nat := dayNumber % 7

/-- The day number of the Monday of a year's first week, the week with the year's first Thursday. -/
def firstMonday (y : Nat) : Int :=
  let start := daysBeforeYear y
  let w := weekday start
  if w ≤ 3 then (start : Int) - w else (start : Int) + 7 - w

/-- A year has a week 53 if it starts on a Thursday, or on a Wednesday in a leap year. -/
def hasWeek53 (y : Nat) : Bool :=
  let w := weekday (daysBeforeYear y)
  w = 3 || (w = 2 && isLeap y)

/-- The day of a week, weeks and days counted from 1. -/
def weekDate? (y week day : Nat) : Option Date :=
  if 1 ≤ y ∧ y ≤ 9999 ∧ 1 ≤ week ∧ (week ≤ 52 ∨ (week = 53 ∧ hasWeek53 y)) ∧
      1 ≤ day ∧ day ≤ 7 then
    let n := firstMonday y + ((week - 1 : Nat) : Int) * 7 + ((day - 1 : Nat) : Int)
    if 0 ≤ n then some (Date.ofDayNumber n.toNat) else none
  else none

def monthName (m : Nat) : String :=
  ["January", "February", "March", "April", "May", "June", "July", "August", "September", "October",
    "November", "December"].getD (m - 1) ""

end IssueBridge.Time
