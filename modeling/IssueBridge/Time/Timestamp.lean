import IssueBridge.Number.Notation
import IssueBridge.Time.Calendar

/-! # Points in time

A clock reading is a number of microseconds since the start of year 1, below the start of year 10000.
A timestamp is a clock reading and perhaps its offset from universal time; without one it counts as
universal time.
-/

namespace IssueBridge.Time

def microsPerSecond : Nat := 1000000

def microsPerDay : Nat := 86400 * microsPerSecond

/-- The first clock reading after the last one. -/
def wallLimit : Nat := 3652059 * microsPerDay

structure Wall where
  micros : Nat
  lt_limit : micros < wallLimit
  deriving DecidableEq

instance : Repr Wall := ⟨fun w _ => repr w.micros⟩

/-- A difference from universal time, less than a day. -/
structure Offset where
  micros : Int
  lt_day : micros.natAbs < microsPerDay
  deriving DecidableEq

instance : Repr Offset := ⟨fun o _ => repr o.micros⟩

structure Timestamp where
  wall : Wall
  offset : Option Offset
  deriving DecidableEq, Repr

namespace Wall

def ofMicros? (n : Int) : Option Wall :=
  if h : 0 ≤ n ∧ n < wallLimit then some ⟨n.toNat, by omega⟩ else none

/-- The reading `delta` microseconds later, if the calendar has it. -/
def shift? (w : Wall) (delta : Int) : Option Wall := ofMicros? (w.micros + delta)

def date (w : Wall) : Date := Date.ofDayNumber (w.micros / microsPerDay)

def secondOfDay (w : Wall) : Nat := w.micros / microsPerSecond % 86400

def hour (w : Wall) : Nat := w.secondOfDay / 3600

def minute (w : Wall) : Nat := w.secondOfDay / 60 % 60

def second (w : Wall) : Nat := w.secondOfDay % 60

def micro (w : Wall) : Nat := w.micros % microsPerSecond

/-- The reading of a date and a time of day, if there is such a date and such a time. -/
def ofParts? (d : Date) (hour minute second micro : Nat) : Option Wall :=
  if d.Valid ∧ hour < 24 ∧ minute < 60 ∧ second < 60 ∧ micro < microsPerSecond then
    let seconds := ((d.dayNumber * 24 + hour) * 60 + minute) * 60 + second
    ofMicros? (seconds * microsPerSecond + micro : Nat)
  else none

/-- The reading cut to the whole second. -/
def floorSecond (w : Wall) : Wall :=
  ⟨w.micros / microsPerSecond * microsPerSecond,
    Nat.lt_of_le_of_lt (Nat.div_mul_le_self ..) w.lt_limit⟩

def dateText (w : Wall) : String :=
  let d := w.date
  Number.padded 4 d.year ++ "-" ++ Number.padded 2 d.month ++ "-" ++ Number.padded 2 d.day

def clockText (w : Wall) : String :=
  Number.padded 2 w.hour ++ ":" ++ Number.padded 2 w.minute ++ ":" ++ Number.padded 2 w.second

/-- Date and time of day; microseconds stand there only if there are any. -/
def text (w : Wall) : String :=
  w.dateText ++ "T" ++ w.clockText ++
    (if w.micro = 0 then "" else "." ++ Number.padded 6 w.micro)

end Wall

namespace Offset

def zero : Offset := ⟨0, by decide⟩

def ofMicros? (n : Int) : Option Offset :=
  if h : n.natAbs < microsPerDay then some ⟨n, h⟩ else none

def ofSeconds? (n : Int) : Option Offset := ofMicros? (n * microsPerSecond)

/-- Hours and minutes with a sign; seconds and microseconds only if there are any. -/
def text (o : Offset) : String :=
  let n := o.micros.natAbs
  let s := n / microsPerSecond
  let us := n % microsPerSecond
  (if o.micros < 0 then "-" else "+") ++ Number.padded 2 (s / 3600) ++ ":" ++
    Number.padded 2 (s / 60 % 60) ++
    (if s % 60 = 0 ∧ us = 0 then "" else ":" ++ Number.padded 2 (s % 60)) ++
    (if us = 0 then "" else "." ++ Number.padded 6 us)

end Offset

namespace Timestamp

def text (t : Timestamp) : String :=
  t.wall.text ++ (match t.offset with
    | none => ""
    | some o => o.text)

/-- The offset in microseconds, none counting as universal time. -/
def offsetMicros (t : Timestamp) : Int :=
  match t.offset with
  | none => 0
  | some o => o.micros

/-- The clock reading in universal time, if the calendar has it. -/
def universal? (t : Timestamp) : Option Wall := t.wall.shift? (-t.offsetMicros)

/-- The microseconds since the start of year 1 in universal time. -/
def instant (t : Timestamp) : Int := t.wall.micros - t.offsetMicros

def ofUniversal (w : Wall) : Timestamp := ⟨w, some .zero⟩

/-- The same clock reading, in universal time if it had no offset. -/
def withZone (t : Timestamp) : Timestamp := { t with offset := some (t.offset.getD .zero) }

/-- The timestamp `delta` microseconds later on its own clock. -/
def shift? (t : Timestamp) (delta : Int) : Option Timestamp :=
  (t.wall.shift? delta).map fun w => { t with wall := w }

end Timestamp

end IssueBridge.Time
