import IssueBridge.Record.Scalar
import IssueBridge.Time.Timestamp

/-! # Points in time in records

A point in time is a date, a date and a time of day, or a number of seconds since 1970; a number above
twenty thousand million counts milliseconds.
-/

namespace IssueBridge.Record

open Number Time

/-- Two digits and what follows them. -/
def twoDigits : List Char → Option (Nat × List Char)
  | a :: b :: rest =>
    if isAsciiDigit a && isAsciiDigit b then some (Text.number [a, b], rest) else none
  | _ => none

/-- Year, month and day with hyphens. -/
def readDay : List Char → Option (Date × List Char)
  | a :: b :: c :: d :: '-' :: rest => do
    if !([a, b, c, d].all isAsciiDigit) then none
    else
      let (month, rest) ← twoDigits rest
      match rest with
      | '-' :: rest =>
        let (day, rest) ← twoDigits rest
        return (⟨Text.number [a, b, c, d], month, day⟩, rest)
      | _ => none
  | _ => none

/-- Seconds, perhaps with a fraction cut to six digits. -/
def readSeconds : List Char → Option (Nat × Nat × List Char)
  | ':' :: rest => do
    let (second, rest) ← twoDigits rest
    match rest with
    | c :: more =>
      if c = '.' ∨ c = ',' then
        let ds := more.takeWhile isAsciiDigit
        if ds.isEmpty then none
        else
          let kept := ds.take 6
          return (second, Text.number kept * Nat.pow 10 (6 - kept.length), more.drop ds.length)
      else return (second, 0, rest)
    | [] => return (second, 0, [])
  | rest => some (0, 0, rest)

/-- The hyphen and the mathematical minus sign. -/
def minusSigns : List Char := ['-', '\u2212']

/-- The offset that takes up all of the text; none at all if the text is empty. -/
def readZone : List Char → Option (Option Offset)
  | [] => some none
  | ['Z'] => some (some .zero)
  | ['z'] => some (some .zero)
  | sign :: rest => do
    if sign ≠ '+' ∧ !minusSigns.contains sign then none
    else
      let (hour, rest) ← twoDigits rest
      let (minute, rest) ← twoDigits (match rest with
        | ':' :: more => more
        | more => more)
      if !rest.isEmpty ∨ 60 ≤ minute then none
      else
        let seconds : Int := (hour * 60 + minute : Nat) * 60
        let o ← Offset.ofSeconds? (if sign = '+' then seconds else -seconds)
        return some o

/-- The parts of a date and a time of day. -/
structure Parts where
  date : Date
  hour : Nat
  minute : Nat
  second : Nat
  micro : Nat
  offset : Option Offset

def Parts.wall? (p : Parts) : Option Wall := Wall.ofParts? p.date p.hour p.minute p.second p.micro

def separators : List Char := ['T', 't', ' ', '_']

def readParts (cs : List Char) : Option Parts := do
  let (date, rest) ← readDay cs
  match rest with
  | [] => return ⟨date, 0, 0, 0, 0, none⟩
  | c :: rest =>
    if !separators.contains c then none
    else
      let (hour, rest) ← twoDigits rest
      match rest with
      | ':' :: rest =>
        let (minute, rest) ← twoDigits rest
        let (second, micro, rest) ← readSeconds rest
        return ⟨date, hour, minute, second, micro, ← readZone rest⟩
      | _ => none

/-- The first moment of 1970, in microseconds. -/
def epoch : Int := (⟨1970, 1, 1⟩ : Date).dayNumber * microsPerDay

/-- From this number on a number counts milliseconds. -/
def millisAbove : Nat := 20000000000

/-- Whole seconds or milliseconds since 1970, in microseconds from the start of year 1. -/
def unixWhole (n : Int) : Int :=
  epoch + n * (if n.natAbs ≤ millisAbove then microsPerSecond else 1000)

/-- Seconds or milliseconds since 1970. What exceeds the whole number below is rounded to microseconds. -/
def unixFloat (x : Float) : Option Int :=
  if !x.isFinite || !(x.abs < 1e18) then none
  else
    let scale := if x.abs > Float.ofNat millisAbove then 1000 else 1000000
    let micros := ((x - x.floor) * Float.ofNat scale).round
    some (epoch + truncate x.floor * scale + truncate micros)

/-- A text of digits, perhaps with a sign and a point. -/
def unixText (cs : List Char) : Option Int :=
  let (negative, body) := splitSign cs
  let whole := body.takeWhile isAsciiDigit
  if !Form.fits64 (Text.number whole) then none
  else
    match body.drop whole.length with
    | [] => if whole.isEmpty then none else some (unixWhole (signed negative (Text.number whole)))
    | '.' :: places =>
      if places.all isAsciiDigit then do unixFloat ((← readDigits body).toFloat negative) else none
    | _ => none

/-- The moment some microseconds after the start of year 1. The calendar of records starts a year
earlier: a moment in year 0 is readable but out of range, any other one outside has the given defect. -/
def momentAt (outside : Defect) (micros : Int) : Reading Timestamp :=
  match Wall.ofMicros? micros with
  | some w => .good (.ofUniversal w)
  | none => .fail (if -(366 * microsPerDay : Int) ≤ micros ∧ micros < 0 then .momentRange else outside)

/-- The parts are those of a moment in year 0. -/
def isYearZero (p : Parts) : Bool :=
  p.date.year = 0 && ({ p with date := { p.date with year := 400 } }.wall?).isSome

def momentOfText (s : String) : Reading Timestamp :=
  match readParts s.toList with
  | some p =>
    match p.wall? with
    | some w => .good ⟨w, p.offset⟩
    | none => .fail (if isYearZero p then .momentRange else .momentSyntax)
  | none =>
    match unixText s.toList with
    | some n => momentAt .momentSyntax n
    | none => .fail .momentSyntax

def momentOfFloat (x : Float) : Reading Timestamp :=
  match unixFloat x with
  | some n => momentAt .momentRange n
  | none => .fail .momentRange

/-- A point in time in a delivery. -/
def Form.moment : Form Timestamp
  | .str s => momentOfText s
  | .int n => if fits64 n then momentAt .momentRange (unixWhole n) else .fail .notMoment
  | .float x => momentOfFloat x
  | _ => .fail .notMoment

/-- A point in time in a listing, where a number of more than 64 bits counts as a floating point number. -/
def Form.listedMoment : Form Timestamp
  | .int n =>
    if fits64 n || !(Float.ofInt n).isFinite then moment (.int n) else momentOfFloat (Float.ofInt n)
  | v => moment v

end IssueBridge.Record
