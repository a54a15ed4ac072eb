import IssueBridge.Number.Numeral
import IssueBridge.Time.Timestamp

/-! # Reading ISO 8601

A date is given by month and day or by week and weekday, with or without hyphens. Any one character
may separate it from a time of day, which may be cut short after hours or minutes, and an offset may
close it.
-/

namespace IssueBridge.Time.Iso

open Number

/-- A number of exactly `n` ASCII digits and what follows it. -/
def fixedDigits (n : Nat) (cs : List Char) : Option (Nat × List Char) :=
  let ds := cs.take n
  if ds.length = n ∧ ds.all isAsciiDigit then some (Text.number ds, cs.drop n) else none

/-- Drops a hyphen, if hyphens are in use. -/
def hyphen (used : Bool) (cs : List Char) : Option (List Char) :=
  if used then
    match cs with
    | '-' :: rest => some rest
    | _ => none
  else some cs

/-- The date that takes up the whole of `cs`. -/
def readDate (cs : List Char) : Option Date := do
  let (year, rest) ← fixedDigits 4 cs
  let used := rest.head? = some '-'
  let rest ← hyphen used rest
  match rest with
  | 'W' :: rest =>
    let (week, rest) ← fixedDigits 2 rest
    if rest.isEmpty then weekDate? year week 1
    else
      let (day, rest) ← fixedDigits 1 (← hyphen used rest)
      if rest.isEmpty then weekDate? year week day else none
  | rest =>
    let (month, rest) ← fixedDigits 2 rest
    let (day, rest) ← fixedDigits 2 (← hyphen used rest)
    if rest.isEmpty then some ⟨year, month, day⟩ else none

/-- Where the date ends. A week without hyphens is followed by an odd number of digits exactly if one
of them is its weekday and the next the separator. -/
def dateLength (cs : List Char) : Nat :=
  let charAt := fun i : Nat => cs.getD i ' '
  if cs.length = 7 then 7
  else if charAt 4 = '-' then
    if charAt 5 = 'W' then
      if cs.length > 8 ∧ charAt 8 = '-' then
        if cs.length > 10 ∧ isAsciiDigit (charAt 10) then 8 else 10
      else 8
    else 10
  else if charAt 4 = 'W' then
    let run := ((cs.drop 7).takeWhile isAsciiDigit).length
    if run < 2 then 7 + run else if run % 2 = 1 then 7 else 8
  else 8

/-- A time of day or an offset; `complete` says that nothing was left over. -/
structure Clock where
  hour : Nat
  minute : Nat
  second : Nat
  micro : Nat
  complete : Bool

/-- Fills up the microseconds from the digits after the point; digits after the sixth are dropped. -/
def readFraction (hms : Nat × Nat × Nat) (cs : List Char) : Option Clock :=
  let ds := cs.take 6
  if ds.all isAsciiDigit then
    let micro := Text.number ds * Nat.pow 10 (6 - ds.length)
    some ⟨hms.1, hms.2.1, hms.2.2, micro, ((cs.drop 6).dropWhile isAsciiDigit).isEmpty⟩
  else none

/-- The part number `i` of the hours, minutes and seconds. -/
def setPart (hms : Nat × Nat × Nat) (i n : Nat) : Nat × Nat × Nat :=
  match i with
  | 0 => (n, hms.2.1, hms.2.2)
  | 1 => (hms.1, n, hms.2.2)
  | _ => (hms.1, hms.2.1, n)

/-- Reads `left` more parts of two digits. The first character after the hours says whether colons are
in use; a point or comma ends the parts early. One ASCII character may be left over. -/
def readParts (left : Nat) (colons : Option Bool) (hms : Nat × Nat × Nat) (cs : List Char) :
    Option Clock :=
  match left with
  | 0 => readFraction hms cs
  | left + 1 => do
    let (n, rest) ← fixedDigits 2 cs
    let hms := setPart hms (2 - left) n
    match rest with
    | [] => some ⟨hms.1, hms.2.1, hms.2.2, 0, true⟩
    | [c] => if c.toNat < 0x80 then some ⟨hms.1, hms.2.1, hms.2.2, 0, false⟩ else none
    | c :: more =>
      let used := colons.getD (c = ':')
      if used && c = ':' then readParts left (some used) hms more
      else if c = '.' ∨ c = ',' then readFraction hms more
      else if used then none
      else readParts left (some used) hms rest

def readClock (cs : List Char) : Option Clock := readParts 3 none (0, 0, 0) cs

def isZoneMark (c : Char) : Bool := c = '+' || c = '-' || c = 'Z'

/-- An offset with its sign or mark. -/
def readOffset : List Char → Option Offset
  | 'Z' :: rest => if rest.isEmpty then some .zero else none
  | sign :: rest => do
    let c ← readClock rest
    if !c.complete then none
    else
      let seconds : Int := ((c.hour * 60 + c.minute) * 60 + c.second : Nat)
      let micros : Int := if seconds = 0 then 0 else seconds * microsPerSecond + c.micro
      Offset.ofMicros? (if sign = '-' then -micros else micros)
  | [] => none

/-- A time of day and an offset, after the separator. What is left over after a time of day is an
error only if no offset follows. -/
def readTime (cs : List Char) : Option (Clock × Option Offset) := do
  let clock := cs.takeWhile fun c => !isZoneMark c
  let c ← readClock clock
  match cs.drop clock.length with
  | [] => if c.complete then some (c, none) else none
  | zone => return (c, some (← readOffset zone))

def read (cs : List Char) : Option Timestamp := do
  if cs.length < 7 then none
  else
    let n := dateLength cs
    let date ← readDate (cs.take n)
    match cs.drop n with
    | [] => return ⟨← Wall.ofParts? date 0 0 0 0, none⟩
    | _ :: rest =>
      let (c, offset) ← readTime rest
      return ⟨← Wall.ofParts? date c.hour c.minute c.second c.micro, offset⟩

end IssueBridge.Time.Iso
