import IssueBridge.Number.Numeral
import IssueBridge.Time.Timestamp
import IssueBridge.Toml.Text
import IssueBridge.Value.Basic

/-! # Numbers and points in time in TOML

Single underscores may stand between the digits of a number. Whole numbers may be written with the
bases 2, 8 and 16. A date may be followed by a time of day and an offset; a time may stand alone.
-/

namespace IssueBridge.Toml

inductive Fault
  | badSyntax
  /-- Too many lists and tables lie in one another. -/
  | tooDeep
  /-- A whole number with too many digits. -/
  | digitLimit (digits : Nat)
  deriving DecidableEq, Repr

/-- More digits after a first one. -/
def moreDigits (p : Char → Bool) : List Char → List Char × List Char
  | '_' :: c :: rest =>
    if p c then
      let (ds, more) := moreDigits p rest
      (c :: ds, more)
    else ([], '_' :: c :: rest)
  | c :: rest =>
    if p c then
      let (ds, more) := moreDigits p rest
      (c :: ds, more)
    else ([], c :: rest)
  | [] => ([], [])

/-- A run of digits that starts with one. -/
def grouped (p : Char → Bool) : List Char → Option (List Char × List Char)
  | c :: rest =>
    if p c then
      let (ds, more) := moreDigits p rest
      some (c :: ds, more)
    else none
  | [] => none

/-- The value of a digit in a base. -/
def digitIn? (base : Nat) (c : Char) : Option Nat := (Text.Hex.value? c).filter (· < base)

/-- A whole number after the mark of its base. -/
def readBased (cs : List Char) : Option (Int × List Char) := do
  match cs with
  | '0' :: mark :: rest =>
    let base ← [('x', 16), ('o', 8), ('b', 2)].lookup mark
    let (ds, more) ← grouped (fun c => (digitIn? base c).isSome) rest
    return (Int.ofNat (ds.foldl (fun n c => base * n + (digitIn? base c).getD 0) 0), more)
  | _ => none

/-- The digits after a point. -/
def readPlaces : List Char → List Char × List Char
  | '.' :: rest => (grouped Number.isAsciiDigit rest).getD ([], '.' :: rest)
  | cs => ([], cs)

def readPower (cs : List Char) : Option (Int × List Char) :=
  match cs with
  | c :: rest =>
    if c = 'e' ∨ c = 'E' then do
      let (negative, body) := Number.splitSign rest
      let (ds, more) ← grouped Number.isAsciiDigit body
      return (Number.signed negative (Text.number ds), more)
    else none
  | [] => none

/-- A decimal number; it is whole if it has neither places nor an exponent. -/
def readDecimal (cs : List Char) : Except Fault (Option (Value × List Char)) :=
  let (negative, body) := Number.splitSign cs
  let whole := match body with
    | '0' :: rest => some (['0'], rest)
    | body => grouped Number.isAsciiDigit body
  match whole with
  | none => .ok none
  | some (ds, rest) =>
    let (places, rest) := readPlaces rest
    match places, readPower rest with
    | [], none =>
      if ds.length ≤ Text.maxDigits then
        .ok (some (.int (Number.signed negative (Text.number ds)), rest))
      else .error (.digitLimit ds.length)
    | places, power =>
      let (e, rest) := power.getD (0, rest)
      .ok (some (.float (Number.ofParts negative (Text.number (ds ++ places)) (e - places.length)), rest))

/-- The infinities and the undefined number. -/
def specialNumbers : List (String × Float) := [
  ("inf", 1.0 / 0.0), ("+inf", 1.0 / 0.0), ("-inf", -1.0 / 0.0),
  ("nan", 0.0 / 0.0), ("+nan", 0.0 / 0.0), ("-nan", 0.0 / 0.0)]

def readSpecial (cs : List Char) : Option (Value × List Char) :=
  specialNumbers.findSome? fun (name, x) =>
    if name.toList.isPrefixOf cs then some (.float x, cs.drop name.length) else none

/-- Two digits below a bound. -/
def readPair (low high : Nat) : List Char → Option (Nat × List Char)
  | a :: b :: rest =>
    let n := Text.number [a, b]
    if Number.isAsciiDigit a && Number.isAsciiDigit b && low ≤ n && n ≤ high then some (n, rest) else none
  | _ => none

/-- A given character. -/
def readChar (c : Char) : List Char → Option (List Char)
  | d :: rest => if d = c then some rest else none
  | [] => none

/-- What is left after a time of day. -/
def afterClock (cs : List Char) : Option (List Char) := do
  let (_, rest) ← readPair 0 23 cs
  let (_, rest) ← readPair 0 59 (← readChar ':' rest)
  let (_, rest) ← readPair 0 59 (← readChar ':' rest)
  match rest with
  | '.' :: more =>
    let ds := more.takeWhile Number.isAsciiDigit
    return if ds.isEmpty then rest else more.drop ds.length
  | _ => return rest

/-- What is left after an offset, if there is one. -/
def afterOffset (cs : List Char) : List Char :=
  match cs with
  | 'Z' :: rest => rest
  | 'z' :: rest => rest
  | sign :: rest =>
    if sign = '+' ∨ sign = '-' then
      (do
        let (_, rest) ← readPair 0 23 rest
        let (_, rest) ← readPair 0 59 (← readChar ':' rest)
        return rest).getD cs
    else cs
  | [] => []

def isDateMark (c : Char) : Bool := c = 'T' || c = 't' || c = ' '

/-- What is left after a date, and the date. -/
def readDate (cs : List Char) : Option (Time.Date × List Char) := do
  let year := cs.take 4
  if year.length < 4 || !year.all Number.isAsciiDigit then none
  else
    let (month, rest) ← readPair 1 12 (← readChar '-' (cs.drop 4))
    let (day, rest) ← readPair 1 31 (← readChar '-' rest)
    return (⟨Text.number year, month, day⟩, rest)

/-- What is left after a date and perhaps a time of day and an offset. -/
def afterDate (rest : List Char) : List Char :=
  match rest with
  | c :: more =>
    if isDateMark c then ((afterClock more).map afterOffset).getD rest else rest
  | [] => []

/-- A point in time; a date that the calendar does not have is an error. -/
def readMoment (cs : List Char) : Except Fault (Option (Value × List Char)) :=
  let upTo := fun rest : List Char => Value.moment (String.ofList (cs.take (cs.length - rest.length)))
  match readDate cs with
  | some (date, rest) =>
    if date.Valid then .ok (some (upTo (afterDate rest), afterDate rest)) else .error .badSyntax
  | none => .ok ((afterClock cs).map fun rest => (upTo rest, rest))

/-- A truth value, a number or a point in time. -/
def readScalar (cs : List Char) : Except Fault (Value × List Char) :=
  if "true".toList.isPrefixOf cs then .ok (.bool true, cs.drop 4)
  else if "false".toList.isPrefixOf cs then .ok (.bool false, cs.drop 5)
  else do
    if let some r ← readMoment cs then return r
    if let some (n, rest) := readBased cs then return (.int n, rest)
    if let some r ← readDecimal cs then return r
    match readSpecial cs with
    | some r => return r
    | none => throw .badSyntax

end IssueBridge.Toml
