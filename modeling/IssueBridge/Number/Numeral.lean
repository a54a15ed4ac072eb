import IssueBridge.Number.Binary
import IssueBridge.Text.Blank
import IssueBridge.Text.DecimalDigit

/-! # Reading numbers

Three grammars share their parts: a whole number with digits of any script, a whole number that may
end in a point and zeros, and a decimal with an exponent. Single underscores may stand between digits.
-/

namespace IssueBridge.Number

open Text

def isAsciiDigit (c : Char) : Bool := '0' ≤ c && c ≤ '9'

/-- A run of digits without the single underscores between them. -/
def ungroup (p : Char → Bool) : List Char → Option (List Char)
  | [] => none
  | [c] => if p c then some [c] else none
  | c :: '_' :: rest => if p c then (ungroup p rest).map (c :: ·) else none
  | c :: rest => if p c then (ungroup p rest).map (c :: ·) else none

/-- The sign of a number and what follows it. -/
def splitSign : List Char → Bool × List Char
  | '-' :: rest => (true, rest)
  | '+' :: rest => (false, rest)
  | cs => (false, cs)

def signed (negative : Bool) (n : Nat) : Int := if negative then -(n : Int) else n

inductive ReadFault
  | syntaxFault
  | tooManyDigits (digits : Nat)
  deriving DecidableEq, Repr

/-- The number of a run of digits, refused above the limit. -/
def limited (negative : Bool) (digits : List Char) : Except ReadFault Int :=
  if digits.length ≤ maxDigits then .ok (signed negative (number digits))
  else .error (.tooManyDigits digits.length)

/-- White space around a number; the information separators are none. -/
def isSpace (c : Char) : Bool := isBlank c && !(0x1C ≤ c.toNat && c.toNat ≤ 0x1F)

/-- A whole number in digits of any script, white space around it. -/
def readWhole (cs : List Char) : Except ReadFault Int :=
  let (negative, body) := splitSign (trimBy isSpace cs)
  match ungroup isDigit body with
  | none => .error .syntaxFault
  | some ds => limited negative ds

/-- The text without underscores, if each stands alone and inside. -/
def dropUnderscores (cs : List Char) : Option (List Char) :=
  if cs.head? = some '_' ∨ cs.getLast? = some '_' ∨
      (cs.zip (cs.drop 1)).any (fun p => p.1 = '_' && p.2 = '_') then none
  else some (cs.filter (· ≠ '_'))

/-- What follows the leading zeros and the underscores among them: a digit or a minus sign. A zero stays
at the end of the text and before a point. -/
def dropLeadingZeros (cs : List Char) : Option (List Char) :=
  let zeros := cs.takeWhile fun c => c = '0' || c = '_'
  match zeros, cs.drop zeros.length with
  | [], c :: rest => if isAsciiDigit c then some (c :: rest) else none
  | '0' :: _, [] => if zeros.getLast? = some '0' then some ['0'] else none
  | '0' :: _, '.' :: rest => if zeros.getLast? = some '0' then some ('0' :: '.' :: rest) else none
  | '0' :: _, c :: rest => if isAsciiDigit c || c = '-' then some (c :: rest) else none
  | _, _ => none

/-- What stands before a point and zeros, of which there is at least one. -/
def dropZeroFraction (cs : List Char) : List Char :=
  let whole := cs.takeWhile (· ≠ '.')
  match cs.drop whole.length with
  | '.' :: places => if !places.isEmpty && places.all (· = '0') then whole else cs
  | _ => cs

/-- No leading zero, unless it is the only digit. -/
def isPlain : List Char → Bool
  | '0' :: _ :: _ => false
  | ds => !ds.isEmpty

/-- A whole number without leading zeros; too many digits are found before what follows them. -/
def readPlain (cs : List Char) : Except ReadFault Int :=
  let (negative, body) := match cs with
    | '-' :: rest => (true, rest)
    | cs => (false, cs)
  let digits := body.takeWhile isAsciiDigit
  if isPlain digits ∧ (digits.length = body.length ∨ maxDigits < digits.length) then
    limited negative digits
  else .error .syntaxFault

/-- A whole number in ASCII digits, white space around it. Leading zeros are skipped, and a point and
zeros may follow. After leading zeros there may be a minus sign, unless one stood in front. -/
def readLenient (cs : List Char) : Except ReadFault Int :=
  let (negative, body) := splitSign (trimBy isSpace cs)
  match (dropLeadingZeros body).bind fun ds => dropUnderscores (dropZeroFraction ds) with
  | none => .error .syntaxFault
  | some ds => readPlain (if negative then '-' :: ds else ds)

/-- An unsigned decimal: digits, perhaps a point and digits, perhaps an exponent. -/
structure Digits where
  whole : List Char
  fraction : List Char
  exponent : Int

/-- An exponent without its mark; `none` when there is none, an error when it is malformed. -/
def readExponent : List Char → Option Int
  | [] => some 0
  | c :: rest =>
    if c = 'e' ∨ c = 'E' then
      let (negative, ds) := splitSign rest
      if !ds.isEmpty && ds.all isAsciiDigit then some (signed negative (number ds)) else none
    else none

def readDigits (cs : List Char) : Option Digits := do
  let whole := cs.takeWhile isAsciiDigit
  match cs.drop whole.length with
  | '.' :: rest =>
    let fraction := rest.takeWhile isAsciiDigit
    if whole.isEmpty && fraction.isEmpty then none
    else
      let e ← readExponent (rest.drop fraction.length)
      return ⟨whole, fraction, e⟩
  | rest =>
    if whole.isEmpty then none
    else
      let e ← readExponent rest
      return ⟨whole, [], e⟩

/-- The number `m * 10 ^ e`; the exponent is cut where the result is zero or infinite anyway. -/
def ofParts (negative : Bool) (m : Nat) (e : Int) : Float :=
  let size : Int := (Nat.repr m).length
  let x :=
    if m = 0 ∨ e + size < -400 then 0.0
    else if 400 < e + size then 1.0 / 0.0
    else Float.ofScientific m (e < 0) e.natAbs
  if negative then -x else x

def Digits.toFloat (d : Digits) (negative : Bool) : Float :=
  ofParts negative (number (d.whole ++ d.fraction)) (d.exponent - d.fraction.length)

/-- A decimal, an infinity or the undefined number. -/
def readBareFloat (cs : List Char) : Option Float := do
  let (negative, body) := splitSign cs
  let word := body.map Char.toLower
  if word = "inf".toList ∨ word = "infinity".toList then
    return if negative then -1.0 / 0.0 else 1.0 / 0.0
  else if word = "nan".toList then return 0.0 / 0.0
  else return (← readDigits body).toFloat negative

/-- A floating point number with white space around it or underscores inside, but not both. -/
def readFloat (cs : List Char) : Option Float :=
  (readBareFloat (trimBy isSpace cs)).or ((dropUnderscores cs).bind readBareFloat)

end IssueBridge.Number
