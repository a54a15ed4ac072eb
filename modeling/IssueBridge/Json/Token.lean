import IssueBridge.Value.Basic
import IssueBridge.Number.Numeral
import IssueBridge.Text.Hex

/-! # JSON tokens

The text is cut into brackets, commas, colons and scalar values. Numbers are strict, save that the
undefined number and the infinities have names; texts hold no control characters.
-/

namespace IssueBridge.Json

inductive Token
  | openArray
  | closeArray
  | openObject
  | closeObject
  | comma
  | colon
  | scalar (value : Value)
  /-- From here on the text cannot be read. -/
  | junk

/-- What a text may hold. -/
structure Rules where
  /-- How many containers may be open around a value. -/
  depth : Nat
  /-- How many digits a whole number may have. -/
  digits : Nat
  /-- The limit on digits also holds for the whole part of other numbers. -/
  limitsWholeParts : Bool
  /-- Half of a surrogate pair may stand alone. -/
  allowsHalves : Bool

/-- Four hexadecimal digits. -/
def readUnit (a b c d : Char) : Option Nat := do
  let a ← Text.Hex.value? a
  let b ← Text.Hex.value? b
  let c ← Text.Hex.value? c
  let d ← Text.Hex.value? d
  return ((a * 16 + b) * 16 + c) * 16 + d

def simpleEscape? : Char → Option Char
  | '"' => some '"'
  | '\\' => some '\\'
  | '/' => some '/'
  | 'b' => some '\x08'
  | 'f' => some '\x0c'
  | 'n' => some '\n'
  | 'r' => some '\r'
  | 't' => some '\t'
  | _ => none

/-- A text that was read; `broken` if it holds half of a surrogate pair, in whose place it has the
replacement character. -/
structure Spelled where
  text : String
  broken : Bool

def Spelled.value (s : Spelled) : Value := if s.broken then .brokenText s.text else .str s.text

/-- The rest of a text after its opening quote; `done` holds what was read, last character first. -/
def readText (halves broken : Bool) (done : List Char) : List Char → Option (Spelled × List Char)
  | [] => none
  | '"' :: rest => some (⟨String.ofList done.reverse, broken⟩, rest)
  | '\\' :: 'u' :: a :: b :: c :: d :: rest =>
    match readUnit a b c d with
    | none => none
    | some u =>
      if u < 0xD800 ∨ 0xE000 ≤ u then readText halves broken (Char.ofNat u :: done) rest
      else
        match lowHalf? u rest with
        | some v =>
          readText halves broken
            (Char.ofNat (0x10000 + (u - 0xD800) * 0x400 + (v - 0xDC00)) :: done) (rest.drop 6)
        | none => if halves then readText halves true ('\ufffd' :: done) rest else none
  | '\\' :: c :: rest => do readText halves broken ((← simpleEscape? c) :: done) rest
  | c :: rest => if c.toNat < 0x20 then none else readText halves broken (c :: done) rest
termination_by cs => cs.length
where
  /-- The second half of a pair, in front of `cs`, if `u` is a first half. -/
  lowHalf? (u : Nat) (cs : List Char) : Option Nat :=
    match cs with
    | '\\' :: 'u' :: a :: b :: c :: d :: _ =>
      match readUnit a b c d with
      | some v => if u < 0xDC00 ∧ 0xDC00 ≤ v ∧ v < 0xE000 then some v else none
      | none => none
    | _ => none

def numberChars : List Char := ['+', '-', '.', 'e', 'E']

/-- A number that takes up the whole of `cs`. -/
def readNumber (rules : Rules) (cs : List Char) : Option Value := do
  let (negative, body) := match cs with
    | '-' :: rest => (true, rest)
    | cs => (false, cs)
  let whole := body.takeWhile Number.isAsciiDigit
  if !Number.isPlain whole then none
  else if whole.length = body.length then
    if whole.length ≤ rules.digits then some (.int (Number.signed negative (Text.number whole)))
    else none
  else
    let d ← Number.readDigits body
    if body.contains '.' && d.fraction.isEmpty ∨
        rules.limitsWholeParts ∧ rules.digits < whole.length then none
    else some (.float (d.toFloat negative))

def named : List (String × Value) := [
  ("null", .null), ("true", .bool true), ("false", .bool false), ("NaN", .float (0.0 / 0.0)),
  ("Infinity", .float (1.0 / 0.0)), ("-Infinity", .float (-1.0 / 0.0))]

/-- One of the named values at the front of `cs`. -/
def readName (cs : List Char) : Option (Value × List Char) :=
  named.findSome? fun (name, value) =>
    if name.toList.isPrefixOf cs then some (value, cs.drop name.length) else none

/-- The token at the front of `c :: rest`, and what follows it. -/
def readToken (rules : Rules) (c : Char) (rest : List Char) : Option (Token × List Char) :=
  match c with
  | '[' => some (.openArray, rest)
  | ']' => some (.closeArray, rest)
  | '\x7b' => some (.openObject, rest)
  | '\x7d' => some (.closeObject, rest)
  | ',' => some (.comma, rest)
  | ':' => some (.colon, rest)
  | '"' => (readText rules.allowsHalves false [] rest).map fun (s, more) => (.scalar s.value, more)
  | _ =>
    match readName (c :: rest) with
    | some (value, more) => some (.scalar value, more)
    | none =>
      let inside := fun d : Char => Number.isAsciiDigit d || numberChars.contains d
      let digits := (c :: rest).takeWhile inside
      (readNumber rules digits).map fun value => (.scalar value, (c :: rest).dropWhile inside)

def isSpace (c : Char) : Bool := c = ' ' || c = '\t' || c = '\n' || c = '\r'

/-- The tokens of a text. Each takes at least one character. -/
def tokens (rules : Rules) : List Char → List Token
  | [] => []
  | c :: rest =>
    if isSpace c then tokens rules rest
    else
      match readToken rules c rest with
      | none => [.junk]
      | some (t, more) =>
        if more.length ≤ rest.length then t :: tokens rules more else [.junk]
termination_by cs => cs.length

end IssueBridge.Json
