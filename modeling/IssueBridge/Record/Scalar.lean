import IssueBridge.Number.Numeral
import IssueBridge.Record.Form
import IssueBridge.Text.Case

/-! # Numbers and truth values in records

Records are read leniently: a number may be given as a text or as a truth value, a truth value as a
number or as one of a few words.
-/

namespace IssueBridge.Record.Form

open Number

/-- The whole numbers of 64 bits. -/
def fits64 (n : Int) : Bool := -0x8000000000000000 ≤ n && n < 0x8000000000000000

/-- A floating point number as a whole number of less than 63 binary digits. -/
def wholeOfFloat? (x : Float) : Option Int :=
  if isWhole x && (truncate x).natAbs < 0x8000000000000000 then some (truncate x) else none

def wholeOfText (s : String) : Reading Int :=
  match readLenient s.toList with
  | .ok n => .good n
  | .error .syntaxFault => .fail .wholeSyntax
  | .error (.tooManyDigits _) => .fail .wholeSize

def whole : Form Int
  | .int n => .good n
  | .bool b => .good (if b then 1 else 0)
  | .float x =>
    if !x.isFinite then .fail .notFinite
    else if !isWhole x then .fail .fractional
    else
      match wholeOfFloat? x with
      | some n => .good n
      | none => .fail .wholeSize
  | .str s => wholeOfText s
  | _ => .fail .notWhole

def float : Form Float
  | .int n => if (Float.ofInt n).isFinite then .good (Float.ofInt n) else .fail .notFloat
  | .bool b => .good (if b then 1.0 else 0.0)
  | .float x => .good x
  | .str s =>
    match readFloat s.toList with
    | some x => .good x
    | none => .fail .floatSyntax
  | _ => .fail .notFloat

def trueWords : List String := ["1", "on", "t", "true", "y", "yes"]

def falseWords : List String := ["0", "off", "f", "false", "n", "no"]

def boolOfWhole (n : Int) : Reading Bool :=
  if n = 0 then .good false else if n = 1 then .good true else .fail .boolSyntax

def bool : Form Bool
  | .bool b => .good b
  | .int n => if fits64 n then boolOfWhole n else .fail .notBool
  | .float x =>
    match wholeOfFloat? x with
    | some n => boolOfWhole n
    | none => .fail .notBool
  | .str s =>
    let w := Text.lower s
    if trueWords.contains w then .good true
    else if falseWords.contains w then .good false
    else .fail .boolSyntax
  | _ => .fail .notBool

end IssueBridge.Record.Form
