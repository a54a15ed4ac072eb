import IssueBridge.Value.Basic
import IssueBridge.Number.Notation
import IssueBridge.Text.Quoted

/-! # Writing JSON

The text is plain ASCII: other characters are escaped by their 16-bit units. A blank follows each comma
and each colon.
-/

namespace IssueBridge.Json

/-- A unit of 16 bits, escaped. -/
def unitEscape (n : Nat) : List Char := '\\' :: 'u' :: Text.hexDigits 4 n

def escapeChar (c : Char) : List Char :=
  if c = '"' ∨ c = '\\' then ['\\', c]
  else if c = '\n' then ['\\', 'n']
  else if c = '\r' then ['\\', 'r']
  else if c = '\t' then ['\\', 't']
  else if c = '\x08' then ['\\', 'b']
  else if c = '\x0c' then ['\\', 'f']
  else if 0x20 ≤ c.toNat ∧ c.toNat < 0x7F then [c]
  else if c.toNat < 0x10000 then unitEscape c.toNat
  else unitEscape (0xD800 + (c.toNat - 0x10000) / 0x400) ++
    unitEscape (0xDC00 + (c.toNat - 0x10000) % 0x400)

def writtenText (s : String) : String :=
  String.ofList ('"' :: s.toList.flatMap escapeChar ++ ['"'])

def writtenFloat (x : Float) : String :=
  if x.isNaN then "NaN"
  else if x.isInf then (if x < 0.0 then "-Infinity" else "Infinity")
  else Number.ofFloat x

mutual

def written : Value → String
  | .null => "null"
  | .bool b => if b then "true" else "false"
  | .int n => toString n
  | .float x => writtenFloat x
  | .str s => writtenText s
  | .arr items => "[" ++ ", ".intercalate (writtenItems items) ++ "]"
  | .obj fs => "\x7b" ++ ", ".intercalate (writtenMembers fs) ++ "\x7d"
  | .moment t => writtenText t
  | .brokenText t => writtenText t

def writtenItems : List Value → List String
  | [] => []
  | v :: rest => written v :: writtenItems rest

def writtenMembers : List (String × Value) → List String
  | [] => []
  | (n, v) :: rest => (writtenText n ++ ": " ++ written v) :: writtenMembers rest

end

end IssueBridge.Json
