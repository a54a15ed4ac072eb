/-! # Letter case

Names are compared without regard to letter case. The names are ASCII, so only those characters matter
whose other case is made of ASCII letters.
-/

namespace IssueBridge.Text

/-- The Kelvin sign is the only letter outside ASCII whose lower case is an ASCII letter. -/
def lowerChar (c : Char) : Char := if c = '\u212a' then 'k' else c.toLower

def lower (s : String) : String := String.ofList (s.toList.map lowerChar)

/-- The letters and ligatures outside ASCII whose upper case is made of ASCII letters. -/
def upperForms : List (Char × String) := [
  ('\u00df', "SS"), ('\u0131', "I"), ('\u017f', "S"), ('\ufb00', "FF"), ('\ufb01', "FI"),
  ('\ufb02', "FL"), ('\ufb03', "FFI"), ('\ufb04', "FFL"), ('\ufb05', "ST"), ('\ufb06', "ST")]

def upperOf (c : Char) : List Char :=
  match upperForms.lookup c with
  | some s => s.toList
  | none => [c.toUpper]

def upper (s : String) : String := String.ofList (s.toList.flatMap upperOf)

end IssueBridge.Text
