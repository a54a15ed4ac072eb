import IssueBridge.Text.DecimalDigit
import IssueBridge.Text.Utf8

/-! # Codes

The tools work on bytes. A byte is written as the character with its number, its code.
-/

namespace IssueBridge.Toolbox

/-- A row of bytes, each written as the character with its number. -/
abbrev Codes := List Char

def codes (s : String) : Codes := s.toUTF8.toList.map fun b => Char.ofNat b.toNat

def bytes (cs : Codes) : List UInt8 := cs.map fun c => UInt8.ofNat c.toNat

/-- The text that codes spell. -/
def text (cs : Codes) : String := String.ofList (Text.Utf8.replaced (bytes cs))

/-- The code with a number, which wraps round. -/
def code (n : Nat) : Char := Char.ofNat (n % 256)

def isDigit (c : Char) : Bool := '0' ≤ c && c ≤ '9'

def isSpace (c : Char) : Bool := c = ' ' || ('\t' ≤ c && c ≤ '\x0d')

/-- A character is one of a text's. -/
def among (letters : String) (c : Char) : Bool := letters.toList.contains c

/-- A number and what follows it; no digit stands for zero. -/
def leadingNumber (cs : Codes) : Nat × Codes :=
  (Text.number (cs.takeWhile isDigit), cs.dropWhile isDigit)

/-- The lines of a text without their ends, and whether the last one has its end. -/
def linesOf (cs : Codes) : List (Codes × Bool) :=
  let parts := cs.splitOn '\n'
  let last := parts.getLastD []
  parts.dropLast.map (·, true) ++ (if last.isEmpty then [] else [(last, false)])

/-- How a tool ended, what it wrote, what it left of its input and how long it took. -/
structure Run where
  status : Nat := 0
  output : Codes := []
  errors : Codes := []
  rest : Codes := []
  seconds : Float := 0.0
  signal : Option Nat := none

/-- A tool turns a list of arguments and an input into a run. -/
abbrev Tool := List Codes → Codes → Run

/-- A tool that cannot use its arguments and does not read. -/
def misused (input : Codes) : Run := { status := 1, rest := input }

/-- The options of a hyphen: letters, the last of which may ask for a value. -/
def readLetters (plain valued : String) : Codes → Option (List (Char × Codes) × Option Char)
  | [] => some ([], none)
  | c :: cs =>
    if among valued c then if cs.isEmpty then some ([], some c) else some ([(c, cs)], none)
    else if among plain c then (readLetters plain valued cs).map fun (os, open?) => ((c, []) :: os, open?)
    else none

/-- The options with their values, and the operands. Two hyphens alone end the options. -/
def readOptions (plain valued : String) (args : List Codes) : Option (List (Char × Codes) × List Codes) :=
  match args with
  | [] => some ([], [])
  | ['-', '-'] :: rest => some ([], rest)
  | ('-' :: c :: cs) :: rest =>
    match readLetters plain valued (c :: cs), rest with
    | some (os, none), rest => (readOptions plain valued rest).map fun (more, names) => (os ++ more, names)
    | some (os, some letter), v :: rest =>
      (readOptions plain valued rest).map fun (more, names) => (os ++ (letter, v) :: more, names)
    | _, _ => none
  | a :: rest => (readOptions plain valued rest).map fun (more, names) => (more, a :: names)
termination_by args.length

end IssueBridge.Toolbox
