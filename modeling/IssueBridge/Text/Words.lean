import IssueBridge.Text.Quoted

/-! # The words of a command line

Words are separated by blanks. Quotes of either kind join what is between them to the word; a
backslash takes the next character as it is, between double quotes only a quote or a backslash.
-/

namespace IssueBridge.Text.Words

inductive Fault
  | unclosedQuote
  | danglingEscape
  deriving DecidableEq, Repr

/-- Where in a word the reader is. -/
inductive Mode
  | plain
  | escape
  | quote (mark : Char)
  | escapeInQuote (mark : Char)
  deriving DecidableEq, Repr

def isSeparator (c : Char) : Bool := c = ' ' || c = '\t' || c = '\r' || c = '\n'

def isMark (c : Char) : Bool := c = apostrophe || c = '"'

/-- A word that is being read, its last character first; between words there is none. -/
structure Reader where
  mode : Mode := .plain
  word : Option (List Char) := none
  /-- The finished words, the last one first. -/
  done : List String := []

namespace Reader

def put (r : Reader) (c : Char) : Reader := { r with mode := .plain, word := some (c :: r.word.getD []) }

def finish (r : Reader) : List String :=
  match r.word with
  | none => r.done
  | some cs => String.ofList cs.reverse :: r.done

def step (r : Reader) (c : Char) : Reader :=
  match r.mode with
  | .plain =>
    if isSeparator c then { r with word := none, done := r.finish }
    else if isMark c then { r with mode := .quote c, word := some (r.word.getD []) }
    else if c = '\\' then { r with mode := .escape }
    else r.put c
  | .escape => r.put c
  | .quote mark =>
    if c = mark then { r with mode := .plain }
    else if c = '\\' ∧ mark = '"' then { r with mode := .escapeInQuote mark }
    else { r.put c with mode := .quote mark }
  | .escapeInQuote mark =>
    let r := if c = mark ∨ c = '\\' then r else r.put '\\'
    { r.put c with mode := .quote mark }

def result (r : Reader) : Except Fault (List String) :=
  match r.mode with
  | .plain => .ok r.finish.reverse
  | .escape => .error .danglingEscape
  | .quote _ => .error .unclosedQuote
  | .escapeInQuote _ => .error .danglingEscape

end Reader

/-- The words of a command line, or why it has none. -/
def split (line : String) : Except Fault (List String) :=
  (line.toList.foldl Reader.step {}).result

end IssueBridge.Text.Words
