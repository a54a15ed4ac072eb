import IssueBridge.Toml.Document

/-! # Reading TOML

A document is a sequence of lines: a heading, or a name and a value, and perhaps a comment.
-/

namespace IssueBridge.Toml

/-- What is left after a comment, if there is one. -/
def skipComment : List Char → Except Fault (List Char)
  | '#' :: rest =>
    let body := rest.takeWhile (· ≠ '\n')
    if body.any (isForbidden false) then .error .badSyntax else .ok (rest.drop body.length)
  | cs => .ok cs

/-- Skips blanks, line ends and comments, in as many rounds as `fuel` says. -/
def skipLines (fuel : Nat) (cs : List Char) : Except Fault (List Char) :=
  match fuel with
  | 0 => .ok cs
  | fuel + 1 =>
    match cs.dropWhile fun c => isBlank c || c = '\n' with
    | '#' :: rest => do skipLines fuel (← skipComment ('#' :: rest))
    | cs => .ok cs

def liftRead {α : Type} : Option α → Except Fault α
  | some a => .ok a
  | none => .error .badSyntax

/-- How deep values may be nested: a list takes two of these, a table three. -/
def maxNesting : Nat := 960

/-- What is left of the nesting inside a value that takes `n` of it. -/
def descend (n nesting : Nat) : Except Fault Nat :=
  if n ≤ nesting then .ok (nesting - n) else .error .tooDeep

mutual

/-- The value at the front of the text; `fuel` bounds the steps. -/
def readValue (fuel nesting : Nat) (cs : List Char) : Except Fault (Value × List Char) :=
  match fuel with
  | 0 => .error .badSyntax
  | fuel + 1 =>
    match cs with
    | '"' :: _ => (fun (s, rest) => (.str s, rest)) <$> liftRead (readText true cs)
    | '\x27' :: _ => (fun (s, rest) => (.str s, rest)) <$> liftRead (readText true cs)
    | '[' :: rest => do
      let nesting ← descend 2 nesting
      match ← skipLines rest.length rest with
      | ']' :: more => return (.arr [], more)
      | more => readItems fuel nesting [] more
    | '\x7b' :: rest => do
      let nesting ← descend 3 nesting
      match skipBlanks rest with
      | '\x7d' :: more => return (.obj [], more)
      | more => readMembers fuel nesting {} more
    | cs => readScalar cs

/-- The items of a list, from the start of one; `done` holds those before, the last one first. -/
def readItems (fuel nesting : Nat) (done : List Value) (cs : List Char) :
    Except Fault (Value × List Char) :=
  match fuel with
  | 0 => .error .badSyntax
  | fuel + 1 => do
    let (v, rest) ← readValue fuel nesting cs
    match ← skipLines rest.length rest with
    | ']' :: more => return (.arr (v :: done).reverse, more)
    | ',' :: more =>
      match ← skipLines more.length more with
      | ']' :: more => return (.arr (v :: done).reverse, more)
      | more => readItems fuel nesting (v :: done) more
    | _ => throw .badSyntax

/-- The members of a table that is written as one value. -/
def readMembers (fuel nesting : Nat) (t : Inline) (cs : List Char) :
    Except Fault (Value × List Char) :=
  match fuel with
  | 0 => .error .badSyntax
  | fuel + 1 => do
    let (name, rest) ← liftRead (readName cs)
    let body ← liftRead (readChar '=' rest)
    let (v, rest) ← readValue fuel nesting (skipBlanks body)
    let t ← liftRead (t.put name v)
    match skipBlanks rest with
    | '\x7d' :: more => return (.obj t.members, more)
    | ',' :: more => readMembers fuel nesting t (skipBlanks more)
    | _ => throw .badSyntax

end

/-- A statement at the front of a text that starts neither with a line end nor with a comment. -/
def readStatement (d : Document) (cs : List Char) : Except Fault (Document × List Char) := do
  match cs with
  | '[' :: '[' :: rest =>
    let (path, rest) ← liftRead (readName (skipBlanks rest))
    let d ← liftRead (d.openItem path)
    let rest ← liftRead (readChar ']' rest)
    return (d, ← liftRead (readChar ']' rest))
  | '[' :: rest =>
    let (path, rest) ← liftRead (readName (skipBlanks rest))
    let d ← liftRead (d.openTable path)
    return (d, ← liftRead (readChar ']' rest))
  | cs =>
    let (name, rest) ← liftRead (readName cs)
    let body := skipBlanks (← liftRead (readChar '=' rest))
    let (v, rest) ← readValue (2 * body.length + 2) maxNesting body
    return (← liftRead (d.put name v), rest)

/-- One line, and what follows it. -/
def readLine (d : Document) (cs : List Char) : Except Fault (Document × List Char) := do
  let cs := skipBlanks cs
  let (d, rest) ← match cs with
    | [] => pure (d, [])
    | '\n' :: _ => pure (d, cs)
    | '#' :: _ => pure (d, cs)
    | cs => readStatement d cs
  match ← skipComment (skipBlanks rest) with
  | [] => return (d, [])
  | '\n' :: more => return (d, more)
  | _ => throw .badSyntax

/-- All lines; each takes at least one character. -/
def readLines (d : Document) (cs : List Char) : Except Fault Document :=
  if cs.isEmpty then .ok d
  else
    match readLine d cs with
    | .error f => .error f
    | .ok (d, more) => if more.length < cs.length then readLines d more else .error .badSyntax
termination_by cs.length

/-- Line ends are a line feed, perhaps after a carriage return. -/
def joinLineEnds : List Char → List Char
  | '\r' :: '\n' :: rest => '\n' :: joinLineEnds rest
  | c :: rest => c :: joinLineEnds rest
  | [] => []

def read (text : String) : Except Fault Fields :=
  (·.root) <$> readLines {} (joinLineEnds text.toList)

end IssueBridge.Toml
