import IssueBridge.Text.Blank
import IssueBridge.Text.LineEnds

/-! # Environment files

Each line binds a name to a value, which may stand in quotes and may then reach over several lines. A
line that cannot be read is passed over. A value may refer to names bound before it.
-/

namespace IssueBridge.EnvFile

open Text

def isLineEnd (c : Char) : Bool := c = '\n' || c = '\r'

/-- A blank that does not end a line. -/
def isGap (c : Char) : Bool := isBlank c && !isLineEnd c

/-- What is left after the word `export` and a blank, if they stand in front. -/
def skipExport (cs : List Char) : List Char :=
  let word := "export".toList
  if word.isPrefixOf cs && ((cs.drop word.length).head?.map isGap).getD false then
    (cs.drop word.length).dropWhile isGap
  else cs

/-- A name, and what follows it; a comment binds none. -/
def readName (cs : List Char) : Option (Option String × List Char) :=
  match cs with
  | '#' :: _ => some (none, cs)
  | '\x27' :: rest =>
    let name := rest.takeWhile (· ≠ '\x27')
    match rest.drop name.length with
    | _ :: more => if name.isEmpty then none else some (some (String.ofList name), more)
    | [] => none
  | cs =>
    let name := cs.takeWhile fun c => c ≠ '=' && c ≠ '#' && !isBlank c
    if name.isEmpty then none else some (some (String.ofList name), cs.drop name.length)

/-- A quoted value after its opening quote, and what follows it. A quote after a backslash does not close
it. -/
def readQuoted (quote : Char) : List Char → Option (List Char × List Char)
  | [] => none
  | '\\' :: c :: rest => (readQuoted quote rest).map fun (value, more) => ('\\' :: c :: value, more)
  | c :: rest =>
    if c = quote then some ([], rest)
    else (readQuoted quote rest).map fun (value, more) => (c :: value, more)

def unescape (escapes : List (Char × Char)) : List Char → List Char
  | '\\' :: c :: rest =>
    match escapes.lookup c with
    | some d => d :: unescape escapes rest
    | none => '\\' :: unescape escapes (c :: rest)
  | c :: rest => c :: unescape escapes rest
  | [] => []

def singleEscapes : List (Char × Char) := [('\\', '\\'), ('\x27', '\x27')]

def doubleEscapes : List (Char × Char) := [
  ('\\', '\\'), ('\x27', '\x27'), ('"', '"'), ('a', '\x07'), ('b', '\x08'), ('f', '\x0c'),
  ('n', '\n'), ('r', '\r'), ('t', '\t'), ('v', '\x0b')]

/-- A value without quotes ends where blanks and a hash begin. -/
def dropComment : List Char → List Char
  | [] => []
  | c :: rest =>
    if isBlank c && (rest.dropWhile isBlank).head? = some '#' then []
    else c :: dropComment rest

/-- A value with the blanks before it, and what follows it. -/
def readValue (cs : List Char) : Option (String × List Char) :=
  let quoted := fun (quote : Char) (escapes : List (Char × Char)) (body : List Char) =>
    (readQuoted quote body).map fun (value, more) => (String.ofList (unescape escapes value), more)
  match cs.dropWhile isGap with
  | '\x27' :: body => quoted '\x27' singleEscapes body
  | '"' :: body => quoted '"' doubleEscapes body
  | _ =>
    let line := cs.takeWhile fun c => !isLineEnd c
    some (String.ofList (trim (dropComment line)), cs.drop line.length)

/-- What is left after the end of a line, before which only blanks and a comment may stand. -/
def endLine (cs : List Char) : Option (List Char) :=
  let rest := match cs.dropWhile isGap with
    | '#' :: more => more.dropWhile fun c => !isLineEnd c
    | rest => rest
  match rest with
  | [] => some []
  | '\n' :: more => some more
  | _ => none

def skipLine (cs : List Char) : List Char := (cs.dropWhile fun c => !isLineEnd c).drop 1

/-- One binding: a name, perhaps with a value. What follows comes second, also if the line cannot be
read. -/
def readBinding (cs : List Char) : Option (String × Option String) × List Char :=
  let start := skipExport (cs.dropWhile isBlank)
  match readName start with
  | none => (none, skipLine start)
  | some (name, rest) =>
    let rest := rest.dropWhile isGap
    match rest with
    | '=' :: body =>
      match readValue body with
      | none => (none, skipLine (body.dropWhile isGap))
      | some (value, more) =>
        match endLine more with
        | some after => (name.map fun n => (n, some value), after)
        | none => (none, skipLine more)
    | rest =>
      match endLine rest with
      | some after => (name.map fun n => (n, none), after)
      | none => (none, skipLine rest)

/-- All bindings in order; each takes at least one character. -/
def readBindings (cs : List Char) : List (String × Option String) :=
  if cs.isEmpty then []
  else
    let (binding, rest) := readBinding cs
    if rest.length < cs.length then binding.toList ++ readBindings rest else binding.toList
termination_by cs.length

/-- The end of a reference, after its opening brace: a name, perhaps a default, and what follows. -/
def readReference (cs : List Char) : Option (String × Option String × List Char) :=
  let name := cs.takeWhile fun c => c ≠ '\x7d' && c ≠ ':'
  match cs.drop name.length with
  | '\x7d' :: rest => some (String.ofList name, none, rest)
  | ':' :: '-' :: rest =>
    let default := rest.takeWhile (· ≠ '\x7d')
    match rest.drop default.length with
    | _ :: more => some (String.ofList name, some (String.ofList default), more)
    | [] => none
  | _ => none

/-- The value with each reference replaced. -/
def expand (bound : String → Option String) (cs : List Char) : List Char :=
  match cs with
  | '$' :: '\x7b' :: rest =>
    match readReference rest with
    | some (name, default, more) =>
      if more.length ≤ rest.length then
        ((bound name).getD (default.getD "")).toList ++ expand bound more
      else []
    | none => '$' :: expand bound ('\x7b' :: rest)
  | c :: rest => c :: expand bound rest
  | [] => []
termination_by cs.length

/-- What a name is bound to: by the file, else by the surroundings. A name without a value hides the
surroundings, and its reference is empty. -/
def boundTo (surroundings : List (String × String)) (done : List (String × Option String))
    (name : String) : Option String :=
  match done.lookup name with
  | some (some v) => some v
  | some none => some ""
  | none => surroundings.lookup name

/-- Binds a name anew: in place of its old binding, or at the end. -/
def bind (name : String) (value : Option String) :
    List (String × Option String) → List (String × Option String)
  | [] => [(name, value)]
  | (n, old) :: rest => if n = name then (n, value) :: rest else (n, old) :: bind name value rest

/-- The bindings after those of `done`, with their references replaced. -/
def resolve (surroundings : List (String × String)) (done : List (String × Option String)) :
    List (String × Option String) → List (String × Option String)
  | [] => done
  | (name, value) :: rest =>
    let value := value.map fun v =>
      String.ofList (expand (boundTo surroundings done) v.toList)
    resolve surroundings (bind name value done) rest

/-- A mark of the byte order in front of a text is no part of it. -/
def dropMark : List Char → List Char
  | '\ufeff' :: rest => rest
  | cs => cs

/-- The bindings of a file. -/
def read (surroundings : List (String × String)) (text : String) : List (String × Option String) :=
  resolve surroundings [] (readBindings (unifyLineEnds (dropMark text.toList)))

end IssueBridge.EnvFile
