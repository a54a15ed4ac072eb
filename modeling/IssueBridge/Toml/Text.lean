import IssueBridge.Text.Hex

/-! # Texts and names in TOML

A text stands between quotation marks or apostrophes, on one line or, with three of them, on several.
Only between quotation marks the backslash escapes.
-/

namespace IssueBridge.Toml

def isBlank (c : Char) : Bool := c = ' ' || c = '\t'

def skipBlanks (cs : List Char) : List Char := cs.dropWhile isBlank

def isControl (c : Char) : Bool := c.toNat < 0x20 || c.toNat = 0x7F

/-- Control characters are not allowed in texts, save tabs and, on several lines, line ends. -/
def isForbidden (multiline : Bool) (c : Char) : Bool :=
  isControl c && c ≠ '\t' && !(multiline && c = '\n')

/-- The character with the code written in hexadecimal digits. -/
def hexChar? (digits : List Char) : Option Char := do
  let ds ← digits.mapM Text.Hex.value?
  let n := ds.foldl (fun n d => 16 * n + d) 0
  if h : n.isValidChar then some (Char.ofNatAux n h) else none

def simpleEscape? : Char → Option Char
  | 'b' => some '\x08'
  | 't' => some '\t'
  | 'n' => some '\n'
  | 'f' => some '\x0c'
  | 'r' => some '\r'
  | '"' => some '"'
  | '\\' => some '\\'
  | _ => none

/-- A backslash at the end of a line takes the line end and all blanks after it away. -/
def foldedLine (cs : List Char) : Option (List Char) :=
  match skipBlanks cs with
  | [] => some []
  | '\n' :: rest => some (rest.dropWhile fun c => isBlank c || c = '\n')
  | _ => none

/-- What follows a backslash: the characters that it stands for, and the rest. -/
def readEscape (multiline : Bool) : List Char → Option (List Char × List Char)
  | [] => none
  | c :: rest =>
    if multiline && (isBlank c || c = '\n') then (foldedLine (c :: rest)).map ([], ·)
    else if c = 'u' ∨ c = 'U' then
      let n := if c = 'u' then 4 else 8
      if (rest.take n).length = n then (hexChar? (rest.take n)).map fun d => ([d], rest.drop n)
      else none
    else (simpleEscape? c).map fun d => ([d], rest)

/-- The rest of a text after its opening marks; `done` holds what was read, last character first. -/
def readQuoted (multiline : Bool) (done cs : List Char) : Option (List Char × List Char) :=
  match cs with
  | [] => none
  | c :: rest =>
    if c = '"' then
      if !multiline then some (done.reverse, rest)
      else if ['"', '"'].isPrefixOf rest then some (done.reverse, rest.drop 2)
      else readQuoted multiline (c :: done) rest
    else if c = '\\' then
      match readEscape multiline rest with
      | some (out, more) =>
        if more.length ≤ rest.length then readQuoted multiline (out ++ done) more else none
      | none => none
    else if isForbidden multiline c then none
    else readQuoted multiline (c :: done) rest
termination_by cs.length

/-- The same between apostrophes, where nothing is escaped. -/
def readLiteral (multiline : Bool) (done : List Char) : List Char → Option (List Char × List Char)
  | [] => none
  | c :: rest =>
    if c = '\x27' ∧ !multiline then some (done.reverse, rest)
    else if c = '\x27' ∧ ['\x27', '\x27'].isPrefixOf rest then some (done.reverse, rest.drop 2)
    else if isForbidden multiline c then none
    else readLiteral multiline (c :: done) rest

/-- Up to two marks more than three at the end of a text belong to it. -/
def extraMarks (mark : Char) (text : List Char) (cs : List Char) : List Char × List Char :=
  let extra := (cs.take 2).takeWhile (· = mark)
  (text ++ extra, cs.drop extra.length)

/-- A text of either kind; on several lines a line end right after the marks is dropped. -/
def readText (allowLines : Bool) (cs : List Char) : Option (String × List Char) := do
  let mark := cs.headD ' '
  let read := fun multiline body =>
    if mark = '"' then readQuoted multiline [] body else readLiteral multiline [] body
  if mark ≠ '"' ∧ mark ≠ '\x27' then none
  else if allowLines && [mark, mark, mark].isPrefixOf cs then
    let body := match cs.drop 3 with
      | '\n' :: rest => rest
      | rest => rest
    let (text, rest) ← read true body
    let (text, rest) := extraMarks mark text rest
    return (String.ofList text, rest)
  else
    let (text, rest) ← read false (cs.drop 1)
    return (String.ofList text, rest)

def isBare (c : Char) : Bool := c.isAlphanum || c = '-' || c = '_'

/-- One part of a name: bare or in quotes. -/
def readNamePart (cs : List Char) : Option (String × List Char) :=
  let bare := cs.takeWhile isBare
  if bare.isEmpty then readText false cs else some (String.ofList bare, cs.drop bare.length)

/-- More parts of a name, each after a point. Each takes at least one character. -/
def readNameRest (done : List String) (cs : List Char) : Option (List String × List Char) :=
  match skipBlanks cs with
  | '.' :: rest =>
    match readNamePart (skipBlanks rest) with
    | none => none
    | some (part, more) =>
      if more.length < cs.length then readNameRest (part :: done) more else none
  | rest => some (done.reverse, rest)
termination_by cs.length

/-- A name with parts separated by points; blanks after it are skipped. -/
def readName (cs : List Char) : Option (List String × List Char) := do
  let (part, rest) ← readNamePart cs
  readNameRest [part] rest

end IssueBridge.Toml
