import IssueBridge.Toolbox.Pattern

/-! # Editing lines

A script of commands is run on every line. A command may be restricted to lines by their number, by a
pattern or from one such line to another.
-/

namespace IssueBridge.Toolbox.Editor

inductive Address
  | line (n : Nat)
  | last
  | pattern (p : Pattern)

/-- A part of a replacement: a text, or what a group has matched. -/
inductive Piece
  | plain (c : Char)
  | group (n : Nat)

structure Substitution where
  pattern : Pattern
  replacement : List Piece
  /-- The first match that is replaced. -/
  first : Nat := 1
  all : Bool := false
  prints : Bool := false

inductive Action
  | substitute (s : Substitution)
  | exchange (pairs : List (Char × Char))
  | delete
  | print
  | number
  | quit

structure Command where
  start : Option Address := none
  stop : Option Address := none
  negated : Bool := false
  action : Action

/-- The text up to a mark, in which a backslash hides the mark, and what follows the mark. -/
def readUpTo (mark : Char) : List Char → Option (List Char × List Char)
  | [] => none
  | '\\' :: c :: rest =>
    (readUpTo mark rest).map fun (cs, more) => ((if c = mark then [c] else ['\\', c]) ++ cs, more)
  | c :: rest => if c = mark then some ([], rest) else (readUpTo mark rest).map fun (cs, more) => (c :: cs, more)

def readReplacement : List Char → List Piece
  | '\\' :: c :: rest =>
    (if '0' ≤ c && c ≤ '9' then .group (c.toNat - 0x30)
      else .plain (if c = 'n' then '\n' else if c = 't' then '\t' else c)) :: readReplacement rest
  | '&' :: rest => .group 0 :: readReplacement rest
  | c :: rest => .plain c :: readReplacement rest
  | [] => []

def readFlags (s : Substitution) : List Char → Substitution × Bool × List Char
  | 'g' :: rest => readFlags { s with all := true } rest
  | 'p' :: rest => readFlags { s with prints := true } rest
  | c :: rest =>
    if c = 'i' || c = 'I' then (readFlags s rest).map id fun (_, more) => (true, more)
    else if '1' ≤ c && c ≤ '9' then readFlags { s with first := c.toNat - 0x30 } rest
    else (s, false, c :: rest)
  | [] => (s, false, [])

def readAddress (extended : Bool) (cs : List Char) : Option (Option Address × List Char) :=
  match cs with
  | '$' :: rest => some (some .last, rest)
  | '/' :: rest => do
    let (spelled, more) ← readUpTo '/' rest
    let (p, _) ← Pattern.read? ⟨extended, false⟩ spelled
    return (some (.pattern p), more)
  | cs =>
    let (n, rest) := leadingNumber cs
    if rest.length = cs.length then some (none, cs) else some (some (.line n), rest)

def readAction (extended : Bool) (cs : List Char) : Option (Action × List Char) :=
  match cs with
  | 's' :: mark :: rest => do
    let (spelled, rest) ← readUpTo mark rest
    let (replacement, rest) ← readUpTo mark rest
    let (s, caseless, rest) := readFlags { pattern := .nothing, replacement := readReplacement replacement } rest
    let (pattern, groups) ← Pattern.read? ⟨extended, caseless⟩ spelled
    if s.replacement.any fun
      | .group n => groups < n
      | .plain _ => false then none
    else return (.substitute { s with pattern }, rest)
  | 'y' :: mark :: rest => do
    let (source, rest) ← readUpTo mark rest
    let (target, rest) ← readUpTo mark rest
    if source.length = target.length then return (.exchange (source.zip target), rest) else none
  | 'd' :: rest => some (.delete, rest)
  | 'p' :: rest => some (.print, rest)
  | '=' :: rest => some (.number, rest)
  | 'q' :: rest => some (.quit, rest)
  | _ => none

def isBreak (c : Char) : Bool := c = ';' || c = '\n' || c = ' '

/-- The commands of a script of at most `fuel` characters. -/
def readScript (extended : Bool) : Nat → List Char → Option (List Command)
  | 0, _ => none
  | fuel + 1, cs =>
    match cs.dropWhile isBreak with
    | [] => some []
    | cs => do
      let (start, rest) ← readAddress extended cs
      let (stop, rest) ← match start, rest with
        | some _, ',' :: rest => (readAddress extended rest).bind fun r => r.1.map fun a => (some a, r.2)
        | _, rest => some (none, rest)
      let rest := rest.dropWhile (· = ' ')
      let (negated, rest) := match rest with
        | '!' :: rest => (true, rest.dropWhile (· = ' '))
        | rest => (false, rest)
      let (action, rest) ← readAction extended rest
      if (rest.head?.map isBreak).getD true then
        return ⟨start, stop, negated, action⟩ :: (← readScript extended fuel rest)
      else none

/-- A line in which matches are replaced from `i` on; `k` were found, `stop` is the end of the last one. -/
def Substitution.replaceFrom (s : Substitution) (text : Array Char) :
    Nat → Nat → Nat → Option Nat → List Char × Bool
  | 0, i, _, _ => ((text.extract i text.size).toList, false)
  | fuel + 1, i, k, stop =>
    match s.pattern.search text i with
    | none => ((text.extract i text.size).toList, false)
    | some (j, x) =>
      let before := (text.extract i j).toList
      let behind := (text[x.position]?).toList
      if x.position = j && stop = some j then
        -- an empty match right behind a match does not count
        (s.replaceFrom text fuel (j + 1) k none).map (before ++ behind ++ ·) id
      else if k < s.first then
        let (i, kept) := if x.position = j then (j + 1, behind) else (x.position, (text.extract j x.position).toList)
        (s.replaceFrom text fuel i (k + 1) (some x.position)).map (before ++ kept ++ ·) id
      else
        let put := s.replacement.flatMap fun
          | .plain c => [c]
          | .group 0 => (text.extract j x.position).toList
          | .group n => ((x.groups.lookup n).map fun (a, b) => (text.extract a b).toList).getD []
        if !s.all then (before ++ put ++ (text.extract x.position text.size).toList, true)
        else
          let (i, kept) := if x.position = j then (j + 1, behind) else (x.position, [])
          let (rest, _) := s.replaceFrom text fuel i (k + 1) (some x.position)
          (before ++ put ++ kept ++ rest, true)

/-- The line that a script works on, and which ranges are open. -/
structure State where
  line : List Char
  number : Nat
  isLast : Bool
  within : List Nat := []
  printed : List (List Char) := []
  deleted : Bool := false
  quits : Bool := false

def Address.fits (a : Address) (s : State) : Bool :=
  match a with
  | .line n => s.number = n
  | .last => s.isLast
  | .pattern p => (p.search s.line.toArray 0).isSome

/-- The command with an index selects the line; a range opens and closes. -/
def Command.selects (c : Command) (index : Nat) (s : State) : Bool × State :=
  match c.start, c.stop with
  | none, _ => (true, s)
  | some a, none => (a.fits s, s)
  | some a, some b =>
    if s.within.contains index then
      (true, if b.fits s then { s with within := s.within.erase index } else s)
    else if a.fits s then
      let ends : Bool := match b with
        | .line n => n ≤ s.number
        | _ => false
      (true, if ends then s else { s with within := index :: s.within })
    else (false, s)

def Command.run (c : Command) (index : Nat) (s : State) : State :=
  if s.deleted || s.quits then s
  else
    let (selected, s) := c.selects index s
    if selected = c.negated then s
    else
      match c.action with
      | .substitute sub =>
        let (line, done) := sub.replaceFrom s.line.toArray (2 * s.line.length + 2) 0 1 none
        if !done then s
        else { s with line, printed := if sub.prints then s.printed ++ [line] else s.printed }
      | .exchange pairs => { s with line := s.line.map fun d => (pairs.lookup d).getD d }
      | .delete => { s with deleted := true }
      | .print => { s with printed := s.printed ++ [s.line] }
      | .number => { s with printed := s.printed ++ [(toString s.number).toList] }
      | .quit => { s with quits := true }

/-- The output for the lines from a number on. -/
def editLines (script : List Command) (silent : Bool) (number : Nat) (within : List Nat) :
    List (Codes × Bool) → Codes
  | [] => []
  | (line, ended) :: rest =>
    let s : State := { line := (text line).toList, number, isLast := rest.isEmpty, within }
    let s := script.zipIdx.foldl (fun s (c, i) => c.run i s) s
    let out := s.printed ++ (if silent || s.deleted then [] else [s.line])
    let put := codes ("\n".intercalate (out.map String.ofList)) ++
      (if (ended || s.quits) && !out.isEmpty then ['\n'] else [])
    put ++ (if s.quits then [] else editLines script silent (number + 1) s.within rest)

/-- Runs a script on the lines of its input; the script is the first operand unless an option gives it. -/
def sed : Tool := fun args input =>
  match readOptions "nErsuz" "e" args with
  | none => misused input
  | some (options, operands) =>
    let has := fun c : Char => options.any (·.1 = c)
    let given := (options.filter (·.1 = 'e')).map (·.2)
    let (script, names) := if given.isEmpty then (operands.take 1, operands.drop 1) else (given, operands)
    let spelled := (text (['\n'].intercalate script)).toList
    match script, readScript (has 'E' || has 'r') (spelled.length + 1) spelled with
    | _ :: _, some commands =>
      let (contents, rest) := readNamed input (if names.isEmpty then [['-']] else names)
      { status := if contents.contains none then 2 else 0, rest
        output := editLines commands (has 'n') 1 [] (linesOf (contents.flatMap fun c => c.getD [])) }
    | _, _ => misused input

end IssueBridge.Toolbox.Editor
