import IssueBridge.Toolbox.Editor
import IssueBridge.Toolbox.Signal

/-! # Scripts

A script combines tools: in a row, by the status that one leaves, and with the output of one as the input of
the next. Words may be quoted and may name variables.
-/

namespace IssueBridge.Toolbox.Shell

inductive Part
  | plain (c : Char) (quoted : Bool)
  | variable (name : String) (quoted : Bool)
  /-- Quotes, even around nothing, make a word. -/
  | quotes

abbrev Word := List Part

inductive Token
  | word (w : Word)
  | operator (name : String)
  /-- A stream of the tool is led to another stream, or to or from a place. -/
  | redirect (stream : Nat) (name : String)

def isNameStart (c : Char) : Bool := c.isAlpha || c = '_'

def isNamePart (c : Char) : Bool := c.isAlphanum || c = '_'

/-- What follows a dollar sign. -/
def readVariable (quoted : Bool) (cs : Codes) : Option (Part × Codes) :=
  match cs with
  | '\x7b' :: rest =>
    let name := rest.takeWhile isNamePart
    match rest.drop name.length with
    | '\x7d' :: more => if name.isEmpty then none else some (.variable (String.ofList name) quoted, more)
    | _ => none
  | '(' :: _ => none
  | c :: rest =>
    if isNameStart c then
      some (.variable (String.ofList (cs.takeWhile isNamePart)) quoted, cs.dropWhile isNamePart)
    else if isDigit c || among "?$#@*" c then some (.variable (String.singleton c) quoted, rest)
    else some (.plain '$' quoted, cs)
  | [] => some (.plain '$' quoted, [])

/-- The rest of a word of at most `fuel` characters; `quote` is the quote that is open. -/
def readWord : Nat → Option Char → Codes → Option (Word × Codes)
  | 0, _, _ => none
  | _, none, [] => some ([], [])
  | _, some _, [] => none
  | fuel + 1, some '\x27', c :: rest =>
    if c = '\x27' then readWord fuel none rest
    else (readWord fuel (some '\x27') rest).map fun (w, more) => (.plain c true :: w, more)
  | fuel + 1, quote, '\\' :: c :: rest =>
    if c = '\n' then readWord fuel quote rest
    else
      let kept := if quote.isSome && !among "$\\\"\x60" c then [Part.plain '\\' true] else []
      (readWord fuel quote rest).map fun (w, more) => (kept ++ .plain c true :: w, more)
  | fuel + 1, quote, '$' :: rest => do
    let (part, rest) ← readVariable quote.isSome rest
    (readWord fuel quote rest).map fun (w, more) => (part :: w, more)
  | fuel + 1, some q, c :: rest =>
    if c = q then readWord fuel none rest
    else if c = '\x60' then none
    else (readWord fuel (some q) rest).map fun (w, more) => (.plain c true :: w, more)
  | fuel + 1, none, c :: rest =>
    if c = '\x60' then none
    else if c = '\x27' || c = '"' then (readWord fuel (some c) rest).map fun (w, more) => (.quotes :: w, more)
    else if among " \t\n;&|()<>" c then some ([], c :: rest)
    else (readWord fuel none rest).map fun (w, more) => (.plain c false :: w, more)

def operators : List String := ["&&", "||", ";", "|", "&", "(", ")", "\n"]

def redirections : List String := [">>", ">&", "<&", ">", "<"]

/-- The tokens of a script of at most `fuel` characters. -/
def readTokens : Nat → Codes → Option (List Token)
  | 0, _ => none
  | _, [] => some []
  | fuel + 1, c :: rest =>
    let cs := c :: rest
    if c = ' ' || c = '\t' then readTokens fuel rest
    else if c = '#' then readTokens fuel (rest.dropWhile (· ≠ '\n'))
    else
      match operators.find? fun o => o.toList.isPrefixOf cs with
      | some o => (readTokens fuel (cs.drop o.length)).map (.operator o :: ·)
      | none =>
        let (digits, behind) := (cs.takeWhile isDigit, cs.dropWhile isDigit)
        match redirections.find? fun r => r.toList.isPrefixOf behind with
        | some r =>
          let stream := if digits.isEmpty then (if r.startsWith "<" then 0 else 1) else Text.number digits
          (readTokens fuel (behind.drop r.length)).map (.redirect stream r :: ·)
        | none => do
          let (w, rest) ← readWord (cs.length + 1) none cs
          return .word w :: (← readTokens fuel rest)

structure Redirection where
  stream : Nat
  name : String
  target : Word

inductive Script
  | nothing
  | simple (words : List Word) (redirections : List Redirection)
  | inner (s : Script) (redirections : List Redirection)
  | sequence (a b : Script)
  | both (a b : Script)
  | either (a b : Script)
  | pipe (a b : Script)
  | negated (s : Script)

/-- The words and redirections at the front. -/
def readSimple : List Token → Option (List Word × List Redirection × List Token)
  | .word w :: rest => (readSimple rest).map fun (ws, rs, more) => (w :: ws, rs, more)
  | .redirect stream name :: .word target :: rest =>
    (readSimple rest).map fun (ws, rs, more) => (ws, ⟨stream, name, target⟩ :: rs, more)
  | .redirect .. :: _ => none
  | ts => some ([], [], ts)

def isPlain (w : Word) (s : String) : Bool :=
  w.length = s.length && (w.zip s.toList).all fun
    | (.plain c false, d) => c = d
    | _ => false

def skipLines : List Token → List Token
  | .operator "\n" :: rest => skipLines rest
  | ts => ts

mutual

/-- A list of commands up to a closing parenthesis or the end. -/
def readList : Nat → List Token → Option (Script × List Token)
  | 0, _ => none
  | fuel + 1, ts =>
    match skipLines ts with
    | [] => some (.nothing, [])
    | .operator ")" :: rest => some (.nothing, .operator ")" :: rest)
    | ts => do
      let (a, rest) ← readPipe fuel ts
      let (a, rest) ← readChain fuel a rest
      match rest with
      | .operator o :: rest =>
        if o = ";" || o = "\n" then
          let (b, more) ← readList fuel rest
          return (.sequence a b, more)
        else if o = ")" then return (a, .operator ")" :: rest)
        else none
      | rest => return (a, rest)

/-- What depends on the status of a command. -/
def readChain : Nat → Script → List Token → Option (Script × List Token)
  | 0, _, _ => none
  | fuel + 1, a, .operator "&&" :: rest => do
    let (b, rest) ← readPipe fuel (skipLines rest)
    readChain fuel (.both a b) rest
  | fuel + 1, a, .operator "||" :: rest => do
    let (b, rest) ← readPipe fuel (skipLines rest)
    readChain fuel (.either a b) rest
  | _, a, rest => some (a, rest)

def readPipe : Nat → List Token → Option (Script × List Token)
  | 0, _ => none
  | fuel + 1, ts => do
    let (negated, ts) := match ts with
      | .word w :: rest => if isPlain w "!" then (true, rest) else (false, .word w :: rest)
      | ts => (false, ts)
    let (a, rest) ← readCommand fuel ts
    let (p, rest) ← readStages fuel a rest
    return (if negated then .negated p else p, rest)

def readStages : Nat → Script → List Token → Option (Script × List Token)
  | 0, _, _ => none
  | fuel + 1, a, .operator "|" :: rest => do
    let (b, rest) ← readCommand fuel (skipLines rest)
    readStages fuel (.pipe a b) rest
  | _, a, rest => some (a, rest)

def readCommand : Nat → List Token → Option (Script × List Token)
  | 0, _ => none
  | fuel + 1, .operator "(" :: rest => do
    match ← readList fuel rest with
    | (.nothing, _) => none
    | (s, .operator ")" :: rest) =>
      let (ws, rs, more) ← readSimple rest
      if ws.isEmpty then return (.inner s rs, more) else none
    | _ => none
  | _, ts => do
    let (ws, rs, more) ← readSimple ts
    if ws.isEmpty && rs.isEmpty then none else return (.simple ws rs, more)

end

def read? (cs : Codes) : Option Script := do
  let ts ← readTokens (cs.length + 1) cs
  match ← readList (6 * ts.length + 6) ts with
  | (s, []) => some s
  | _ => none

/-- The number of the shell's own process. -/
def ownNumber : Codes := codes "4711"

/-- What a script has to go on with, and what it has written so far. -/
structure Session where
  values : List (String × Codes) := []
  status : Nat := 0
  input : Codes := []
  output : Codes := []
  errors : Codes := []
  seconds : Float := 0.0
  signal : Option Nat := none
  ended : Bool := false

namespace Session

def value (s : Session) (name : String) : Codes :=
  if name = "?" then (Nat.repr s.status).toList
  else if name = "$" then ownNumber
  else (s.values.lookup name).getD []

/-- The fields of a word: what an unquoted variable holds is taken apart at white space. -/
def fields (s : Session) (w : Word) : List Codes :=
  let close := fun (done : List Codes) (field : Option Codes) => match field with
    | some cs => done ++ [cs]
    | none => done
  let (done, field) := w.foldl (fun ((done, field) : List Codes × Option Codes) part => match part with
    | .plain c _ => (done, some (field.getD [] ++ [c]))
    | .quotes => (done, some (field.getD []))
    | .variable name true => (done, some (field.getD [] ++ s.value name))
    | .variable name false =>
      (s.value name).foldl (fun ((done, field) : List Codes × Option Codes) c =>
        if isSpace c then (close done field, none) else (done, some (field.getD [] ++ [c]))) (done, field)) ([], none)
  close done field

/-- The name and the value that a word sets. -/
def assignment? (s : Session) (w : Word) : Option (String × Codes) :=
  let plain := w.takeWhile fun
    | .plain c false => isNamePart c
    | _ => false
  let name := plain.filterMap fun
    | .plain c _ => some c
    | _ => none
  match w.drop plain.length with
  | .plain '=' false :: rest =>
    if (name.head?.map isNameStart).getD false then some (String.ofList name, (s.fields (.quotes :: rest)).flatten)
    else none
  | _ => none

def finish (s : Session) (status : Nat) : Session := { s with status, ended := true }

/-- Adds the run of a tool. -/
def add (s : Session) (r : Run) : Session :=
  { s with
    status := match r.signal with
      | some n => 128 + n
      | none => r.status
    input := r.rest
    output := s.output ++ r.output
    errors := s.errors ++ r.errors
    seconds := s.seconds + r.seconds }

end Session

def signal? (cs : Codes) : Option Nat :=
  if cs.all isDigit && !cs.isEmpty then some (Text.number cs)
  else (signalNames.findIdx? (· = String.ofList (cs.map Char.toUpper))).map (· + 1)

/-- Sends a signal to the shell itself. -/
def kill (s : Session) (args : List Codes) : Session :=
  let (signal, targets) := match args with
    | ['-', 's'] :: name :: rest => (signal? name, rest)
    | ('-' :: name) :: rest => (signal? name, rest)
    | rest => (some 15, rest)
  match signal, targets with
  | some n, [target] =>
    if target = ownNumber then { s with signal := some n, ended := true } else { s with status := 1 }
  | _, _ => { s with status := 2 }

/-- Runs a command by its name. -/
def call (tools : String → Option Tool) (s : Session) (name : String) (args : List Codes) : Session :=
  match name with
  | ":" => { s with status := 0 }
  | "exit" => s.finish ((args.head?.map Text.number).getD s.status % 256)
  | "kill" => kill s args
  | "echo" =>
    let silent := args.head? = some ['-', 'n']
    s.add { output := echoed (!silent) true (if silent then args.drop 1 else args), rest := s.input }
  | name =>
    match findProgram name with
    | .ok name => (((tools name).map fun tool => s.add (tool args s.input))).getD { s with status := 127 }
    | .error why => { s with status := if why.number = RunRefusal.missing.number then 127 else 126 }

/-- Leads what a part of a script has written to where its redirections say. -/
def redirect (s part : Session) (redirections : List Redirection) : Session :=
  let (out, err, failed) := redirections.foldl (fun ((out, err, failed) : Nat × Nat × Bool) r =>
    let target := text (s.fields r.target).flatten
    let sink? := if r.name = ">&" then
        if target = "1" then some out else if target = "2" then some err else none
      else if r.name = "<" || find target matches .ok .void then some 0
      else none
    match sink? with
    | none => (out, err, true)
    | some sink => if r.stream = 1 then (sink, err, failed) else if r.stream = 2 then (out, sink, failed)
      else (out, err, failed)) (1, 2, false)
  if failed then { s with status := 2 }
  else
    let part_of := fun n : Nat => (if err = n then part.errors else []) ++ (if out = n then part.output else [])
    { part with output := s.output ++ part_of 1, errors := s.errors ++ part_of 2 }

/-- Whether the input of a part of a script is led from the empty device. -/
def withoutInput (redirections : List Redirection) : Bool := redirections.any (·.name = "<")

/-- Runs a part with streams of its own, which its redirections lead on. -/
def within (s : Session) (redirections : List Redirection) (run : Session → Session) : Session :=
  if redirections.isEmpty then run s
  else
    let input := if withoutInput redirections then [] else s.input
    let part := run { s with input, output := [], errors := [] }
    redirect s (if withoutInput redirections then { part with input := s.input } else part) redirections

def Script.run (tools : String → Option Tool) : Script → Session → Session
  | .nothing, s => s
  | .simple words redirections, s =>
    let set := words.takeWhile fun w => (s.assignment? w).isSome
    let s' := { s with values := (set.filterMap s.assignment?).reverse ++ s.values }
    match (words.drop set.length).flatMap s'.fields with
    | [] => { s' with status := 0 }
    | name :: args => within s' redirections fun s => call tools s (text name) args
  | .inner a redirections, s =>
    within s redirections fun s =>
      let t := a.run tools s
      { t with values := s.values, ended := t.signal.isSome }
  | .sequence a b, s =>
    let t := a.run tools s
    if t.ended then t else b.run tools t
  | .both a b, s =>
    let t := a.run tools s
    if t.ended || t.status ≠ 0 then t else b.run tools t
  | .either a b, s =>
    let t := a.run tools s
    if t.ended || t.status = 0 then t else b.run tools t
  | .pipe a b, s =>
    let t := a.run tools { s with output := [], errors := [], seconds := 0.0 }
    let u := b.run tools { s with input := t.output, output := [], errors := [], seconds := 0.0 }
    { s with
      status := u.status
      input := t.input
      output := s.output ++ u.output
      errors := s.errors ++ t.errors ++ u.errors
      seconds := s.seconds + max t.seconds u.seconds
      signal := t.signal <|> u.signal
      ended := t.signal.isSome || u.signal.isSome }
  | .negated a, s =>
    let t := a.run tools s
    if t.ended then t else { t with status := if t.status = 0 then 1 else 0 }

/-- Runs a script that is given as an argument, or else as the input. -/
def shell (tools : String → Option Tool) : Tool := fun args input =>
  let (script, names, input) := match args with
    | ['-', 'c'] :: script :: names => (script, names, input)
    | _ => (input, [], [])
  match read? script with
  | none => { status := 2, rest := input }
  | some script =>
    let s := script.run tools
      { input, values := names.zipIdx.map fun (name, i) => (toString i, name) }
    { status := s.status, output := s.output, errors := s.errors, rest := s.input, seconds := s.seconds
      signal := s.signal }

end IssueBridge.Toolbox.Shell
