import IssueBridge.Toolbox.Place
import IssueBridge.Toolbox.Printing

/-! # Filters

Tools that copy their input, its first lines or bytes, or exchange bytes of one set for those of another.
-/

namespace IssueBridge.Toolbox

/-- A byte made visible. -/
def visible (c : Char) : Codes :=
  let low := fun n : Nat => if n < 32 then ['^', code (n + 64)] else if n = 127 then ['^', '?'] else [code n]
  if c.toNat < 128 then low c.toNat else 'M' :: '-' :: low (c.toNat - 128)

/-- A line as a copy shows it, without its number. -/
def copiedLine (options : List Char) (line : Codes) (ended : Bool) : Codes :=
  let shown := line.flatMap fun c =>
    if c = '\t' then if options.any (among "TAt") then ['^', 'I'] else [c]
    else if options.any (among "vAet") then visible c else [c]
  shown ++ (if !ended then [] else if options.any (among "EAe") then ['$', '\n'] else ['\n'])

/-- The copied lines from the number `n` on. -/
def copiedLines (options : List Char) (n : Nat) (afterEmpty : Bool) : List (Codes × Bool) → Codes
  | [] => []
  | (line, ended) :: rest =>
    if options.contains 's' && afterEmpty && line.isEmpty then copiedLines options n true rest
    else
      let numbered := options.any (among "nb") && !(options.contains 'b' && line.isEmpty)
      let label := if numbered then padded 6 false (Nat.repr n).toList ++ ['\t'] else []
      label ++ copiedLine options line ended ++
        copiedLines options (if numbered then n + 1 else n) line.isEmpty rest

def cat : Tool := fun args input =>
  match readOptions "AbeEnstTuv" "" args with
  | none => misused input
  | some (options, names) =>
    let (contents, rest) := readNamed input (if names.isEmpty then [['-']] else names)
    { status := if contents.contains none then 1 else 0, rest
      output := copiedLines (options.map (·.1)) 1 false (linesOf (contents.flatMap fun c => c.getD [])) }

/-- A count with a unit. -/
def size? (cs : Codes) : Option Nat :=
  let (n, unit) := leadingNumber cs
  let factor? := [("", 1), ("b", 512), ("kB", 1000), ("k", 1024), ("K", 1024), ("KiB", 1024), ("MB", 1000000),
    ("m", 1048576), ("M", 1048576)].lookup (String.ofList unit)
  if unit.length = cs.length then none else factor?.map (n * ·)

/-- The first lines or bytes; with a hyphen the count is that of what is left out at the end. -/
def firstOf (lines : Bool) (value : Codes) : Option (Codes → Codes) := do
  let (fromEnd, count) := match value with
    | '-' :: rest => (true, rest)
    | '+' :: rest => (false, rest)
    | rest => (false, rest)
  let n ← size? count
  let part := fun {α : Type} (l : List α) => l.take (if fromEnd then l.length - n else n)
  if lines then
    return fun cs => (part (linesOf cs)).flatMap fun (line, ended) => if ended then line ++ ['\n'] else line
  else return fun cs => part cs

/-- The options that count have long names, too. -/
def shortened (arg : Codes) : List Codes :=
  match arg.splitOn '=' with
  | [name, count] =>
    if name = codes "--lines" then [['-', 'n'], count]
    else if name = codes "--bytes" then [['-', 'c'], count]
    else [arg]
  | _ => [arg]

/-- A number right after the first hyphen counts lines. -/
def headOptions (args : List Codes) : List Codes :=
  match args with
  | ('-' :: c :: cs) :: rest => if isDigit c then ['-', 'n'] :: (c :: cs) :: rest else args.flatMap shortened
  | _ => args

def head : Tool := fun args input =>
  match readOptions "qv" "nc" (headOptions args) with
  | none => misused input
  | some (options, names) =>
    match (((options.filter fun o => among "nc" o.1).getLast?.map fun o => firstOf (o.1 = 'n') o.2).getD
      (firstOf true ['1', '0'])) with
    | none => misused input
    | some part =>
      let names := if names.isEmpty then [['-']] else names
      let (contents, rest) := readNamed input names
      let several := 1 < names.length || options.any (·.1 = 'v')
      let parts := (names.zip contents).filterMap fun (name, content) => content.map fun cs =>
        let shown := if name = ['-'] then codes "standard input" else name
        (if several then codes "==> " ++ shown ++ codes " <==\n" else []) ++ part cs
      { status := if contents.contains none then 1 else 0, rest
        output := (if several then ['\n'] else []).intercalate parts }

def byteRange (low high : Nat) : Codes := (List.range (high + 1 - low)).map fun i => Char.ofNat (low + i)

/-- The classes of bytes and the ranges that they hold. -/
def byteClasses : List (String × List (Nat × Nat)) := [
  ("alnum", [(0x30, 0x39), (0x41, 0x5A), (0x61, 0x7A)]), ("alpha", [(0x41, 0x5A), (0x61, 0x7A)]),
  ("blank", [(0x9, 0x9), (0x20, 0x20)]), ("cntrl", [(0x0, 0x1F), (0x7F, 0x7F)]),
  ("digit", [(0x30, 0x39)]), ("graph", [(0x21, 0x7E)]), ("lower", [(0x61, 0x7A)]),
  ("print", [(0x20, 0x7E)]), ("punct", [(0x21, 0x2F), (0x3A, 0x40), (0x5B, 0x60), (0x7B, 0x7E)]),
  ("space", [(0x9, 0xD), (0x20, 0x20)]), ("upper", [(0x41, 0x5A)]),
  ("xdigit", [(0x30, 0x39), (0x41, 0x46), (0x61, 0x66)])]

/-- The class that is named in brackets at the front, and what follows it. -/
def readClass (cs : Codes) : Option (List (Nat × Nat) × Codes) :=
  match cs with
  | '[' :: ':' :: rest => do
    let name := rest.takeWhile Char.isAlpha
    let ranges ← byteClasses.lookup (String.ofList name)
    match rest.drop name.length with
    | ':' :: ']' :: more => return (ranges, more)
    | _ => none
  | _ => none

/-- The bytes of a set in the order in which it is written, at most `fuel` parts. -/
def readSet : Nat → Codes → Option Codes
  | 0, _ => none
  | _, [] => some []
  | fuel + 1, cs =>
    match readClass cs with
    | some (ranges, more) => (readSet fuel more).map (ranges.flatMap (fun r => byteRange r.1 r.2) ++ ·)
    | none =>
      match plainByte cs with
      | none => none
      | some (low, '-' :: d :: rest) =>
        match plainByte (d :: rest) with
        | none => none
        | some (high, more) =>
          if high < low then none else (readSet fuel more).map (byteRange low.toNat high.toNat ++ ·)
      | some (c, rest) => (readSet fuel rest).map (c :: ·)
where
  plainByte : Codes → Option (Char × Codes)
    | [] => none
    | '\\' :: rest =>
      match readEscape false rest with
      | some ([c], more) => some (c, more)
      | _ => some (rest.headD '\\', rest.drop 1)
    | c :: rest => some (c, rest)

/-- Leaves one of several equal bytes of a set in a row. -/
def squeeze (set cs : Codes) : Codes :=
  (cs.foldl (fun done c => if done.head? = some c && set.contains c then done else c :: done) []).reverse

def tr : Tool := fun args input =>
  match readOptions "cCdst" "" args with
  | none => misused input
  | some (options, operands) =>
    let has := fun c : Char => options.any (·.1 = c)
    let chosen := fun set : Codes =>
      if has 'c' || has 'C' then (byteRange 0 255).filter fun c => !set.contains c else set
    match operands.mapM fun cs => readSet (cs.length + 1) cs, has 'd', has 's' with
    | some [a], true, false => { output := input.filter fun c => !(chosen a).contains c }
    | some [a], false, true => { output := squeeze (chosen a) input }
    | some [a, b], true, true => { output := squeeze b (input.filter fun c => !(chosen a).contains c) }
    | some [a, b], false, squeezes =>
      match b.getLast? with
      | none => misused input
      | some last =>
        -- a byte that is written twice is exchanged for what stands at its last place
        let pairs := ((chosen a).zip (b ++ List.replicate (chosen a).length last)).reverse
        let output := input.map fun c => (pairs.lookup c).getD c
        { output := if squeezes then squeeze b output else output }
    | _, _, _ => misused input

end IssueBridge.Toolbox
