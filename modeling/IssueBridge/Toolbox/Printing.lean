import IssueBridge.Text.Hex
import IssueBridge.Toolbox.Codes

/-! # Printing

Arguments are written in a row, or in a format that is used again while arguments are left.
-/

namespace IssueBridge.Toolbox

def letterEscapes : List (Char × Char) := [
  ('a', '\x07'), ('b', '\x08'), ('e', '\x1b'), ('f', '\x0c'), ('n', '\n'), ('r', '\x0d'), ('t', '\t'),
  ('v', '\x0b'), ('\\', '\\')]

/-- A number of at most so many digits, and what follows it. -/
def readDigits (base most : Nat) (cs : Codes) : Option (Nat × Codes) :=
  let value := fun c => (Text.Hex.value? c).filter (· < base)
  let ds := (cs.take most).takeWhile fun c => (value c).isSome
  if ds.isEmpty then none
  else some (ds.foldl (fun n c => base * n + (value c).getD 0) 0, cs.drop ds.length)

/-- What a backslash and the text behind it stand for; a zero may stand in front of octal digits. -/
def readEscape (leadingZero : Bool) (cs : Codes) : Option (Codes × Codes) :=
  match cs with
  | [] => none
  | c :: rest =>
    match letterEscapes.lookup c with
    | some d => some ([d], rest)
    | none =>
      let number := if c = 'x' then readDigits 16 2 rest
        else if leadingZero && c = '0' then (readDigits 8 3 rest).getD (0, rest)
        else readDigits 8 3 cs
      number.map fun (n, more) => ([code n], more)

/-- Replaces the escapes of a text of at most `fuel` characters; the flag says that nothing stopped the
writing. -/
def unescape : Nat → Codes → Codes × Bool
  | 0, cs => (cs, true)
  | _, [] => ([], true)
  | _, '\\' :: 'c' :: _ => ([], false)
  | fuel + 1, '\\' :: rest =>
    match readEscape true rest with
    | some (out, more) => (unescape fuel more).map (out ++ ·) id
    | none => (unescape fuel rest).map ('\\' :: ·) id
  | fuel + 1, c :: rest => (unescape fuel rest).map (c :: ·) id

/-- Fills a text with blanks up to a width. -/
def padded (width : Nat) (left : Bool) (cs : Codes) : Codes :=
  let blanks := List.replicate (width - cs.length) ' '
  if left then cs ++ blanks else blanks ++ cs

structure Directive where
  flags : List Char
  width : Nat
  precision : Option Nat
  letter : Char

namespace Directive

def read (cs : Codes) : Option (Directive × Codes) :=
  let flags := cs.takeWhile (among "-+ #0")
  let (width, rest) := leadingNumber (cs.drop flags.length)
  let (precision, rest) := match rest with
    | '.' :: rest => ((leadingNumber rest).map some id)
    | rest => (none, rest)
  match rest with
  | [] => none
  | letter :: more => some (⟨flags, width, precision, letter⟩, more)

/-- Fills a number: zeros stand behind the sign. -/
def fill (d : Directive) (front body : Codes) : Codes :=
  if d.flags.contains '0' && !d.flags.contains '-' then
    front ++ List.replicate (d.width - (front ++ body).length) '0' ++ body
  else padded d.width (d.flags.contains '-') (front ++ body)

def sign (d : Directive) (negative : Bool) : Codes :=
  if negative then ['-'] else if d.flags.contains '+' then ['+'] else if d.flags.contains ' ' then [' '] else []

/-- A decimal fraction rounded to some places, a tie to the even neighbour. -/
def rounded (digits places : Codes) (count : Nat) : Codes :=
  let n := Text.number (digits ++ places) * Nat.pow 10 count
  let unit := Nat.pow 10 places.length
  let q := n / unit
  let r := 2 * (n % unit)
  let q := if r < unit then q else if unit < r then q + 1 else q + q % 2
  let ds := (Nat.repr q).toList
  let ds := List.replicate (count + 1 - ds.length) '0' ++ ds
  ds.take (ds.length - count) ++ (if count = 0 then [] else '.' :: ds.drop (ds.length - count))

/-- An argument as the directive writes it, if it is one of the kind that the directive takes. -/
def written (d : Directive) (arg : Codes) : Option Codes :=
  let (negative, body) := match arg with
    | '-' :: rest => (true, rest)
    | '+' :: rest => (false, rest)
    | rest => (false, rest)
  let whole := body.takeWhile isDigit
  let places := body.drop (whole.length + 1)
  match d.letter with
  | 's' => some (padded d.width (d.flags.contains '-') (arg.take (d.precision.getD arg.length)))
  | 'c' => some (padded d.width (d.flags.contains '-') (arg.take 1))
  | 'f' =>
    if (body.drop whole.length).take 1 ∈ [[], ['.']] && places.all isDigit then
      some (d.fill (d.sign negative) (rounded whole places (d.precision.getD 6)))
    else none
  | letter =>
    let base? := [('d', 10), ('i', 10), ('u', 10), ('o', 8), ('x', 16), ('X', 16)].lookup letter
    match base?, body.all isDigit with
    | some base, true =>
      let digits := Nat.toDigits base (Text.number body)
      let digits := List.replicate (d.precision.getD 1 - digits.length) '0' ++ digits
      some (d.fill (d.sign negative) (if letter = 'X' then digits.map Char.toUpper else digits))
    | _, _ => none

end Directive

/-- What was written so far, the last piece first, and the arguments that are left. -/
structure Printing where
  pieces : List Codes := []
  args : List Codes
  used : Bool := false
  status : Nat := 0
  ended : Bool := false

namespace Printing

def put (p : Printing) (cs : Codes) : Printing := { p with pieces := cs :: p.pieces }

/-- Writes the next argument as a directive says. -/
def direct (p : Printing) (d : Directive) : Printing :=
  let arg := p.args.headD []
  let p := { p with args := p.args.drop 1, used := p.used || !p.args.isEmpty }
  if d.letter = 'b' then
    let (cs, whole) := unescape arg.length arg
    { p.put (padded d.width (d.flags.contains '-') cs) with ended := !whole }
  else
    match d.written arg with
    | some cs => p.put cs
    | none => { p with status := 1, ended := true }

/-- Writes one pass over a format of at most `fuel` characters. -/
def pass (p : Printing) : Nat → Codes → Printing
  | 0, _ => p
  | _, [] => p
  | fuel + 1, '%' :: '%' :: rest => pass (p.put ['%']) fuel rest
  | fuel + 1, '%' :: rest =>
    match Directive.read rest with
    | none => { p with status := 1, ended := true }
    | some (d, more) =>
      let p := p.direct d
      if p.ended then p else pass p fuel more
  | _, '\\' :: 'c' :: _ => { p with ended := true }
  | fuel + 1, '\\' :: '"' :: rest => pass (p.put ['"']) fuel rest
  | fuel + 1, '\\' :: rest =>
    match readEscape false rest with
    | some (out, more) => pass (p.put out) fuel more
    | none => pass (p.put ['\\']) fuel rest
  | fuel + 1, c :: rest => pass (p.put [c]) fuel rest

/-- Uses a format at most `fuel` more times. -/
def passes (format : Codes) : Nat → Printing → Printing
  | 0, p => p
  | fuel + 1, p =>
    let p := pass { p with used := false } format.length format
    if p.ended || !p.used || p.args.isEmpty then p else passes format fuel p

end Printing

def printf : Tool := fun args input =>
  match (if args.head? = some ['-', '-'] then args.drop 1 else args) with
  | [] => misused input
  | format :: args =>
    let p := Printing.passes format (args.length + 1) { args }
    { status := p.status, output := p.pieces.reverse.flatten, rest := input }

/-- Writes words in a row, with their escapes replaced if `escapes` says so. -/
def echoed (newline escapes : Bool) (words : List Codes) : Codes :=
  let line := [' '].intercalate words
  let (cs, whole) := if escapes then unescape line.length line else (line, true)
  cs ++ (if newline && whole then ['\n'] else [])

def echo : Tool := fun args input =>
  let options := args.takeWhile fun
    | '-' :: c :: cs => (c :: cs).all (among "neE")
    | _ => false
  let letters := (options.map (·.drop 1)).flatten
  let escapes := (letters.reverse.find? (· ≠ 'n')).getD 'E' = 'e'
  { output := echoed (!letters.contains 'n') escapes (args.drop options.length), rest := input }

/-- The seconds that an argument of a pause stands for. -/
def pause? (arg : Codes) : Option Float :=
  let (whole, rest) := leadingNumber arg
  let (places, unit) := match rest with
    | '.' :: rest => (rest.takeWhile isDigit, rest.dropWhile isDigit)
    | rest => ([], rest)
  let digits := arg.take (arg.length - rest.length) ++ places
  let factor? := [("", 1), ("s", 1), ("m", 60), ("h", 3600), ("d", 86400)].lookup (String.ofList unit)
  if digits.isEmpty then if arg.map Char.toLower = codes "infinity" then some (1.0 / 0.0) else none
  else
    let n := whole * Nat.pow 10 places.length + Text.number places
    factor?.map fun factor => Float.ofScientific (n * factor) true places.length

def sleep : Tool := fun args input =>
  match args.mapM pause? with
  | some (t :: ts) => { seconds := ts.foldl (· + ·) t, rest := input }
  | _ => misused input

end IssueBridge.Toolbox
