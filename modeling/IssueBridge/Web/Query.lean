import IssueBridge.Text.Hex
import IssueBridge.Text.Utf8

/-! # Request targets

A target is a path and perhaps parameters, both with bytes written as a percent sign and two
hexadecimal digits. The steps of the path are resolved before its percent signs, which are taken twice:
on the way here and on arrival.
-/

namespace IssueBridge.Web

/-- The bytes of a text with percent signs. -/
def percentBytes (cs : List Char) : List UInt8 :=
  match cs with
  | '%' :: a :: b :: rest =>
    match Text.Hex.value? a, Text.Hex.value? b with
    | some hi, some lo => UInt8.ofNat (16 * hi + lo) :: percentBytes rest
    | _, _ => 0x25 :: percentBytes (a :: b :: rest)
  | c :: rest => (String.singleton c).toUTF8.toList ++ percentBytes rest
  | [] => []

/-- The text that the bytes stand for. -/
def percentDecoded (cs : List Char) : List Char := Text.Utf8.replaced (percentBytes cs)

/-- In parameters a plus sign stands for a blank. -/
def parameterText (cs : List Char) : String :=
  String.ofList (percentDecoded (cs.map fun c => if c = '+' then ' ' else c))

def splitAt (mark : Char) (cs : List Char) : List Char × List Char :=
  let before := cs.takeWhile (· ≠ mark)
  (before, cs.drop (before.length + 1))

/-- The parameters in order; empty pieces give none. -/
def readParameters (cs : List Char) : List (String × String) :=
  let pieces := ((String.ofList cs).splitOn "&").filter (· ≠ "")
  pieces.map fun p =>
    let (name, value) := splitAt '=' p.toList
    (parameterText name, parameterText value)

/-- Adds a step to a path, whose steps so far stand in reverse: one dot stays there, two go back. -/
def pathStep (done : List String) (step : String) : List String :=
  if step = "." then done
  else if step = ".." then
    match done with
    | [] => []
    | [""] => [""]
    | _ :: rest => rest
  else step :: done

/-- The path below the address of the application; a name of another place in front is dropped. -/
def resolvedPath (cs : List Char) : String :=
  let path := match cs with
    | '/' :: '/' :: rest => rest.dropWhile (· ≠ '/')
    | cs => cs
  let steps := (String.ofList ('/' :: path.dropWhile (· = '/'))).splitOn "/"
  let resolved := "/".intercalate (steps.foldl pathStep []).reverse
  if resolved = "" then "/" else resolved

structure Target where
  path : String
  parameters : List (String × String)

def Target.read (target : String) : Target :=
  let (address, _) := splitAt '#' target.toList
  let (path, query) := splitAt '?' address
  ⟨String.ofList (percentDecoded (percentDecoded (resolvedPath path).toList)), readParameters query⟩

/-- The last value of a parameter. -/
def Target.parameter? (t : Target) (name : String) : Option String := t.parameters.reverse.lookup name

end IssueBridge.Web
