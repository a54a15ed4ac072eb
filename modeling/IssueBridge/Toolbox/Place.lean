import IssueBridge.Projection.Converter
import IssueBridge.Toolbox.Codes

/-! # Places

A path leads through directories to a program, a file or the empty device. Programs are found by their
path or by their name in the directories of programs.
-/

namespace IssueBridge.Toolbox

inductive Place
  | directory
  | program (name : String)
  /-- A file that cannot be run. -/
  | file
  /-- The device that holds nothing. -/
  | void
  deriving DecidableEq, Repr

def programNames : List String :=
  ["cat", "tr", "sed", "head", "echo", "printf", "true", "false", "sleep", "sh"]

/-- The directories in which programs are looked for. -/
def programDirs : List String := ["/usr/local/bin", "/usr/bin", "/bin"]

/-- What is known to be at a path, given by the names along it. -/
def placeAt (path : List String) : Option Place :=
  match path with
  | [] => some .directory
  | ["usr", "local", "bin"] => some .directory
  | ["usr", dir] => if ["bin", "local"].contains dir then some .directory else none
  | ["bin", name] => programAt name
  | ["usr", "bin", name] => programAt name
  | ["dev", "null"] => some .void
  | ["etc", "passwd"] => some .file
  | [dir] => if ["bin", "usr", "dev", "etc", "tmp"].contains dir then some .directory else none
  | _ => none
where
  programAt (name : String) : Option Place :=
    if programNames.contains name then some (.program name) else none

def tooLong : RunRefusal := { number := 36, text := "File name too long" }

/-- Walks along the rest of a path; `before` holds the names so far, the last one first. -/
def walk (before : List String) : List String → Except RunRefusal Place
  | [] => ((placeAt before.reverse).map Except.ok).getD (.error .missing)
  | name :: rest =>
    match placeAt before.reverse with
    | none => .error .missing
    | some .directory =>
      if name = "" ∨ name = "." then walk before rest
      else if name = ".." then walk (before.drop 1) rest
      else if 255 < name.utf8ByteSize then .error tooLong
      else walk (name :: before) rest
    | some _ => .error { number := 20, text := "Not a directory" }

/-- The place to which a path leads; relative paths start where nothing is. -/
def find (path : String) : Except RunRefusal Place :=
  if path = "" then .error .missing
  else if 4096 ≤ path.utf8ByteSize then .error tooLong
  else walk (if path.startsWith "/" then [] else ["tmp"]) (path.splitOn "/")

def programAt (path : String) : Except RunRefusal String :=
  match find path with
  | .ok (.program name) => .ok name
  | .ok _ => .error { number := 13, text := "Permission denied" }
  | .error f => .error f

/-- The program that a command names by path or by name; a refusal that says more than that there is
nothing goes first. -/
def findProgram (command : String) : Except RunRefusal String :=
  if command.contains '/' then programAt command
  else
    let results := programDirs.map fun d => programAt (d ++ "/" ++ command)
    ((results.find? Except.isOk) <|> (results.find? fun
      | .error f => f.number ≠ RunRefusal.missing.number
      | .ok _ => false)).getD (.error .missing)

/-- What the named inputs hold, and what is left of the input itself. -/
def readNamed (input : Codes) : List Codes → List (Option Codes) × Codes
  | [] => ([], input)
  | name :: rest =>
    let (content, left) :=
      if name = ['-'] then (some input, [])
      else if find (text name) matches .ok .void then (some [], input)
      else (none, input)
    let (more, left) := readNamed left rest
    (content :: more, left)

end IssueBridge.Toolbox
