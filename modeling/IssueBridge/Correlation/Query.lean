import IssueBridge.Correlation.Token
import IssueBridge.Number.Numeral

/-! # Queries

The issues of a project whose custom field holds a given id. The text of a query can be read back if
the project's key holds no quote and the field's number no bracket.
-/

namespace IssueBridge.Correlation

structure Query where
  project : String
  field : String
  id : Int
  deriving DecidableEq, Repr

namespace Query

def projectMark : String := "project='"
def fieldMark : String := "' AND cf["
def idMark : String := "] = "

def text (q : Query) : String :=
  projectMark ++ q.project ++ fieldMark ++ q.field ++ idMark ++ toString q.id

/-- A run of digits, perhaps after a minus sign. -/
def readId (cs : List Char) : Option Int :=
  let (negative, ds) := match cs with
    | '-' :: rest => (true, rest)
    | rest => (false, rest)
  if ds.isEmpty || !ds.all Number.isAsciiDigit then none
  else some (Number.signed negative (Text.number ds))

/-- The query that a text stands for. -/
def read? (text : String) : Option Query := do
  let rest ← dropStart? projectMark.toList text.toList
  let project := rest.takeWhile (· ≠ '\x27')
  let rest ← dropStart? fieldMark.toList (rest.drop project.length)
  let field := rest.takeWhile (· ≠ ']')
  let rest ← dropStart? idMark.toList (rest.drop field.length)
  return ⟨String.ofList project, String.ofList field, ← readId rest⟩

end Query

/-- The whole number that a value stands for: numbers are cut to their whole part, texts are read. -/
def wholeOf : Value → Except Failure Int
  | .int n => .ok n
  | .bool b => .ok (if b then 1 else 0)
  | .float x =>
    if x.isNaN then .error .notNumber
    else if x.isInf then .error .infinite
    else .ok (Number.truncate x)
  | .str s =>
    match Number.readWhole s.toList with
    | .ok n => .ok n
    | .error .syntaxFault => .error .notNumber
    | .error (.tooManyDigits n) => .error (.digitLimit n)
  | _ => .error .notNumeric

end IssueBridge.Correlation
