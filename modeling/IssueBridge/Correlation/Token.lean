import IssueBridge.Failure
import IssueBridge.Text.DecimalDigit

/-! # Correlation tokens

A synchronised comment starts with a token that carries the id of its source: `Comment [(ID `, digits
of any script, and `)|`.
-/

namespace IssueBridge.Correlation

def tokenStart : List Char := "Comment [(ID ".toList

def tokenEnd : List Char := ")|".toList

/-- What follows `start` at the front of a list. -/
def dropStart? (start cs : List Char) : Option (List Char) :=
  if start.isPrefixOf cs then some (cs.drop start.length) else none

/-- The digits of the token at the front of a text. -/
def tokenDigits? (cs : List Char) : Option (List Char) := do
  let rest ← dropStart? tokenStart cs
  let ds := rest.takeWhile Text.isDigit
  let _ ← dropStart? tokenEnd (rest.drop ds.length)
  if ds.isEmpty then none else some ds

/-- The id in the token of a comment's body, if it has one; an id with too many digits is an error. -/
def token? (body : Option String) : Except Failure (Option Nat) :=
  match tokenDigits? (body.getD "").toList with
  | none => .ok none
  | some ds =>
    if ds.length ≤ Text.maxDigits then .ok (some (Text.number ds)) else .error (.digitLimit ds.length)

/-- The first of `comments` whose token carries `id`. -/
def findToken? {α : Type} (body : α → Option String) (id : Int) : List α → Except Failure (Option α)
  | [] => .ok none
  | c :: rest => do
    match ← token? (body c) with
    | some n => if (n : Int) = id then return some c else findToken? body id rest
    | none => findToken? body id rest

end IssueBridge.Correlation
