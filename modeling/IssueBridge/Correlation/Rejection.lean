import IssueBridge.Failure

/-! # Rejected assignees

The tracker says in the text of a refusal that an assignee does not exist.
-/

namespace IssueBridge

namespace Text

/-- What follows the first occurrence of a piece. -/
def after? (piece : List Char) : List Char → Option (List Char)
  | [] => if piece.isEmpty then some [] else none
  | c :: rest =>
    if piece.isPrefixOf (c :: rest) then some ((c :: rest).drop piece.length) else after? piece rest

/-- The text has the pieces in this order, without overlap. -/
def holdsInOrder (pieces : List (List Char)) (cs : List Char) : Bool :=
  (pieces.foldlM (fun cs piece => after? piece cs) cs).isSome

/-- The lines of a text, which are separated by line feeds. -/
def lines : List Char → List (List Char)
  | [] => [[]]
  | c :: rest =>
    match c, lines rest with
    | '\n', ls => [] :: ls
    | c, l :: ls => (c :: l) :: ls
    | c, [] => [[c]]

end Text

namespace Failure

/-- What a line says about an assignee that does not exist. -/
def rejectionPieces : List (List Char) := ["assignee", "User", "does not exist."].map String.toList

def saysRejected (text : String) : Bool :=
  (Text.lines text.toList).any (Text.holdsInOrder rejectionPieces)

/-- The text of the refusal stands once more after the message. -/
def fullText : Failure → String
  | .tracker r => r.message ++ (if r.text = "" then "" else " " ++ r.text)
  | f => f.message

/-- The tracker refused an issue because its assignee does not exist. -/
def isRejectedAssignee (f : Failure) : Bool := saysRejected f.fullText

end Failure

end IssueBridge
