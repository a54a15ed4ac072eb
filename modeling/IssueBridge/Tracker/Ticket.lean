import IssueBridge.Value.Basic

/-! # Tickets

An issue of the tracker and its comments. A part may be missing, null or given.
-/

namespace IssueBridge.Tracker

inductive Part (α : Type)
  | missing
  | null
  | given (a : α)
  deriving Repr

def Part.get? {α : Type} : Part α → Option α
  | .given a => some a
  | _ => none

/-- The id under which a ticket's comments stand, which may be null. -/
abbrev ThreadId := Option String

def ThreadId.text (id : ThreadId) : String := id.getD "None"

structure Ticket where
  key : Part String
  id : Part String
  fields : Part Fields
  /-- What else is known of the ticket. -/
  rest : Fields := []

structure Comment where
  id : String
  body : Part String

namespace Ticket

/-- The fields; a ticket without them has none. -/
def fieldsGiven (t : Ticket) : Fields := t.fields.get?.getD []

def field (t : Ticket) (name : String) : Value := (t.fieldsGiven.get? name).getD .null

/-- A member of a field that holds an object. -/
def fieldMember (t : Ticket) (name member : String) : Value :=
  ((t.field name).member? member).getD .null

def issueType (t : Ticket) : Value := t.fieldMember "issuetype" "name"

def assignee (t : Ticket) : Value := t.fieldMember "assignee" "name"

def statusCategory (t : Ticket) : Value :=
  (((t.field "status").member? "statusCategory").bind (·.member? "name")).getD .null

/-- The names of the components; one without a name counts as null. -/
def components (t : Ticket) : List Value :=
  match t.field "components" with
  | .arr items => items.map fun c => (c.member? "name").getD .null
  | _ => []

/-- A key up to its last hyphen; empty if there is none. -/
def keyPrefix (key : String) : String :=
  String.ofList ((key.toList.reverse.dropWhile (· ≠ '-')).drop 1).reverse

/-- The part of the ticket's key that names a project. -/
def keyProject (t : Ticket) : String := keyPrefix (t.key.get?.getD "")

/-- The ticket's project: given, or else the first part of its key. -/
def project (t : Ticket) : String :=
  match t.rest.get? "project" with
  | some (.str p) => p
  | _ => t.keyProject

/-- The source's id that the ticket carries: in a custom field or, when that is missing, beside the
fields. -/
def sourceId (t : Ticket) (fieldName : String) : Value :=
  match t.fieldsGiven.get? fieldName with
  | some v => v
  | none => (t.rest.get? "github_id").getD .null

/-- New fields over the old ones. -/
def update (t : Ticket) (new : Fields) : Ticket :=
  { t with fields := .given (t.fieldsGiven.overlay new) }

end Ticket

end IssueBridge.Tracker
