import IssueBridge.Projection.Fields
import IssueBridge.World

/-! # The tracker's client

Each operation places its call and then changes the store. A refusal is logged and goes on to the
caller.
-/

namespace IssueBridge.Tracker

/-- The ticket at a place; one that does not exist cannot be asked for anything. -/
def ticket (r : TicketRef) : Step Ticket := do
  match (← get).store.ticket? r with
  | some t => return t
  | none => throw .missingPart

/-- A part that the ticket is asked for, which may be null. -/
def part {α : Type} : Part α → Step (Option α)
  | .given a => pure (some a)
  | .null => pure none
  | .missing => throw .missingPart

/-- The key of a ticket in a message. -/
def keyText (t : Ticket) : Step String := do return (← part t.key).getD "None"

def trimSlashes (url : String) : String :=
  String.ofList (url.toList.reverse.dropWhile (· = '/')).reverse

/-- The address of a ticket for readers. -/
def browseUrl (s : Settings) (key : String) : String := trimSlashes s.jiraUrl ++ "/browse/" ++ key

/-- The number of a custom field, and its name. -/
def customNumber (field : Value) : Option (Value × String) :=
  match (field.member? "schema").bind (·.member? "customId") with
  | none => none
  | some .null => none
  | some id => some ((field.member? "name").getD (.str ""), id.text)

/-- The number of the last custom field with a name. -/
def numberOf (name : String) (fields : List Value) : Option String :=
  ((fields.filterMap customNumber).reverse.find? fun p => p.1.str? == some name).map (·.2)

/-- Finds the custom fields that hold the source's id and address; the former has to be there. -/
def fieldIds : Step FieldIds := do
  let _ ← Step.logging Failure.isTrackers "Failed to get JIRA custom fields: " (Step.place .customFields)
  let fields := (← get).store.customFields
  match (numberOf "GitHub ID" fields).getD "" with
  | "" =>
    throw (.refused ("Could not find JIRA custom field ID of 'GitHub ID' custom field; " ++
      "check that it is named correctly"))
  | githubId => return { githubId, githubUrl := numberOf "GitHub URL" fields }

/-- The tickets that answer a query, given as text; any other text finds nothing. -/
def search (query : String) : Step (List TicketRef) :=
  Step.logging Failure.isTrackers ("Failed to search issues (" ++ query ++ "): ") do
    if ← Step.place (.search query) then
      match Correlation.Query.read? query with
      | some q => return (← get).store.search q
      | none => return []
    else return []

/-- Creates a ticket. A refusal is not logged here, since the caller may try again. -/
def create (fs : Fields) : Step TicketRef := do
  let _ ← Step.place (.create fs)
  let r ← Step.onStore (·.create fs)
  let t ← ticket r
  Step.info ("Created issue " ++ (← keyText t))
  return r

/-- Updates a ticket. One without a key is updated as well, but then the report on it fails. -/
def update (r : TicketRef) (fs : Fields) : Step Unit := do
  let t ← ticket r
  let start := do return "Failed to update issue " ++ (← keyText t) ++ ": "
  Step.loggingFrom Failure.isTrackers start do
    let _ ← Step.place (.update t.key.get? fs)
    Step.modifyStore (·.update r fs)
    discard (keyText t)

/-- The field of an assignee; without a name, or with an empty one, nobody is assigned. -/
def assigneeFields (user : Option String) : Fields :=
  [("assignee", match user.getD "" with
    | "" => .null
    | user => named user)]

def setAssignee (r : TicketRef) (user : Option String) : Step Unit := update r (assigneeFields user)

def transition (r : TicketRef) (step : String) : Step Unit := do
  let t ← ticket r
  let key ← keyText t
  Step.logging Failure.isTrackers ("Failed to transition issue " ++ key ++ " (" ++ step ++ "): ") do
    let _ ← Step.place (.transition t.key.get? step)
    Step.modifyStore (·.transition r step)
    Step.info ("Transitioned issue " ++ key ++ " with transition " ++ step)

def comments (thread : ThreadId) : Step (List CommentRef) :=
  Step.logging Failure.isTrackers ("Failed to get comments for issue " ++ thread.text ++ ": ") do
    let _ ← Step.place (.comments thread)
    Step.onStore (·.comments thread)

def addComment (thread : ThreadId) (body : String) : Step CommentRef :=
  Step.logging Failure.isTrackers ("Failed to create comment on issue " ++ thread.text ++ ": ") do
    let _ ← Step.place (.addComment thread body)
    let c ← Step.onStore (·.addComment thread body)
    Step.info ("Created comment on issue " ++ thread.text)
    return c

def updateComment (c : CommentRef) (body : String) : Step Unit :=
  Step.logging Failure.isTrackers ("Failed to update comment " ++ c.id ++ ": ") do
    let _ ← Step.place (.updateComment c.id body)
    Step.modifyStore (·.updateComment c body)

def deleteComment (c : CommentRef) : Step Unit :=
  Step.logging Failure.isTrackers ("Failed to delete comment " ++ c.id ++ ": ") do
    let _ ← Step.place (.deleteComment c.id)
    Step.modifyStore (·.deleteComment c)
    Step.info ("Deleted comment " ++ c.id)

end IssueBridge.Tracker
