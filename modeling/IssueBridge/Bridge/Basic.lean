import IssueBridge.GitHub.Client
import IssueBridge.Tracker.Client

/-! # The bridge

A bridge knows its settings, the custom fields that tie an issue of the tracker to its source, and how
texts are rendered. It finds the counterparts of the source's issues and comments.
-/

namespace IssueBridge

open Tracker Correlation

structure Bridge extends Projector where
  /-- What was synchronised is written to the journal. -/
  journaling : Bool := true

namespace Bridge

def query (fieldIds : FieldIds) (project : String) (id : Int) : Query :=
  ⟨project, fieldIds.githubId, id⟩

/-- The keys of tickets, a question mark for a ticket without one; a key may be null. -/
def keys (s : Store) (refs : List TicketRef) : List (Option String) :=
  refs.map fun r =>
    match ((s.ticket? r).map (·.key)).getD .missing with
    | .given k => some k
    | .null => none
    | .missing => some "?"

/-- Several tickets carry an id; a null key among theirs cannot be listed. -/
def ambiguity (project : String) (id : Int) (names : List (Option String)) : Failure :=
  match names.findIdx? (·.isNone) with
  | some i => .nullKey i
  | none => .ambiguous project id (names.filterMap fun k => k)

/-- Reports that several tickets carry an id. -/
def refuse (project : String) (id : Int) (refs : List TicketRef) : Step TicketRef := do
  let names := keys (← get).store refs
  Step.error (s!"Data integrity: GitHub issue {id} maps to several JIRA issues: " ++
    (Value.arr (names.map fun k => (k.map Value.str).getD .null)).shown)
  throw (ambiguity project id names)

/-- The only ticket of a project that carries an id. -/
def findIssue (b : Bridge) (project : String) (id : Int) : Step TicketRef := do
  match ← Tracker.search (query b.fieldIds project id).text with
  | [] => throw (.issueNotFound project id)
  | [r] => return r
  | refs => refuse project id refs

/-- The first of the comments that carries an id. -/
def matching (comments : List CommentRef) (id : Int) : Except Failure (Option CommentRef) :=
  findToken? (·.body) id comments

/-- The comment in a thread that carries an id. -/
def findComment (thread : ThreadId) (id : Int) : Step CommentRef := do
  match ← Step.ofExcept (matching (← Tracker.comments thread) id) with
  | some c => return c
  | none => throw (.commentNotFound thread.text id)

/-- The id of a ticket, under which its comments stand. -/
def threadOf (r : TicketRef) : Step ThreadId := do Tracker.part (← Tracker.ticket r).id

/-- A ticket as it is now; one that does not exist has no parts. -/
def view (r : TicketRef) : Step Ticket := do
  return ((← get).store.ticket? r).getD ⟨.missing, .missing, .missing, []⟩

end Bridge

end IssueBridge
