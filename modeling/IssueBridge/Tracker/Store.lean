import IssueBridge.Correlation.Query
import IssueBridge.Settings.Basic
import IssueBridge.Tracker.Ticket

/-! # The tracker's store

Tickets stand in the order in which they were created and are known by their place in it. Comments stand
in threads, one for each ticket id that was ever asked for. Keys and ids of new tickets and comments
count what is there.
-/

namespace IssueBridge.Tracker

open Correlation

/-- The place of a ticket in the store. -/
abbrev TicketRef := Nat

structure Store where
  tickets : List Ticket := []
  threads : List (ThreadId × List Comment) := []
  /-- The status category that each step of the workflow leads to. -/
  workflow : Table String := []
  customFields : List Value := []
  /-- How many comments were added so far. -/
  added : Nat := 0

/-- A comment as it was read: its ticket's id, its own id, and its body. -/
structure CommentRef where
  thread : ThreadId
  id : String
  body : Option String

/-- The ticket is of the query's project and carries its id. -/
def Ticket.answers (t : Ticket) (q : Query) : Bool :=
  t.project = q.project && (t.sourceId ("customfield_" ++ q.field)).isNumber q.id

namespace Store

def ticket? (s : Store) (r : TicketRef) : Option Ticket := s.tickets[r]?

/-- The places of the tickets that answer a query, in order. -/
def search (s : Store) (q : Query) : List TicketRef :=
  (s.tickets.zipIdx.filter fun p => p.1.answers q).map (·.2)

def status (category : String) : Value :=
  .obj [("statusCategory", .obj [("name", .str category)])]

def projectKey (fs : Fields) : String :=
  match (fs.get? "project").bind (·.member? "key") with
  | some (.str k) => k
  | _ => ""

/-- The ticket that is made of the fields. -/
def newTicket (s : Store) (fs : Fields) : Ticket :=
  let project := projectKey fs
  let n := (s.tickets.filter fun t => t.keyProject = project).length + 1
  { key := .given (project ++ "-" ++ toString n)
    id := .given (toString (10001 + s.tickets.length))
    fields := .given (fs.set "status" (status "To Do")) }

def create (s : Store) (fs : Fields) : TicketRef × Store :=
  (s.tickets.length, { s with tickets := s.tickets ++ [s.newTicket fs] })

def modify (s : Store) (r : TicketRef) (f : Ticket → Ticket) : Store :=
  { s with tickets := s.tickets.modify r f }

def update (s : Store) (r : TicketRef) (fs : Fields) : Store := s.modify r (·.update fs)

/-- A step of the workflow; an unknown one leads nowhere. -/
def transition (s : Store) (r : TicketRef) (step : String) : Store :=
  match s.workflow.lookup step with
  | some category => s.update r [("status", status category)]
  | none => s

/-- Changes a thread, which is made if there is none. -/
def alterThread (f : List Comment → List Comment) (id : ThreadId) :
    List (ThreadId × List Comment) → List (ThreadId × List Comment)
  | [] => [(id, f [])]
  | (n, cs) :: rest => if n = id then (n, f cs) :: rest else (n, cs) :: alterThread f id rest

def thread (s : Store) (id : ThreadId) : List Comment := (s.threads.lookup id).getD []

/-- Asking for a thread makes it. -/
def comments (s : Store) (id : ThreadId) : List CommentRef × Store :=
  ((s.thread id).map fun c => ⟨id, c.id, c.body.get?⟩,
    { s with threads := alterThread (fun cs => cs) id s.threads })

def addComment (s : Store) (thread : ThreadId) (body : String) : CommentRef × Store :=
  let id := "n" ++ toString (s.added + 1)
  (⟨thread, id, some body⟩,
    { s with
      threads := alterThread (· ++ [⟨id, .given body⟩]) thread s.threads
      added := s.added + 1 })

/-- Gives the first comment with the id a new body. -/
def setBody (id body : String) : List Comment → List Comment
  | [] => []
  | c :: rest => if c.id = id then { c with body := .given body } :: rest else c :: setBody id body rest

def updateComment (s : Store) (c : CommentRef) (body : String) : Store :=
  { s with threads := alterThread (setBody c.id body) c.thread s.threads }

def deleteComment (s : Store) (c : CommentRef) : Store :=
  { s with threads := alterThread (·.eraseP (·.id = c.id)) c.thread s.threads }

/-- A comment of any thread. -/
def comment? (s : Store) (id : String) : Option CommentRef :=
  s.threads.findSome? fun (thread, cs) =>
    (cs.find? (·.id = id)).map fun c => ⟨thread, c.id, c.body.get?⟩

end Store

end IssueBridge.Tracker
