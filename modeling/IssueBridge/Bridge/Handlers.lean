import IssueBridge.Bridge.LabelRule
import IssueBridge.Correlation.Rejection

/-! # Events

Each event changes the counterpart of the issue that it is about.
-/

namespace IssueBridge

open Tracker

/-- What can happen to an issue. -/
inductive IssueAction
  | opened
  | closed
  | reopened
  | edited
  | assigned
  | unassigned
  | labeled
  | unlabeled
  deriving DecidableEq, Repr

/-- What can happen to a comment. -/
inductive CommentAction
  | created
  | edited
  | deleted
  deriving DecidableEq, Repr

def IssueAction.named? (name : String) : Option IssueAction :=
  [("opened", .opened), ("closed", .closed), ("reopened", .reopened), ("edited", .edited),
    ("assigned", .assigned), ("unassigned", .unassigned), ("labeled", .labeled),
    ("unlabeled", .unlabeled)].lookup name

def CommentAction.named? (name : String) : Option CommentAction :=
  [("created", .created), ("edited", .edited), ("deleted", .deleted)].lookup name

/-- What an event made or changed. -/
inductive Touched
  | ticket (r : TicketRef)
  | comment (c : CommentRef)
  | nothing

namespace Bridge

def done : String := "Done"

def toDo : String := "To Do"

/-- The user whom fields assign, if any. -/
def assigneeIn (fs : Fields) : Option Value :=
  (fs.get? "assignee").filter fun v => !v.isEmpty

/-- After a refusal: if it was the assignee who was refused, the tracker is asked once more without
one. -/
def createAgain (fs : Fields) (f : Failure) : Step TicketRef :=
  match f.isTrackers && f.isRejectedAssignee, assigneeIn fs with
  | true, some user => do
    Step.warn ("retry create JIRA issue without assignee: " ++ user.text)
    Step.logging Failure.isTrackers "error create JIRA issue: " (Tracker.create (fs.erase "assignee"))
  | _, _ => do
    if f.isTrackers then Step.error ("error create JIRA issue: " ++ f.message)
    throw f

/-- Creates a ticket, in the second attempt without an assignee. -/
def createTicket (fs : Fields) : Step TicketRef := do
  match ← Step.observe (Tracker.create fs) with
  | .ok r => return r
  | .error f => createAgain fs f

/-- Takes the steps of a named transition in order, up to the first that fails. -/
def runTransitions (r : TicketRef) (repo : Repo) (name : String) : Step Unit :=
  ((repo.transitions.lookup name).getD []).forM (Tracker.transition r)

/-- The delay before the search after `k + 1` searches: it doubles each time. -/
def waitDelay (base : Float) (k : Nat) : Except Failure Float :=
  if k < 1024 then .ok (base * Float.ofNat (Nat.pow 2 k)) else .error .factorTooLarge

/-- Searches until the ticket is there, `left` times more after the first; `k` searches were made. -/
def findAfter (b : Bridge) (project : String) (id : Int) (k : Nat) : Nat → Step TicketRef
  | 0 => b.findIssue project id
  | left + 1 => do
    match ← Step.observe (b.findIssue project id) with
    | .ok r => return r
    | .error (.issueNotFound ..) => do
      let delay ← Step.ofExcept (waitDelay b.settings.waitBaseDelay k)
      let _ ← Step.place (.sleep delay)
      findAfter b project id (k + 1) left
    | .error f => throw f

/-- Finds a ticket that another delivery may still be creating. -/
def awaitIssue (b : Bridge) (project : String) (id : Int) : Step TicketRef :=
  b.findAfter project id 0 (b.settings.waitAttempts.toNat - 1)

def opened (b : Bridge) (i : GitHub.Issue) (repo : Repo) : Step TicketRef := do
  createTicket (← Step.ofLogged (b.newFields i repo))

def closed (b : Bridge) (i : GitHub.Issue) (repo : Repo) : Step Unit := do
  runTransitions (← b.findIssue repo.project i.id) repo done

def reopened (b : Bridge) (i : GitHub.Issue) (repo : Repo) : Step Unit := do
  runTransitions (← b.findIssue repo.project i.id) repo toDo

/-- Gives a ticket the title and the description of its issue. -/
def pushText (b : Bridge) (r : TicketRef) (i : GitHub.Issue) : Step Unit := do
  Tracker.update r (← Step.ofLogged (b.updatedFields i))

def edited (b : Bridge) (i : GitHub.Issue) (repo : Repo) : Step TicketRef := do
  let r ← b.findIssue repo.project i.id
  b.pushText r i
  return r

/-- The event says who was assigned, or else the issue does. -/
def assigned (b : Bridge) (e : GitHub.IssueEvent) (repo : Repo) : Step Unit := do
  let r ← b.awaitIssue repo.project e.issue.id
  let login := (e.assignee.map (·.login)).getD e.issue.assigneeLogin
  match ← Step.ofLogged (b.assignee? login) with
  | none => return ()
  | some user => Tracker.setAssignee r (some user)

/-- An assignee whom someone set in the tracker is left alone. -/
def unassigned (b : Bridge) (e : GitHub.IssueEvent) (repo : Repo) : Step Unit := do
  let r ← b.awaitIssue repo.project e.issue.id
  match ← Step.ofLogged (b.assignee? ((e.assignee.map (·.login)).getD "")) with
  | none => return ()
  | some user => if (← view r).assignee.isText user then Tracker.setAssignee r none

def labeled (b : Bridge) (e : GitHub.IssueEvent) (repo : Repo) : Step Unit := do
  let r ← b.awaitIssue repo.project e.issue.id
  match e.label with
  | none => Step.warn "labeled event without label"
  | some label => LabelRule.runAll LabelRule.all fun rule => discard (rule.apply r repo label.name)

def unlabeled (b : Bridge) (e : GitHub.IssueEvent) (repo : Repo) : Step Unit := do
  let r ← b.findIssue repo.project e.issue.id
  match e.label with
  | none => Step.warn "unlabeled event without label"
  | some label => LabelRule.runAll LabelRule.all fun rule => discard (rule.reset r repo label.name)

def commentCreated (b : Bridge) (e : GitHub.CommentEvent) (repo : Repo) : Step CommentRef := do
  let r ← b.findIssue repo.project e.issue.id
  let body ← Step.ofLogged (b.commentBody e.comment)
  Tracker.addComment (← threadOf r) body

def commentEdited (b : Bridge) (e : GitHub.CommentEvent) (repo : Repo) : Step CommentRef := do
  let r ← b.findIssue repo.project e.issue.id
  let c ← findComment (← threadOf r) e.comment.id
  Tracker.updateComment c (← Step.ofLogged (b.commentBody e.comment))
  return c

def commentDeleted (b : Bridge) (e : GitHub.CommentEvent) (repo : Repo) : Step Unit := do
  let r ← b.findIssue repo.project e.issue.id
  Tracker.deleteComment (← findComment (← threadOf r) e.comment.id)

/-- Does what an event about an issue asks for. -/
def handleIssue (b : Bridge) (a : IssueAction) (e : GitHub.IssueEvent) (repo : Repo) : Step Touched :=
  match a with
  | .opened => .ticket <$> b.opened e.issue repo
  | .closed => do b.closed e.issue repo; return .nothing
  | .reopened => do b.reopened e.issue repo; return .nothing
  | .edited => .ticket <$> b.edited e.issue repo
  | .assigned => do b.assigned e repo; return .nothing
  | .unassigned => do b.unassigned e repo; return .nothing
  | .labeled => do b.labeled e repo; return .nothing
  | .unlabeled => do b.unlabeled e repo; return .nothing

/-- Does what an event about a comment asks for. -/
def handleComment (b : Bridge) (a : CommentAction) (e : GitHub.CommentEvent) (repo : Repo) :
    Step Touched :=
  match a with
  | .created => .comment <$> b.commentCreated e repo
  | .edited => .comment <$> b.commentEdited e repo
  | .deleted => do b.commentDeleted e repo; return .nothing

end Bridge

end IssueBridge
