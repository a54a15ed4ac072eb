import IssueBridge.Bridge.Handlers
import IssueBridge.Bridge.Journal

/-! # Deliveries

A delivery names the kind of its event and carries a record of it. Pull requests, other actions and
repositories that are not bridged are passed over; a handler that fails is logged and journalled.
-/

namespace IssueBridge

/-- An event of either kind. -/
inductive Event
  | issue (e : GitHub.IssueEvent)
  | comment (e : GitHub.CommentEvent)

namespace Event

def kind : Event → String
  | .issue _ => "issues"
  | .comment _ => "issue_comment"

def action : Event → String
  | .issue e => e.action
  | .comment e => e.action

def subject : Event → GitHub.Issue
  | .issue e => e.issue
  | .comment e => e.issue

def repository : Event → String
  | .issue e => e.repository.name
  | .comment e => e.repository.name

def url : Event → String
  | .issue e => e.issue.url
  | .comment e => e.comment.url

/-- The kind and the action of an event. -/
def title (e : Event) : String := e.kind ++ "." ++ e.action

/-- How an event is called in the log. -/
def context (e : Event) (delivery : String) : String :=
  "[" ++ delivery ++ "] " ++ e.title ++ " " ++ e.repository ++ "#" ++ toString e.subject.number ++
    " (" ++ e.url ++ ")"

/-- Reads an event of a kind, if there is such a kind. -/
def read? (kind : String) (body : ByteArray) : Option (Except Failure Event) :=
  if kind = "issues" then some ((GitHub.IssueEvent.model.ofBytes body).map .issue)
  else if kind = "issue_comment" then some ((GitHub.CommentEvent.model.ofBytes body).map .comment)
  else none

/-- What handles an event, unless its action is none of its kind's. -/
def handler? (b : Bridge) : Event → Option (Repo → Step Unit)
  | .issue e => (IssueAction.named? e.action).map fun a repo => discard (b.handleIssue a e repo)
  | .comment e => (CommentAction.named? e.action).map fun a repo => discard (b.handleComment a e repo)

end Event

namespace Bridge

/-- Runs a handler; a failure ends in the log and the journal. -/
def attempt (b : Bridge) (e : Event) (context : String) (handler : Step Unit) : Step Bool := do
  match ← Step.observe handler with
  | .ok () => do
    Step.info (context ++ " handled")
    return true
  | .error f => do
    Step.error (context ++ " Error handling event: " ++ f.message)
    b.journal {
      status := .failed, origin := .webhook, message := f.message, repository := e.repository
      issue := some e.subject.number, action := some e.title }
    return false

/-- Whether an event was handled. -/
def handle (b : Bridge) (e : Event) (delivery : String) : Step Bool := do
  let context := e.context delivery
  if e.subject.isPullRequest then
    Step.info (context ++ " not handle pull request issue")
    return false
  else
    match e.handler? b with
    | none => return false
    | some handler =>
      match b.settings.repos.lookup e.repository with
      | none => do
        Step.warn (context ++ " repository " ++ e.repository ++ " is not configured")
        return false
      | some repo => b.attempt e context (handler repo)

/-- Reads and handles a delivery. It fails if the kind is unknown or the body is no such event. -/
def dispatch (b : Bridge) (kind delivery : String) (body : ByteArray) : Step Bool := do
  match Event.read? kind body with
  | none => do
    Step.warn ("[" ++ delivery ++ "] Unsupported type " ++ kind)
    throw (.unsupportedEvent kind)
  | some event => b.handle (← Step.ofExcept event) delivery

/-- Handles a delivery that was acknowledged already; nothing fails it. -/
def process (b : Bridge) (kind delivery : String) (body : ByteArray) : Step Unit := do
  match ← Step.observe (b.dispatch kind delivery body) with
  | .ok _ => return ()
  | .error (.unsupportedEvent k) =>
    Step.info ("[" ++ delivery ++ "] " ++ (Failure.unsupportedEvent k).message)
  | .error (.invalidRecord model problems) =>
    Step.error ("[" ++ delivery ++ "] Error parsing " ++ kind ++ " event: " ++
      (Failure.invalidRecord model problems).message)
  | .error f =>
    Step.error ("[" ++ delivery ++ "] Error processing " ++ kind ++ " event: " ++ f.message)

end Bridge

end IssueBridge
