import IssueBridge.Bridge.Handlers
import IssueBridge.Bridge.Watermark

/-! # Reconciliation

A pass lists every bridged repository, creates what is missing in the tracker and then brings every
counterpart up to date. A failure counts against its issue and does not stop the others. Here the workers of
a pass have their turns one after the other; they interleave in `Bridge.Fibers`.
-/

namespace IssueBridge

open Tracker

namespace Bridge

/-- Warns of an assignee without a user of the tracker. -/
def warnUnmapped (b : Bridge) (i : GitHub.Issue) : Step Unit :=
  if i.assigneeLogin ≠ "" ∧ (b.settings.assigneeOf.lookup i.assigneeLogin).isNone then
    Step.warn ("GitHub user login not find: " ++ i.assigneeLogin)
  else return ()

/-- Takes a new ticket to the end of the workflow if its issue is closed. -/
def closeNew (r : TicketRef) (i : GitHub.Issue) (repo : Repo) : Step Unit :=
  if i.state = "closed" then
    Step.contain .error ("JIRA issue transition to closed error (" ++ i.url ++ "): ")
      (runTransitions r repo done)
  else return ()

/-- Sets what a rule finds in the labels of a new ticket's issue. -/
def fillIn (r : TicketRef) (i : GitHub.Issue) (repo : Repo) (rule : LabelRule) : Step Unit := do
  match ← Step.ofExcept (rule.creationFields repo i.labelNames) with
  | some fs =>
    Step.contain .error ("create JIRA issue " ++ rule.name ++ " error (" ++ i.url ++ "): ")
      (Tracker.update r fs)
  | none => return ()

/-- Sets the status of a new ticket and what its labels ask for as far as possible. -/
def settleNew (r : TicketRef) (i : GitHub.Issue) (repo : Repo) : Step Unit := do
  closeNew r i repo
  LabelRule.all.forM (fillIn r i repo)

/-- Creates a ticket as for a new issue, then settles it. -/
def createFromSource (b : Bridge) (i : GitHub.Issue) (repo : Repo) : Step TicketRef := do
  b.warnUnmapped i
  let r ← b.opened i repo
  settleNew r i repo
  return r

/-- The transition that an issue's state asks for. -/
def wantedTransition (state : String) (category : Value) : Option String :=
  if state = "closed" ∧ !category.isText "Done" then some done
  else if state = "open" ∧ category.isText "Done" then some toDo
  else none

/-- Gives a ticket the assignee of its issue; without a user of the tracker nobody is assigned. -/
def pushAssignee (b : Bridge) (r : TicketRef) (i : GitHub.Issue) : Step Unit := do
  let user ← Step.ofLogged (b.assignee? i.assigneeLogin)
  Step.contain .warning ("assign JIRA issue to user error " ++ user.getD "None" ++ ": ")
    (Tracker.setAssignee r user)

/-- Takes a ticket where the state of its issue wants it. -/
def pushStatus (r : TicketRef) (i : GitHub.Issue) (repo : Repo) : Step Unit := do
  match wantedTransition i.state (← view r).statusCategory with
  | some name =>
    Step.contain .error ("JIRA issue transition to " ++ i.state ++ " error: ")
      (runTransitions r repo name)
  | none => return ()

/-- Sets what a rule finds in the labels of a ticket's issue. -/
def pushRule (r : TicketRef) (i : GitHub.Issue) (repo : Repo) (rule : LabelRule) : Step Unit := do
  match ← Step.ofExcept (rule.reconcileFields (← view r) repo i.labelNames) with
  | some fs =>
    Step.contain .error ("update JIRA issue " ++ rule.name ++ " error: ") (Tracker.update r fs)
  | none => return ()

/-- Brings a ticket up to date. Only the update of summary and description may fail. -/
def updateFromSource (b : Bridge) (r : TicketRef) (i : GitHub.Issue) (repo : Repo) : Step Unit := do
  b.pushText r i
  b.pushAssignee r i
  pushStatus r i repo
  LabelRule.all.forM (pushRule r i repo)

/-- Deletes a comment that carries a token; one that was written in the tracker stays. -/
def deleteIfSynced (c : CommentRef) : Step Unit := do
  if (← Step.ofExcept (Correlation.token? c.body)).isSome then
    Step.contain .warning "Delete JIRA comment error: " (Tracker.deleteComment c)

/-- Puts a body in the place of an old comment, or adds it to the ticket's thread. -/
def putComment (r : TicketRef) (body : String) : Option CommentRef → Step Unit
  | some old => Tracker.updateComment old body
  | none => do discard (Tracker.addComment (← threadOf r) body)

/-- Writes one comment of the source's to a thread, in place of the first of `existing` with its
token. -/
def writeComment (b : Bridge) (r : TicketRef) (existing : List CommentRef) (c : GitHub.Comment) :
    Step Unit := do
  let body ← Step.ofLogged (b.commentBody c)
  let old ← Step.ofExcept (matching existing c.id)
  Step.contain .warning ("sync comment " ++ c.url ++ " error: ") (putComment r body old)

/-- Creates or updates the comments of a ticket. When the source has none left, those that came from
there are deleted; comments of which only some are gone stay. -/
def syncComments (b : Bridge) (r : TicketRef) (i : GitHub.Issue) (name : String) (repo : Repo)
    (since : Time.Timestamp) : Step Unit := do
  let existing ← Tracker.comments (← threadOf r)
  if i.comments = 0 then existing.forM deleteIfSynced
  else
    let comments ← GitHub.comments repo.owner name i.number (some since)
    comments.forM (b.writeComment r existing)

def count (key : String) (n : Int) : Step Unit := Step.modifyTally (·.add key n)

def recordError (repository : String) (issue : Option Int) (f : Failure) : Step Unit :=
  Step.modifyTally (·.addError repository issue f)

/-- Creates the counterpart of an issue that has none. -/
def ensureTicket (b : Bridge) (name : String) (repo : Repo) (i : GitHub.Issue) : Step Unit := do
  match ← Step.observe (b.findIssue repo.project i.id) with
  | .ok _ => return ()
  | .error (.issueNotFound ..) => do
    match ← Step.observe (b.createFromSource i repo) with
    | .ok _ => count "created" 1
    | .error f => do
      Step.error ("Failed to create JIRA issue for " ++ i.url ++ ": " ++ f.message)
      recordError name (some i.number) f
  | .error f => do
    Step.error ("findIssue failed for " ++ i.url ++ ": " ++ f.message)
    recordError name (some i.number) f

/-- Brings the counterpart of an issue up to date. -/
def bringUpToDate (b : Bridge) (name : String) (repo : Repo) (since : Time.Timestamp)
    (i : GitHub.Issue) : Step Unit := do
  let r ← b.findIssue repo.project i.id
  b.updateFromSource r i repo
  b.syncComments r i name repo since

def syncIssue (b : Bridge) (name : String) (repo : Repo) (since : Time.Timestamp)
    (i : GitHub.Issue) : Step Unit := do
  match ← Step.observe (b.bringUpToDate name repo since i) with
  | .ok () => count "updated" 1
  | .error f => do
    Step.error ("Failed to sync issue " ++ i.url ++ ": " ++ f.message)
    recordError name (some i.number) f

def journalPass (b : Bridge) (name : String) (status : Status) (message : String) : Step Unit :=
  b.journal { status, origin := .reconcile, message, repository := name }

/-- How many workers share the issues of a repository. -/
def workers (b : Bridge) (issues : Nat) : Int := max 1 (min b.settings.maxWorkers issues)

/-- Brings the counterparts of the issues up to date, if there are any. -/
def updateAll (b : Bridge) (name : String) (repo : Repo) (since : Time.Timestamp)
    (issues : List GitHub.Issue) : Step Unit := do
  if !issues.isEmpty then
    let _ ← Step.place (.pool (b.workers issues.length) ("sync-" ++ name))
    issues.forM (b.syncIssue name repo since)

/-- Journals how many of a repository's issues failed. -/
def reportRepository (b : Bridge) (name : String) (issues : Nat) : Step Unit := do
  let errors := (← get).tally.errorsOf name
  if errors.isEmpty then b.journalPass name .success s!"{issues} issues synced"
  else b.journalPass name .failed s!"{errors.length} of {issues} issues failed"

def syncIssues (b : Bridge) (name : String) (repo : Repo) (since : Time.Timestamp)
    (issues : List GitHub.Issue) : Step Unit := do
  count "issues" issues.length
  issues.forM (b.ensureTicket name repo)
  b.updateAll name repo since issues
  b.reportRepository name issues.length

def syncRepository (b : Bridge) (since : Time.Timestamp) (name : String) (repo : Repo) :
    Step Unit := do
  count "repositories" 1
  match ← Step.observe (GitHub.issues repo.owner name (some since)) with
  | .error f => do
    Step.error ("getGithubIssuesByRepo error occur of " ++ name ++ ": " ++ f.message)
    recordError name none f
    b.journalPass name .failed ("Listing issues failed: " ++ f.message)
  | .ok issues => b.syncIssues name repo since issues

/-- Synchronises the repositories one after the other, and collects what failed them as a whole. -/
def syncRepositories (b : Bridge) (since : Time.Timestamp) : Table Repo → Step (List Failure)
  | [] => return []
  | (name, repo) :: rest => do
    match ← Step.observe (b.syncRepository since name repo) with
    | .ok () => b.syncRepositories since rest
    | .error f => return f :: (← b.syncRepositories since rest)

def reportCrash (f : Failure) : Step Unit := do
  Step.error ("Repository sync crashed: " ++ f.message)
  recordError "?" none f

/-- Synchronises all repositories of the settings, if there are any. -/
def syncConfigured (b : Bridge) (since : Time.Timestamp) : Step Unit := do
  let repos := b.settings.repos
  if !repos.isEmpty then
    let _ ← Step.place (.pool repos.length "sync-repo")
    (← b.syncRepositories since repos).forM reportCrash

/-- Starts a pass: nothing is counted yet, and the window is set. -/
def startPass (b : Bridge) : Step Time.Timestamp := do
  Step.modifyTally fun _ => {}
  let since ← Watermark.since b.settings.useWatermark
  Step.info s!"Start compare and sync issues of {b.settings.repos.length} repositories since {since.text}"
  return since

/-- Ends a pass with its tally. -/
def endPass : Step Tally := do
  Watermark.write (← get).clock
  let tally := (← get).tally
  Step.info ("Finish compare and sync issues: " ++ tally.countsValue.shown)
  return tally

/-- One pass over all repositories. -/
def pass (b : Bridge) : Step Tally := do
  b.syncConfigured (← b.startPass)
  endPass

/-- A pass, unless another one is running. -/
def syncAll (b : Bridge) : Step Tally := do
  if (← get).busy then
    Step.info "Reconciliation already running, skipping"
    return { skipped := true }
  else
    modify fun w => { w with busy := true }
    let outcome ← Step.observe b.pass
    modify fun w => { w with busy := false }
    Step.ofExcept outcome

end Bridge

end IssueBridge
