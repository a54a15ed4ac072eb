import IssueBridge.Bridge.Reconcile
import IssueBridge.Fiber

/-! # Reconciliation with company

In a pass every repository is synchronised by a worker of its own, and its issues are brought up to date by further
workers. Each part that they take in turns makes at most one call to the tracker.
-/

namespace IssueBridge

open Tracker

namespace Bridge

/-- Whose turn it is among the repositories of a pass, and among the issues of each of them. -/
structure Schedule where
  repositories : List Nat := []
  issues : String → List Nat := fun _ => []

namespace Fibers

def transitions (r : TicketRef) (repo : Repo) (name : String) : Fiber Unit :=
  ((repo.transitions.lookup name).getD []).forM fun step => .lift (Tracker.transition r step)

/-- Attempts to create a ticket. The fields are kept for another attempt. -/
def firstAttempt (b : Bridge) (i : GitHub.Issue) (repo : Repo) : Step (Fields × Except Failure TicketRef) := do
  let fs ← Step.ofLogged (b.newFields i repo)
  return (fs, ← Step.observe (Tracker.create fs))

def opened (b : Bridge) (i : GitHub.Issue) (repo : Repo) : Fiber TicketRef := do
  match ← .lift (firstAttempt b i repo) with
  | (_, .ok r) => return r
  | (fs, .error f) => .lift (createAgain fs f)

def closeNew (r : TicketRef) (i : GitHub.Issue) (repo : Repo) : Fiber Unit :=
  if i.state = "closed" then
    .contain .error ("JIRA issue transition to closed error (" ++ i.url ++ "): ") (transitions r repo done)
  else return ()

def settleNew (r : TicketRef) (i : GitHub.Issue) (repo : Repo) : Fiber Unit := do
  closeNew r i repo
  LabelRule.all.forM fun rule => .lift (fillIn r i repo rule)

def createFromSource (b : Bridge) (i : GitHub.Issue) (repo : Repo) : Fiber TicketRef := do
  .lift (b.warnUnmapped i)
  let r ← opened b i repo
  settleNew r i repo
  return r

/-- Creates the counterpart of an issue that has none. The result tells what it found or created. -/
def ensureTicket (b : Bridge) (name : String) (repo : Repo) (i : GitHub.Issue) :
    Fiber (Except Failure TicketRef) := do
  match ← Fiber.observe (.lift (b.findIssue repo.project i.id)) with
  | .ok r => return .ok r
  | .error (.issueNotFound ..) => do
    match ← Fiber.observe (createFromSource b i repo) with
    | .ok r => do
      .lift (count "created" 1)
      return .ok r
    | .error f => do
      .lift (do
        Step.error ("Failed to create JIRA issue for " ++ i.url ++ ": " ++ f.message)
        recordError name (some i.number) f)
      return .error f
  | .error f => do
    .lift (do
      Step.error ("findIssue failed for " ++ i.url ++ ": " ++ f.message)
      recordError name (some i.number) f)
    return .error f

def pushStatus (r : TicketRef) (i : GitHub.Issue) (repo : Repo) : Fiber Unit := do
  match wantedTransition i.state (← .lift (view r)).statusCategory with
  | some name => .contain .error ("JIRA issue transition to " ++ i.state ++ " error: ") (transitions r repo name)
  | none => return ()

def updateFromSource (b : Bridge) (r : TicketRef) (i : GitHub.Issue) (repo : Repo) : Fiber Unit := do
  .lift (b.pushText r i)
  .lift (b.pushAssignee r i)
  pushStatus r i repo
  LabelRule.all.forM fun rule => .lift (pushRule r i repo rule)

def syncComments (b : Bridge) (r : TicketRef) (i : GitHub.Issue) (name : String) (repo : Repo)
    (since : Time.Timestamp) : Fiber Unit := do
  let existing ← .lift (do Tracker.comments (← threadOf r))
  if i.comments = 0 then existing.forM fun c => .lift (deleteIfSynced c)
  else
    let comments ← .lift (GitHub.comments repo.owner name i.number (some since))
    comments.forM fun c => .lift (b.writeComment r existing c)

def bringUpToDate (b : Bridge) (name : String) (repo : Repo) (since : Time.Timestamp) (i : GitHub.Issue) :
    Fiber Unit := do
  let r ← .lift (b.findIssue repo.project i.id)
  updateFromSource b r i repo
  syncComments b r i name repo since

def syncIssue (b : Bridge) (name : String) (repo : Repo) (since : Time.Timestamp) (i : GitHub.Issue) :
    Fiber Unit := do
  match ← Fiber.observe (bringUpToDate b name repo since i) with
  | .ok () => .lift (count "updated" 1)
  | .error f =>
    .lift (do
      Step.error ("Failed to sync issue " ++ i.url ++ ": " ++ f.message)
      recordError name (some i.number) f)

/-- What became of an issue that was looked for. -/
structure Finding where
  project : String
  issue : GitHub.Issue
  result : Except Failure TicketRef

/-- Creates what is missing, one issue after the other. -/
def ensureAll (b : Bridge) (name : String) (repo : Repo) : List GitHub.Issue → Fiber (List Finding)
  | [] => return []
  | i :: issues => do
    let result ← ensureTicket b name repo i
    return ⟨repo.project, i, result⟩ :: (← ensureAll b name repo issues)

/-- Brings the counterparts up to date by workers that have their turns by a schedule. -/
def updateAll (b : Bridge) (schedule : List Nat) (name : String) (repo : Repo) (since : Time.Timestamp)
    (issues : List GitHub.Issue) : Fiber Unit := do
  if !issues.isEmpty then
    let _ ← .lift (Step.place (.pool (b.workers issues.length) ("sync-" ++ name)))
    let _ ← Fiber.scheduled schedule (issues.map (syncIssue b name repo since))

/-- What a repository's worker found out, and how it ended. -/
structure Report where
  findings : List Finding
  ending : Except Failure Unit

def syncIssues (b : Bridge) (schedule : List Nat) (name : String) (repo : Repo) (since : Time.Timestamp)
    (issues : List GitHub.Issue) : Fiber Report := do
  .lift (count "issues" issues.length)
  let findings ← ensureAll b name repo issues
  return ⟨findings, ← Fiber.observe do
    updateAll b schedule name repo since issues
    .lift (b.reportRepository name issues.length)⟩

def syncRepository (b : Bridge) (schedule : List Nat) (since : Time.Timestamp) (name : String) (repo : Repo) :
    Fiber Report := do
  .lift (count "repositories" 1)
  match ← Fiber.observe (.lift (GitHub.issues repo.owner name (some since))) with
  | .error f => do
    return ⟨[], ← Fiber.observe <| .lift do
      Step.error ("getGithubIssuesByRepo error occur of " ++ name ++ ": " ++ f.message)
      recordError name none f
      b.journalPass name .failed ("Listing issues failed: " ++ f.message)⟩
  | .ok issues => syncIssues b schedule name repo since issues

/-- What failed a worker as a whole. -/
def crash? : Except Failure Report → Option Failure
  | .error f => some f
  | .ok ⟨_, .error f⟩ => some f
  | .ok ⟨_, .ok ()⟩ => none

def foundBy : Except Failure Report → List Finding
  | .error _ => []
  | .ok report => report.findings

/-- Synchronises the repositories by workers that have their turns by a schedule. -/
def syncRepositories (b : Bridge) (s : Schedule) (since : Time.Timestamp) (repos : Table Repo) :
    Fiber (List (Except Failure Report)) :=
  .scheduled s.repositories <| repos.map fun (name, repo) => syncRepository b (s.issues name) since name repo

end Fibers

/-- Synchronises all repositories of the settings by a schedule. -/
def syncConfiguredBy (b : Bridge) (s : Schedule) (since : Time.Timestamp) : Step (List Fibers.Finding) := do
  let repos := b.settings.repos
  if repos.isEmpty then return []
  else
    let _ ← Step.place (.pool repos.length "sync-repo")
    let outcomes ← (Fibers.syncRepositories b s since repos).run
    (outcomes.filterMap Fibers.crash?).forM reportCrash
    return outcomes.flatMap Fibers.foundBy

/-- One pass over all repositories, by a schedule. -/
def passBy (b : Bridge) (s : Schedule) : Step Tally := do
  let _ ← b.syncConfiguredBy s (← b.startPass)
  endPass

/-- A pass by a schedule, unless another one is running. -/
def syncAllBy (b : Bridge) (s : Schedule) : Step Tally := do
  if (← get).busy then
    Step.info "Reconciliation already running, skipping"
    return { skipped := true }
  else
    modify fun w => { w with busy := true }
    let outcome ← Step.observe (b.passBy s)
    modify fun w => { w with busy := false }
    Step.ofExcept outcome

end Bridge

end IssueBridge
