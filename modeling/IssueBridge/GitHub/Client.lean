import IssueBridge.GitHub.Reading
import IssueBridge.World

/-! # The source's client

Listings are read record by record; pull requests are left out of the listings of issues.
-/

namespace IssueBridge.GitHub

open Time

/-- Reads all records of a listing; the first that is invalid fails it. -/
def readAll {α : Type} (m : Record.Model α) (records : List Value) : Except Failure (List α) :=
  records.mapM m.ofValue

/-- A start of a window counts as universal time if it has no offset. -/
def windowStart (since : Option Timestamp) : Option Timestamp := since.map (·.withZone)

def fullName (owner name : String) : String := owner ++ "/" ++ name

/-- The issues of a repository that changed since a time. -/
def issues (owner name : String) (since : Option Timestamp) : Step (List Issue) :=
  let repository := fullName owner name
  Step.logging Failure.isSources ("Failed to get issues for " ++ repository ++ ": ") do
    let _ ← Step.place (.repository repository false)
    let _ ← Step.place (.listIssues repository (windowStart since))
    let records := ((← get).source.issues.lookup repository).getD []
    let all ← Step.ofExcept (readAll Issue.listed records)
    return all.filter fun i => !i.isPullRequest

/-- The comments of an issue that changed since a time. -/
def comments (owner name : String) (number : Int) (since : Option Timestamp) : Step (List Comment) :=
  let repository := fullName owner name
  let issue := repository ++ "#" ++ toString number
  Step.logging Failure.isSources ("Failed to get comments for " ++ issue ++ ": ") do
    let _ ← Step.place (.repository repository true)
    let _ ← Step.place (.issue number)
    let _ ← Step.place (.listComments number (windowStart since))
    let records := ((← get).source.comments.lookup issue).getD []
    Step.ofExcept (readAll Comment.listed records)

end IssueBridge.GitHub
