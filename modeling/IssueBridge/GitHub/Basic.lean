import IssueBridge.Time.Timestamp
import IssueBridge.Value.Basic

/-! # GitHub's side

Issues, their comments, and the events that are delivered about them.
-/

namespace IssueBridge.GitHub

open Time

structure User where
  login : String := ""
  url : String := ""
  name : Option String := none

structure Label where
  name : String

structure Repository where
  name : String
  fullName : Option String := none
  owner : Option User := none

structure Issue where
  id : Int
  number : Int
  title : String := ""
  body : Option String := none
  state : String := "open"
  url : String := ""
  user : Option User := none
  assignee : Option User := none
  labels : List Label := []
  comments : Int := 0
  createdAt : Option Timestamp := none
  /-- Only pull requests, which are listed among the issues, have this part. -/
  pullRequest : Option Fields := none

structure Comment where
  id : Int
  body : Option String := none
  url : String := ""
  user : Option User := none
  createdAt : Option Timestamp := none

namespace Issue

def isPullRequest (i : Issue) : Bool := i.pullRequest.isSome

/-- The assignee's login; empty when nobody is assigned. -/
def assigneeLogin (i : Issue) : String := (i.assignee.map (·.login)).getD ""

def labelNames (i : Issue) : List String := i.labels.map (·.name)

end Issue

structure IssueEvent where
  action : String
  issue : Issue
  repository : Repository
  /-- Whom an assignment is about. -/
  assignee : Option User := none
  /-- Which label was put on or taken off. -/
  label : Option Label := none

structure CommentEvent where
  action : String
  issue : Issue
  comment : Comment
  repository : Repository

end IssueBridge.GitHub
