import IssueBridge.Failure
import IssueBridge.Time.Timestamp
import IssueBridge.Tracker.Ticket

/-! # Calls

What the bridge asks of the trackers, the clock and the database. Each call is answered, answered with
nothing, or fails, depending on the calls before it.
-/

namespace IssueBridge

inductive Call
  | openSource (token : Option String) (url : String)
  | openTracker (server user password : String)
  | repository (fullName : String) (lazy : Bool)
  | listIssues (fullName : String) (since : Option Time.Timestamp)
  | issue (number : Int)
  | listComments (number : Int) (since : Option Time.Timestamp)
  | customFields
  | search (query : String)
  | create (fields : Fields)
  | update (key : Option String) (fields : Fields)
  | transition (key : Option String) (step : String)
  | comments (thread : Tracker.ThreadId)
  | addComment (thread : Tracker.ThreadId) (body : String)
  | updateComment (id body : String)
  | deleteComment (id : String)
  | sleep (seconds : Float)
  /-- A pool of workers is made. -/
  | pool (workers : Int) (name : String)
  | commit
  | openSession

namespace Call

def name : Call → String
  | .openSource .. => "Github"
  | .openTracker .. => "JIRA"
  | .repository .. => "get_repo"
  | .listIssues .. => "get_issues"
  | .issue .. => "get_issue"
  | .listComments .. => "get_comments"
  | .customFields => "fields"
  | .search .. => "search_issues"
  | .create .. => "create_issue"
  | .update .. => "issue.update"
  | .transition .. => "transition_issue"
  | .comments .. => "comments"
  | .addComment .. => "add_comment"
  | .updateComment .. => "comment.update"
  | .deleteComment .. => "comment.delete"
  | .sleep .. => "sleep"
  | .pool .. => "pool"
  | .commit => "db.commit"
  | .openSession => "db.open"

/-- What a call is about. -/
def subject : Call → String
  | .openSource _ url => url
  | .openTracker server _ _ => server
  | .repository fullName _ => fullName
  | .listIssues fullName _ => fullName
  | .issue n => toString n
  | .listComments n _ => toString n
  | .search query => query
  | .create fs => ((fs.get? "summary").getD .null).text
  | .update key _ => key.getD ""
  | .transition _ step => step
  | .comments thread => thread.text
  | .addComment thread _ => thread.text
  | .updateComment id _ => id
  | .deleteComment id => id
  | _ => ""

/-- Calls to the database, which leave no trace outside. -/
def isInternal : Call → Bool
  | .commit => true
  | .openSession => true
  | _ => false

end Call

inductive Reply
  | served
  /-- A search finds nothing. -/
  | empty
  | failed (f : Failure)

/-- How a call is answered after the calls before it, the latest of which stands first. -/
abbrev Faults := List Call → Call → Reply

def Faults.none : Faults := fun _ _ => .served

end IssueBridge
