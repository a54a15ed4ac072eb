import IssueBridge.Failure
import IssueBridge.GitHub.Basic
import IssueBridge.Json.Reader
import IssueBridge.Record.Moment

/-! # Reading GitHub's records

Members that are not known are passed over.
-/

namespace IssueBridge

namespace Record

/-- A named form: reports on a value that is not of the form carry the name. -/
structure Model (α : Type) where
  name : String
  form : Form α

namespace Model

variable {α : Type}

def ofValue (m : Model α) (v : Value) : Except Failure α :=
  match m.form v with
  | .good a => .ok a
  | .bad ps => .error (.invalidRecord m.name ps)

/-- Reads a body, which has to be JSON. -/
def ofBytes (m : Model α) (bytes : ByteArray) : Except Failure α :=
  match (String.fromUTF8? bytes).map fun s => Json.read Json.deliveryRules s.toList with
  | some (.ok v) => m.ofValue v
  | _ => .error (.invalidRecord m.name [⟨.malformed, []⟩])

end Model

end Record

namespace GitHub

open Record

def User.form : Form User :=
  .record fun fs => User.mk
    <$> optionalMember fs "login" .text ""
    <*> optionalMember fs "html_url" .text ""
    <*> optionalMember fs "name" (.optional .text) none

def Label.form : Form Label :=
  .record fun fs => Label.mk <$> required fs "name" .text

def Repository.form : Form Repository :=
  .record fun fs => Repository.mk
    <$> required fs "name" .text
    <*> optionalMember fs "full_name" (.optional .text) none
    <*> optionalMember fs "owner" (.optional User.form) none

/-- The form of an issue whose points in time are of the given form. -/
def Issue.formWith (moment : Form Time.Timestamp) : Form Issue :=
  .record fun fs => Issue.mk
    <$> required fs "id" .whole
    <*> required fs "number" .whole
    <*> optionalMember fs "title" .text ""
    <*> optionalMember fs "body" (.optional .text) none
    <*> optionalMember fs "state" .text "open"
    <*> optionalMember fs "html_url" .text ""
    <*> optionalMember fs "user" (.optional User.form) none
    <*> optionalMember fs "assignee" (.optional User.form) none
    <*> optionalMember fs "labels" (.list Label.form) []
    <*> optionalMember fs "comments" .whole 0
    <*> optionalMember fs "created_at" (.optional moment) none
    <*> optionalMember fs "pull_request" (.optional .object) none

/-- The form of a comment whose points in time are of the given form. -/
def Comment.formWith (moment : Form Time.Timestamp) : Form Comment :=
  .record fun fs => Comment.mk
    <$> required fs "id" .whole
    <*> optionalMember fs "body" (.optional .text) none
    <*> optionalMember fs "html_url" .text ""
    <*> optionalMember fs "user" (.optional User.form) none
    <*> optionalMember fs "created_at" (.optional moment) none

/-- The form of an issue in a delivery. -/
def Issue.form : Form Issue := Issue.formWith .moment

/-- The form of a comment in a delivery. -/
def Comment.form : Form Comment := Comment.formWith .moment

def IssueEvent.form : Form IssueEvent :=
  .record fun fs => IssueEvent.mk
    <$> required fs "action" .text
    <*> required fs "issue" Issue.form
    <*> required fs "repository" Repository.form
    <*> optionalMember fs "assignee" (.optional User.form) none
    <*> optionalMember fs "label" (.optional Label.form) none

def CommentEvent.form : Form CommentEvent :=
  .record fun fs => CommentEvent.mk
    <$> required fs "action" .text
    <*> required fs "issue" Issue.form
    <*> required fs "comment" Comment.form
    <*> required fs "repository" Repository.form

def User.model : Model User := ⟨"GitHubUser", User.form⟩
def Label.model : Model Label := ⟨"GitHubLabel", Label.form⟩
def Repository.model : Model Repository := ⟨"GitHubRepository", Repository.form⟩
def Issue.model : Model Issue := ⟨"GitHubIssue", Issue.form⟩
def Comment.model : Model Comment := ⟨"GitHubComment", Comment.form⟩
/-- An issue as it stands in a listing. -/
def Issue.listed : Model Issue := ⟨"GitHubIssue", Issue.formWith .listedMoment⟩

/-- A comment as it stands in a listing. -/
def Comment.listed : Model Comment := ⟨"GitHubComment", Comment.formWith .listedMoment⟩

def IssueEvent.model : Model IssueEvent := ⟨"IssuesEvent", IssueEvent.form⟩
def CommentEvent.model : Model CommentEvent := ⟨"IssueCommentEvent", CommentEvent.form⟩

end GitHub

end IssueBridge
