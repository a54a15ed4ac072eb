import IssueBridge.Projection.Text

/-! # Fields

The fields of an issue of the tracker, computed from the source's issue and the settings. Unmapped users
and missing versions leave fields unset.
-/

namespace IssueBridge

/-- An object that holds a name. -/
def named (name : String) : Value := .obj [("name", .str name)]

def allNamed (names : List String) : Value := .arr (names.map named)

def customField (id : String) : String := "customfield_" ++ id

def githubLabel : String := "github"

namespace Projector

/-- The tracker's user for a login; a login without one is logged. -/
def assignee? (p : Projector) (login : String) : Logged (Option String) :=
  if login = "" then return none
  else
    match p.settings.assigneeOf.lookup login with
    | some user => return some user
    | none => do
      Logged.warn ("GitHub user login could not find corresponding jira user: " ++ login)
      return none

/-- The fields that every new issue has. -/
def baseFields (p : Projector) (i : GitHub.Issue) (r : Repo) (description : String) : Fields :=
  let s := p.settings
  Fields.set [
    ("project", .obj [("key", .str r.project)]),
    ("issuetype", named r.issueType),
    ("summary", .str i.title),
    ("description", .str description),
    ("components", allNamed r.components),
    ("fixVersions", allNamed ((s.fixVersions.lookup r.project).getD [])),
    ("versions", allNamed ((s.affectsVersions.lookup r.project).getD [])),
    ("labels", .ofStrings [githubLabel])] (customField p.fieldIds.githubId) (.int i.id)

def withAssignee (fs : Fields) (user : Option String) : Fields :=
  match user.getD "" with
  | "" => fs
  | user => fs.set "assignee" (named user)

/-- Adds the address of the source's issue, if the project is to carry it. -/
def withUrl (p : Projector) (i : GitHub.Issue) (r : Repo) (fs : Fields) : Logged Fields :=
  if p.settings.urlProjects.contains r.project then
    match p.fieldIds.githubUrl.getD "" with
    | "" => do
      Logged.warn ("Project " ++ r.project ++ " should carry the GitHub URL but the field is missing")
      return fs
    | id => return fs.set (customField id) (.str i.url)
  else return fs

/-- All fields of a new issue. -/
def newFields (p : Projector) (i : GitHub.Issue) (r : Repo) : Logged Fields := do
  let fs := p.baseFields i r (← p.description i)
  let user ← p.assignee? i.assigneeLogin
  p.withUrl i r (withAssignee fs user)

/-- The fields that are computed anew whenever the source's issue changes. -/
def updatedFields (p : Projector) (i : GitHub.Issue) : Logged Fields := do
  return [("summary", .str i.title), ("description", .str (← p.description i))]

end Projector

end IssueBridge
