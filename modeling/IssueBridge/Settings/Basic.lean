import IssueBridge.Failure
import IssueBridge.Text.Case

/-! # Settings

Which repositories are bridged to which projects, how the two trackers are reached, and how texts are
rendered.
-/

namespace IssueBridge

/-- A table from texts, in the order in which it was given. -/
abbrev Table (α : Type) := List (String × α)

/-- Binds one repository to one project of the tracker. -/
structure Repo where
  owner : String := ""
  project : String := ""
  issueType : String := ""
  /-- The components of a new issue. -/
  components : List String := []
  issueTypeOf : Table String := []
  componentOf : Table String := []
  /-- The steps of each named transition, in order. -/
  transitions : Table (List String) := []

structure Settings where
  databaseUrl : String := "sqlite:///./issuesync.db"
  host : String := "0.0.0.0"
  port : Int := 8080
  logLevel : String := "INFO"
  githubToken : Option String := none
  githubUrl : String := "https://api.github.com"
  /-- When it is set and not empty, deliveries have to be signed with it. -/
  webhookSecret : Option String := none
  jiraUrl : String := ""
  jiraUser : String := ""
  jiraPassword : String := ""
  presync : Bool := true
  useWatermark : Bool := false
  /-- Without a positive interval only the first pass is run. -/
  intervalMinutes : Int := 0
  maxWorkers : Int := 32
  waitAttempts : Int := 5
  waitBaseDelay : Float := 1.0
  converterCommand : Option String := none
  converterTimeout : Float := 30.0
  timeZone : String := "Asia/Shanghai"
  repos : Table Repo := []
  fixVersions : Table (List String) := []
  affectsVersions : Table (List String) := []
  assigneeOf : Table String := []
  /-- The projects whose issues carry the address of the source's issue. -/
  urlProjects : List String := []

namespace Settings

/-- The tracker cannot be reached without an address, a user and a password. -/
def requireTracker (s : Settings) : Except Failure Unit :=
  if s.jiraUrl = "" then .error (.refused "JIRA base URL should be given")
  else if s.jiraUser = "" then .error (.refused "JIRA username should be given")
  else if s.jiraPassword = "" then .error (.refused "JIRA password should be given")
  else .ok ()

/-- The levels, and two more names of the log that are spelled like levels. -/
def logNames : List String := [
  "CRITICAL", "FATAL", "ERROR", "WARN", "WARNING", "INFO", "DEBUG", "NOTSET", "BASIC_FORMAT", "_STYLES"]

/-- The level of the log is named in any letter case. -/
def requireLogLevel (s : Settings) : Except Failure Unit :=
  if logNames.contains (Text.upper s.logLevel) then .ok ()
  else .error .unknownLogLevel

end Settings

end IssueBridge
