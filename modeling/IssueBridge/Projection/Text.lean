import IssueBridge.GitHub.Basic
import IssueBridge.Projection.Converter
import IssueBridge.Time.Zone

/-! # Descriptions and comments

A description is the converted text followed by its attribution. A comment starts with its attribution,
which carries the source's id.
-/

namespace IssueBridge

open Time

/-- The numbers of the custom fields that tie an issue of the tracker to its source. -/
structure FieldIds where
  githubId : String
  githubUrl : Option String := none

/-- All that a projection depends on. -/
structure Projector where
  settings : Settings
  fieldIds : FieldIds
  zone : Zone
  programs : Programs

namespace Projector

/-- What the clocks of a zone show at a moment. A moment without an offset needs the day before it to
be in the calendar. -/
def localTime (zone : Zone) (t : Timestamp) : Except Failure Wall :=
  if t.offset.isNone ∧ t.wall.micros < microsPerDay then .error .yearZero
  else
    match t.universal?.bind zone.localTime? with
    | some w => .ok w
    | none => .error .dateOutOfRange

/-- Like `15:04 PM, January 2 2006`. -/
def timeText (w : Wall) : String :=
  let d := w.date
  Number.padded 2 w.hour ++ ":" ++ Number.padded 2 w.minute ++ (if w.hour < 12 then " AM, " else " PM, ") ++
    monthName d.month ++ " " ++ toString d.day ++ " " ++ toString d.year

def formatTime (p : Projector) : Option Timestamp → Except Failure String
  | none => .ok ""
  | some t => (localTime p.zone t).map timeText

/-- The time in an attribution. -/
def stamp (p : Projector) : Option Timestamp → Except Failure String
  | none => .ok ""
  | some t => (p.formatTime (some t)).map (" at " ++ ·)

def userText : Option GitHub.User → String
  | none => "from GitHub user [unknown|]"
  | some u =>
    "from GitHub user [" ++ u.login ++ "|" ++ u.url ++ "]" ++
      (match u.name.getD "" with
        | "" => ""
        | name => " (" ++ name ++ ")")

def rule : String := "\n----\n"

/-- Converts a text; a failure of the converter is logged. -/
def converted (p : Projector) (text : String) : Logged Projection.Conversion := do
  let c ← Logged.ofExcept (Projection.convert p.programs p.settings text)
  if let some fault := c.fault then
    Logged.error ("Markdown converter failed, using raw text: " ++ fault.message)
  return c

/-- The end of a description. -/
def issueAttribution (i : GitHub.Issue) (stamp : String) : String :=
  "Create issue [(#" ++ toString i.number ++ ")|" ++ i.url ++ "] " ++ userText i.user ++ stamp

def description (p : Projector) (i : GitHub.Issue) : Logged String := do
  let c ← p.converted (i.body.getD "")
  if c.fault.isSome then
    Logged.warn ("Description of " ++ i.url ++ " synced without markup conversion")
  let stamp ← Logged.ofExcept (p.stamp i.createdAt)
  return c.text ++ "\n" ++ rule ++ "\n" ++ issueAttribution i stamp

/-- The start of a comment. -/
def commentAttribution (c : GitHub.Comment) (stamp : String) : String :=
  "Comment [(ID " ++ toString c.id ++ ")|" ++ c.url ++ "] " ++ userText c.user ++ stamp

def commentBody (p : Projector) (c : GitHub.Comment) : Logged String := do
  let text ← p.converted (c.body.getD "")
  if text.fault.isSome then
    Logged.warn ("Comment " ++ c.url ++ " synced without markup conversion")
  let stamp ← Logged.ofExcept (p.stamp c.createdAt)
  return commentAttribution c stamp ++ "\n" ++ rule ++ "\n" ++ text.text ++ "\n"

end Projector

end IssueBridge
