import IssueBridge.Bridge.Dispatch
import IssueBridge.Bridge.Schedule

/-! # Building a bridge

Both trackers are opened, the custom fields are looked up, and the time zone has to be known. Any book of zones
may be given.
-/

namespace IssueBridge

def zoneNamed (zones : Time.ZoneBook) (name : String) : Except Failure Time.Zone :=
  match zones name with
  | .ok z => .ok z
  | .error .malformed => .error .malformedZone
  | .error .unknown => .error .unknownZone
  | .error .directory => .error .zoneDirectory
  | .error .tooLong => .error .zoneNameTooLong

/-- A projector for known custom fields. -/
def Projector.build (s : Settings) (fieldIds : FieldIds) (programs : Programs)
    (zones : Time.ZoneBook := Time.Zone.named) : Except Failure Projector :=
  (zoneNamed zones s.timeZone).map fun zone => { settings := s, fieldIds, zone, programs }

namespace Bridge

/-- An empty token counts as none. -/
def tokenGiven (s : Settings) : Option String := s.githubToken.filter (· ≠ "")

def build (s : Settings) (programs : Programs) (journaling : Bool)
    (zones : Time.ZoneBook := Time.Zone.named) : Step Bridge := do
  Step.ofExcept s.requireTracker
  let _ ← Step.place (.openSource (tokenGiven s) s.githubUrl)
  let _ ← Step.place (.openTracker s.jiraUrl s.jiraUser s.jiraPassword)
  let fieldIds ← Tracker.fieldIds
  let p ← Step.ofExcept (Projector.build s fieldIds programs zones)
  return { p with journaling }

/-- The first pass, if the settings ask for one; its failure ends in the log. -/
def firstPass (b : Bridge) : Step Unit := do
  if b.settings.presync then
    if let .error f ← Step.observe (Schedule.presync b) then
      Step.error ("presync failed: " ++ f.message)
  else Step.info "bypass presync"

/-- Builds the bridge and gets it ready for deliveries. -/
def startUp (s : Settings) (programs : Programs) (journaling : Bool)
    (zones : Time.ZoneBook := Time.Zone.named) : Step Bridge := do
  Step.info "Starting GitHub to Jira Issue Sync Service"
  let b ← build s programs journaling zones
  b.firstPass
  Schedule.start s.intervalMinutes
  Step.info s!"Listening for GitHub webhooks on {s.host}:{s.port}"
  return b

def shutDown : Step Unit := do
  Step.info "Stopping GitHub to Jira Issue Sync Service"
  Schedule.stop

end Bridge

end IssueBridge
