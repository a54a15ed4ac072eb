import IssueBridge.Json.Writer
import IssueBridge.Record.Problem
import IssueBridge.Text.Utf8
import IssueBridge.Value.Shown

/-! # Failures

A failure is the cause for which an operation gave no result. Its message stands in log lines and in
the answers of the web interface.
-/

namespace IssueBridge

/-- What is shown of a request or of an answer to it, as far as it has that. -/
structure Exposed where
  headers : Option String := none
  text : Option String := none

/-- Where a refusal has its details: behind a line of their own, right behind the text, or in a file. -/
inductive RefusalForm
  | usual
  | compact
  | filed (name : String)
  deriving DecidableEq, Repr

/-- A refusal of the issue tracker. Of one that stands for an answer, the answer is shown as well. -/
structure TrackerRefusal where
  text : String
  status : Value
  url : String
  request : Exposed := {}
  response : Exposed := {}
  form : RefusalForm := .usual

/-- A refusal of the source of the issues. -/
structure SourceRefusal where
  text : String
  status : Value
  data : Value

inductive Failure
  /-- No issue of the project carries the source's id. -/
  | issueNotFound (project : String) (id : Int)
  /-- Several issues of the project carry the source's id. -/
  | ambiguous (project : String) (id : Int) (keys : List String)
  /-- Among the keys that a message lists, the one at a place is null. -/
  | nullKey (index : Nat)
  /-- No comment on the issue carries the source's id. -/
  | commentNotFound (issue : String) (id : Int)
  | unsupportedEvent (kind : String)
  /-- Some label rules failed; all were attempted. -/
  | labelRules (failures : List (String × Failure))
  | tracker (refusal : TrackerRefusal)
  | source (refusal : SourceRefusal)
  | connection (text : String)
  /-- The program refused to go on. -/
  | refused (text : String)
  | invalidRecord (model : String) (problems : List Record.Problem)
  /-- A whole number was to be read from too many digits. -/
  | digitLimit (digits : Nat)
  | notNumber
  | notNumeric
  | infinite
  /-- A point in time outside the calendar. -/
  | dateOutOfRange
  | yearZero
  /-- A factor too large for a floating point number. -/
  | factorTooLarge
  /-- A whole number that a table cannot hold. -/
  | columnOverflow
  | unclosedQuote
  | danglingEscape
  | emptyCommand
  /-- A word of a command holds a null character. -/
  | nullCharacter
  /-- No program can be waited for so long. -/
  | timeLimit
  | undecodable (fault : Text.Utf8.Fault)
  | malformedZone
  | unknownZone
  /-- The name of a time zone is that of a directory of zones. -/
  | zoneDirectory
  | zoneNameTooLong
  | unknownLogLevel
  | configSyntax
  /-- A structured setting is given by a text that is no JSON. -/
  | unreadableSetting (name layer : String)
  /-- A structured setting is nested too deep; the innermost part is an object or an array. -/
  | nestedSetting (object : Bool)
  /-- The configuration file is nested too deep. -/
  | nestedConfig
  /-- A part was asked of an issue or a comment that does not have it. -/
  | missingPart
  | notImplemented
  | schedulerRunning

namespace TrackerRefusal

/-- A part of the details on a line of its own. -/
def detail (name : String) : Option String → String
  | none => ""
  | some shown => "\n\t" ++ name ++ " = " ++ shown

def details (r : TrackerRefusal) : String :=
  detail "request headers" r.request.headers ++ detail "request text" r.request.text ++
    detail "response headers" r.response.headers ++ detail "response text" r.response.text

/-- The first line of a message. -/
def heading (r : TrackerRefusal) : String :=
  "JiraError HTTP " ++ r.status.text ++ (if r.url = "" then "" else " url: " ++ r.url)

def textLines (r : TrackerRefusal) : String := if r.text = "" then "" else "\n\ttext: " ++ r.text

def message (r : TrackerRefusal) : String :=
  match r.form with
  | .usual => r.heading ++ r.textLines ++ "\n\t" ++ r.details
  | .compact => r.heading ++ r.textLines ++ r.details
  | .filed name => r.heading ++ " details: " ++ name

end TrackerRefusal

namespace SourceRefusal

def message (r : SourceRefusal) : String :=
  (if r.text = "" then r.status.text else r.text ++ ": " ++ r.status.text) ++
    (match r.data with
      | .null => ""
      | data => " " ++ Json.written data)

end SourceRefusal

namespace Text.Utf8.Fault

def message : Fault → String
  | .startByte b i => s!"'utf-8' codec can't decode byte 0x{hex b} in position {i}: invalid start byte"
  | .continuation b i n =>
    s!"'utf-8' codec can't decode {byteText b i n}: invalid continuation byte"
  | .truncated b i n => s!"'utf-8' codec can't decode {byteText b i n}: unexpected end of data"
where
  hex (b : UInt8) : String := String.ofList (hexDigits 2 b.toNat)
  byteText (b : UInt8) (i n : Nat) : String :=
    if n = 1 then s!"byte 0x{hex b} in position {i}" else s!"bytes in position {i}-{i + n - 1}"

end Text.Utf8.Fault

namespace Failure

/-- The tracker refused. -/
def isTrackers : Failure → Bool
  | .tracker _ => true
  | _ => false

/-- The source refused. -/
def isSources : Failure → Bool
  | .source _ => true
  | _ => false

/-- The first line of the report on an invalid record. -/
def recordReport (model : String) (problems : List Record.Problem) : String :=
  s!"{problems.length} validation error{plural} for {model}"
where
  plural : String := if problems.length = 1 then "" else "s"

mutual

def message : Failure → String
  | .issueNotFound project id => s!"Issue not exists: project={project} github_id={id}"
  | .ambiguous project id keys =>
    let joined := ", ".intercalate keys
    s!"{keys.length} JIRA issues in {project} carry GitHub ID {id}: {joined}"
  | .nullKey index => s!"sequence item {index}: expected str instance, NoneType found"
  | .commentNotFound issue id =>
    s!"Corresponded JIRA comment not exists: issue={issue} github_comment_id={id}"
  | .unsupportedEvent kind => s!"Unsupported type: {kind}"
  | .labelRules failures =>
    let joined := ", ".intercalate (namedMessages failures)
    s!"label rules failed ({joined})"
  | .tracker r => r.message
  | .source r => r.message
  | .connection text => text
  | .refused text => text
  | .invalidRecord model problems => recordReport model problems
  | .digitLimit n =>
    s!"Exceeds the limit (4300 digits) for integer string conversion: value has {n} digits; use sys.set_int_max_str_digits() to increase the limit"
  | .notNumber => "cannot convert float NaN to integer"
  | .notNumeric => "not numeric"
  | .infinite => "cannot convert float infinity to integer"
  | .dateOutOfRange => "date value out of range"
  | .yearZero => "year 0 is out of range"
  | .factorTooLarge => "int too large to convert to float"
  | .columnOverflow => "Python int too large to convert to SQLite INTEGER"
  | .unclosedQuote => "No closing quotation"
  | .danglingEscape => "No escaped character"
  | .emptyCommand => "list index out of range"
  | .nullCharacter => "embedded null byte"
  | .timeLimit => "timeout is too large"
  | .undecodable fault => fault.message
  | .malformedZone => "malformed time zone name"
  | .unknownZone => "unknown time zone"
  | .zoneDirectory => "directory of time zones"
  | .zoneNameTooLong => "time zone name too long"
  | .unknownLogLevel => "unknown log level"
  | .configSyntax => "malformed configuration file"
  | .unreadableSetting name layer =>
    "error parsing value for field \"" ++ name ++ "\" from source \"" ++ layer ++ "\""
  | .nestedSetting object =>
    let kind := if object then "object" else "array"
    s!"maximum recursion depth exceeded while decoding a JSON {kind} from a unicode string"
  | .nestedConfig => "maximum recursion depth exceeded"
  | .missingPart => "missing part"
  | .notImplemented => ""
  | .schedulerRunning => "Scheduler is already running"

def namedMessages : List (String × Failure) → List String
  | [] => []
  | (name, f) :: rest => (name ++ ": " ++ message f) :: namedMessages rest

end

end Failure

end IssueBridge
