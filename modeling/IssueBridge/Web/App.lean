import IssueBridge.Bridge.Build
import IssueBridge.Digest.Signature
import IssueBridge.Web.Address

/-! # The web interface

Deliveries are acknowledged before they are handled, so the sender learns nothing of what becomes of
them. With a secret the guard stops unsigned deliveries, as far as the full address shows their path.
-/

namespace IssueBridge.Web

def signatureHeader : String := "X-Hub-Signature-256"

def eventHeader : String := "X-GitHub-Event"

def deliveryHeader : String := "X-GitHub-Delivery"

/-- The addresses at which deliveries arrive. -/
def deliveryPaths : List String := ["/", "/webhook"]

inductive Route
  | root
  | webhook
  | health
  | trigger
  | logs
  | watermark
  deriving DecidableEq, Repr

/-- The route of a path, which may end with one line end. -/
def Route.ofPath? (path : String) : Option Route :=
  let path := if path.endsWith "\n" then String.ofList path.toList.dropLast else path
  [("/", .root), ("/webhook", .webhook), ("/health", .health), ("/api/sync/trigger", .trigger),
    ("/api/sync/logs", .logs), ("/api/sync/watermark", .watermark)].lookup path

/-- The path with or without a slash at its end. -/
def withOtherEnd (path : String) : String :=
  if path.endsWith "/" then String.ofList (path.toList.reverse.dropWhile (· = '/')).reverse
  else path ++ "/"

def deliveryMethods : List String := ["POST", "PUT", "PATCH", "DELETE"]

/-- The signature is that of the body. -/
def isSigned (secret : String) (signature : List UInt8) (body : ByteArray) : Bool :=
  signature == Digest.hmac secret.toUTF8.toList body.toList

/-- Refuses a delivery that is not signed with the secret. A post whose address cannot be read ends in a crash. -/
def guarded (secret : String) (r : Request) (next : Step Response) : Step Response :=
  if r.method ≠ "POST" then next
  else
    match r.shownPath? with
    | none => return .crash
    | some path =>
      if !deliveryPaths.contains path then next
      else
        match Digest.readSignature ((r.header? signatureHeader).getD "") with
        | none => do
          Step.warn ("missing or malformed " ++ signatureHeader ++ " on " ++ path)
          return .text 401 "Invalid signature"
        | some signature =>
          if isSigned secret signature r.body then next
          else do
            Step.warn ("signature mismatch on " ++ path)
            return .text 401 "Invalid signature"

/-- The kind of content, without its parameters. -/
def contentKind (r : Request) : String :=
  let value := (r.header? "content-type").getD ""
  Text.lower (String.ofList (Text.trim (value.toList.takeWhile (· ≠ ';'))))

/-- A delivery that is worth handling: the kind of its event and its own name. -/
def readDelivery (r : Request) : Except Response (String × String) :=
  if r.method ≠ "POST" then .error (.text 405 "405 Method not allowed")
  else
    match (r.header? eventHeader).getD "", (r.header? deliveryHeader).getD "" with
    | "", _ => .error (.text 400 ("400 Bad Request - Missing " ++ eventHeader ++ " Header"))
    | _, "" => .error (.text 400 ("400 Bad Request - Missing " ++ deliveryHeader ++ " Header"))
    | kind, delivery =>
      if contentKind r = "application/json" then .ok (kind, delivery)
      else .error (.text 400
        "400 Bad Request - Unexpected Content-Type (expected application/json)")

/-- What handles a delivery: given are the kind of its event, its own name and its body. -/
abbrev Handling := Bridge → String → String → ByteArray → Step Unit

/-- Acknowledges a delivery and handles it. -/
def receive (process : Handling) (b : Bridge) (r : Request) : Step Response := do
  match readDelivery r with
  | .error response => return response
  | .ok (kind, delivery) => do
    process b kind delivery r.body
    return .text 200 "Event received. Have a nice day."

def rowValue (r : JournalRow) : Value :=
  let e := r.entry
  .obj [("id", .int r.id), ("repository", .str e.repository),
    ("issue_number", (e.issue.map Value.int).getD .null),
    ("action", (e.action.map Value.str).getD .null),
    ("status", .str e.status.name), ("source", .str e.origin.name), ("message", .str e.message),
    ("created_at", .str r.createdAt.text)]

/-- The latest row comes first. -/
def laterFirst (a b : JournalRow) : Bool := b.createdAt.micros ≤ a.createdAt.micros

/-- The rows, the latest first, perhaps of one repository only. Of rows of one time the last one written
comes first, or the first one where only one repository is asked for. -/
def sortedRows (repository : String) (rows : List JournalRow) : List JournalRow :=
  if repository = "" then rows.reverse.mergeSort laterFirst
  else (rows.filter (·.entry.repository = repository)).mergeSort laterFirst

/-- The first rows; a negative limit is none. -/
def limitRows (limit : Int) (rows : List JournalRow) : List JournalRow :=
  if limit < 0 then rows else rows.take limit.toNat

/-- The limit that a request gives. -/
def readLimit (t : Target) : Record.Reading Int :=
  match t.parameter? "limit" with
  | none => .good 100
  | some s => ((Record.Form.whole (.str s)).under (.field "limit")).under (.field "query")

def placeValue : Record.Place → Value
  | .field name => .str name
  | .item index => .int index

def problemValue (p : Record.Problem) : Value :=
  .obj [("type", .str p.defect.code), ("loc", .arr (p.path.map placeValue))]

/-- The journal, perhaps of one repository only. -/
def listRows (t : Target) : Step Response := do
  let _ ← Step.place .openSession
  match readLimit t with
  | .bad ps => return .json 422 (.arr (ps.map problemValue))
  | .good limit =>
    if !Record.Form.fits64 limit then throw .columnOverflow
    else
      let repository := (t.parameter? "repository").getD ""
      let rows := sortedRows repository (← get).tables.journal
      return .json 200 (.arr ((limitRows limit rows).map rowValue))

def showWatermark (b : Bridge) : Step Response := do
  let last ← match ← Watermark.read with
    | none => pure Value.null
    | some t => do pure (.str (← Step.ofExcept (Watermark.format t)))
  let since ← Watermark.since b.settings.useWatermark
  return .json 200 (.obj [
    ("enabled", .bool b.settings.useWatermark), ("last_sync_time", last),
    ("since", .str (← Step.ofExcept (Watermark.format since)))])

/-- Goes on if the bridge is there. -/
def ready (b : Option Bridge) (next : Bridge → Step Response) : Step Response :=
  match b with
  | some b => next b
  | none => return .notReady

def route (process : Handling) (b : Option Bridge) (r : Request) (target : Route) : Step Response :=
  let isMethod := fun m => r.method = m
  match target with
  | .root =>
    if isMethod "GET" then return .text 200 ""
    else if deliveryMethods.contains r.method then ready b (receive process · r)
    else return .methodNotAllowed
  | .webhook =>
    if deliveryMethods.contains r.method then ready b (receive process · r) else return .methodNotAllowed
  | .health =>
    if isMethod "GET" then
      return .json 200
        (.obj [("status", .str "healthy"), ("service", .str "GitHub Jira Issue Sync")])
    else return .methodNotAllowed
  | .trigger =>
    if isMethod "POST" then ready b fun b => do return .json 200 (← b.syncAll).report
    else return .methodNotAllowed
  | .logs => if isMethod "GET" then listRows r.target else return .methodNotAllowed
  | .watermark => if isMethod "GET" then ready b showWatermark else return .methodNotAllowed

def routed (process : Handling) (b : Option Bridge) (r : Request) : Step Response :=
  match Route.ofPath? r.target.path with
  | some target => route process b r target
  | none =>
    if (Route.ofPath? (withOtherEnd r.target.path)).isSome then return .redirect
    else return .notFound

/-- Answers with what a step comes to; a failure is answered too. -/
def answered (x : Step Response) : Step Response := do
  match ← Step.observe x with
  | .ok response => return response
  | .error _ => return .crash

/-- Answers a request, given what handles deliveries. -/
def respondWith (process : Handling) (s : Settings) (b : Option Bridge) (r : Request) :
    Step Response :=
  answered <|
    match s.webhookSecret.getD "" with
    | "" => routed process b r
    | secret => guarded secret r (routed process b r)

def respond (s : Settings) (b : Option Bridge) (r : Request) : Step Response :=
  respondWith Bridge.process s b r

end IssueBridge.Web
