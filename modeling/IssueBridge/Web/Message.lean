import IssueBridge.Value.Basic
import IssueBridge.Text.Case
import IssueBridge.Text.Blank
import IssueBridge.Web.Query

/-! # Requests and responses -/

namespace IssueBridge.Web

structure Request where
  /-- The method, in capital letters. -/
  method : String
  target : Target
  headers : List (String × String) := []
  body : ByteArray := .empty

/-- The value of a header; its name is written in any letter case. -/
def Request.header? (r : Request) (name : String) : Option String :=
  (r.headers.find? fun h => Text.lower h.1 = Text.lower name).map (·.2)

inductive Content
  | none
  | text (s : String)
  | json (v : Value)

structure Response where
  status : Nat
  content : Content

def Content.type : Content → String
  | .none => ""
  | .text _ => "text/plain; charset=utf-8"
  | .json _ => "application/json"

namespace Response

/-- What is sent in answer to a method; a request for the headers alone gets nothing else. -/
def body (r : Response) (method : String) : Value :=
  if method = "HEAD" then .str ""
  else
    match r.content with
    | .none => .str ""
    | .text s => .str s
    | .json v => v

def text (status : Nat) (s : String) : Response := ⟨status, .text s⟩

def json (status : Nat) (v : Value) : Response := ⟨status, .json v⟩

/-- A refusal with its reason. -/
def detail (status : Nat) (reason : String) : Response :=
  json status (.obj [("detail", .str reason)])

def notFound : Response := detail 404 "Not Found"

def methodNotAllowed : Response := detail 405 "Method Not Allowed"

def notReady : Response := detail 503 "Service not ready"

def crash : Response := text 500 "Internal Server Error"

/-- The address is to be asked for elsewhere. -/
def redirect : Response := ⟨307, .none⟩

end Response

end IssueBridge.Web
