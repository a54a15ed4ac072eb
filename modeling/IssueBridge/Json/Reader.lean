import IssueBridge.Json.Token

/-! # Reading JSON

The tokens drive a machine with one frame for each container that is still open. All members of an
object are kept, also those of one name. Containers may be nested up to a limit.
-/

namespace IssueBridge.Json

/-- A container that is still open: its parts so far, the last one first. -/
inductive Frame
  | array (items : List Value)
  | object (members : Fields) (name : String)

/-- What the text may go on with. -/
inductive Expect
  | value
  | valueOrClose
  | nameOrClose
  | name
  | colon
  | commaOrClose
  | nothing

structure Machine where
  frames : List Frame := []
  expect : Expect := .value
  result : Option Value := none

/-- Why a text cannot be read. -/
inductive Fault
  | malformed
  /-- The container that was to be opened, an object or an array, lies too deep. -/
  | tooDeep (object : Bool)
  deriving DecidableEq, Repr

namespace Machine

/-- A value is complete: it goes into the innermost open container. -/
def put (m : Machine) (v : Value) : Machine :=
  match m.frames with
  | [] => ⟨[], .nothing, some v⟩
  | .array items :: rest => ⟨.array (v :: items) :: rest, .commaOrClose, none⟩
  | .object fs n :: rest => ⟨.object ((n, v) :: fs) n :: rest, .commaOrClose, none⟩

def push (m : Machine) (f : Frame) (next : Expect) : Machine := ⟨f :: m.frames, next, none⟩

def close (m : Machine) (t : Token) : Except Fault Machine :=
  match t, m.frames with
  | .closeArray, .array items :: rest => .ok ({ m with frames := rest }.put (.arr items.reverse))
  | .closeObject, .object fs _ :: rest => .ok ({ m with frames := rest }.put (.obj fs.reverse))
  | _, _ => .error .malformed

def openValue (m : Machine) (depth : Nat) (t : Token) : Except Fault Machine :=
  let opened := match t with
    | .scalar v => some (m.put v, false)
    | .openArray => some (m.push (.array []) .valueOrClose, false)
    | .openObject => some (m.push (.object [] "") .nameOrClose, true)
    | _ => none
  match opened with
  | none => .error .malformed
  | some (next, object) =>
    if m.frames.length ≤ depth then .ok next else .error (.tooDeep object)

/-- A member's name was read. -/
def rename (m : Machine) (n : String) : Except Fault Machine :=
  match m.frames with
  | .object fs _ :: rest => .ok ⟨.object fs n :: rest, .colon, none⟩
  | _ => .error .malformed

def readName (m : Machine) : Token → Except Fault Machine
  | .scalar (.str n) => m.rename n
  | .scalar (.brokenText n) => m.rename n
  | _ => .error .malformed

def afterComma (m : Machine) : Except Fault Machine :=
  match m.frames with
  | .array _ :: _ => .ok { m with expect := .value }
  | .object .. :: _ => .ok { m with expect := .name }
  | [] => .error .malformed

def step (depth : Nat) (m : Machine) (t : Token) : Except Fault Machine :=
  match m.expect, t with
  | .value, t => m.openValue depth t
  | .valueOrClose, .closeArray => m.close .closeArray
  | .valueOrClose, t => m.openValue depth t
  | .nameOrClose, .closeObject => m.close .closeObject
  | .nameOrClose, t => m.readName t
  | .name, t => m.readName t
  | .colon, .colon => .ok { m with expect := .value }
  | .commaOrClose, .comma => m.afterComma
  | .commaOrClose, t => m.close t
  | _, _ => .error .malformed

end Machine

/-- The value that the whole text stands for. -/
def read (rules : Rules) (cs : List Char) : Except Fault Value := do
  let m ← (tokens rules cs).foldlM (Machine.step rules.depth) {}
  match m.result with
  | some v => .ok v
  | none => .error .malformed

/-- The rules under which deliveries are read. -/
def deliveryRules : Rules := ⟨200, Text.maxDigits, true, false⟩

end IssueBridge.Json
