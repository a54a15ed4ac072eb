import IssueBridge.Record.Problem
import IssueBridge.Value.Basic

/-! # Forms

A form says how a value is read. Reading goes through all parts of a value, so that all problems are
found, in the order of the parts.
-/

namespace IssueBridge.Record

/-- What a value was read as, or all that is wrong with it. -/
inductive Reading (α : Type)
  | good (a : α)
  | bad (problems : List Problem)
  deriving Repr

namespace Reading

variable {α β : Type}

def map (f : α → β) : Reading α → Reading β
  | .good a => .good (f a)
  | .bad ps => .bad ps

/-- Both are read; the problems of the first come first. -/
def seq (f : Reading (α → β)) (x : Unit → Reading α) : Reading β :=
  match f, x () with
  | .good f, .good a => .good (f a)
  | .good _, .bad ps => .bad ps
  | .bad ps, .good _ => .bad ps
  | .bad ps, .bad qs => .bad (ps ++ qs)

instance : Applicative Reading where
  pure := .good
  map := map
  seq := seq

def fail (d : Defect) : Reading α := .bad [⟨d, []⟩]

def under (place : Place) : Reading α → Reading α
  | .good a => .good a
  | .bad ps => .bad (ps.map (·.under place))

end Reading

abbrev Form (α : Type) := Value → Reading α

namespace Form

variable {α : Type}

def text : Form String
  | .str s => .good s
  | .brokenText _ => .fail .brokenText
  | _ => .fail .notText

/-- Null, or a value of the form. -/
def optional (f : Form α) : Form (Option α)
  | .null => .good none
  | v => (f v).map some

def items (f : Form α) (index : Nat) : List Value → Reading (List α)
  | [] => .good []
  | v :: rest => List.cons <$> (f v).under (.item index) <*> items f (index + 1) rest

def list (f : Form α) : Form (List α)
  | .arr vs => items f 0 vs
  | _ => .fail .notList

def members (f : Form α) : Fields → Reading (List (String × α))
  | [] => .good []
  | (n, v) :: rest =>
    List.cons <$> ((f v).map (n, ·)).under (.field n) <*> members f rest

/-- Puts an entry: in place of the old one of its name, or at the end. -/
def put (n : String) (a : α) : List (String × α) → List (String × α)
  | [] => [(n, a)]
  | (m, b) :: rest => if m = n then (m, a) :: rest else (m, b) :: put n a rest

/-- An object all of whose members are of the form, also those that later ones of their name replace. -/
def table (f : Form α) : Form (List (String × α))
  | .obj fs => (members f fs).map fun entries => entries.foldl (fun done p => put p.1 p.2 done) []
  | _ => .fail .notMap

/-- Any object. -/
def object : Form Fields
  | .obj fs => .good (Fields.unique (Value.settledFields fs))
  | _ => .fail .notMap

/-- An object with fixed members, read from the last member of each name. -/
def record (f : Fields → Reading α) : Form α
  | .obj fs => f (Fields.unique fs)
  | _ => .fail .notRecord

end Form

/-- A member that has to be there. -/
def required {α : Type} (fs : Fields) (name : String) (f : Form α) : Reading α :=
  match fs.get? name with
  | some v => (f v).under (.field name)
  | none => .bad [⟨.missing, [.field name]⟩]

/-- A member that may be left out. -/
def optionalMember {α : Type} (fs : Fields) (name : String) (f : Form α) (default : α) : Reading α :=
  match fs.get? name with
  | some v => (f v).under (.field name)
  | none => .good default

end IssueBridge.Record
