import IssueBridge.Toml.Scalar

/-! # Documents

A document grows statement by statement. A table is opened once; a table or list given as one value
is closed, and so is a name that holds a value.
-/

namespace IssueBridge.Toml

abbrev Path := List String

structure Document where
  root : Fields := []
  /-- The tables that must not be opened again. -/
  opened : List Path := []
  /-- Nothing may be put at these places or below. -/
  closed : List Path := []
  /-- Tables made on the way by the statements since the last heading. -/
  pending : List Path := []
  heading : Path := []

/-- Changes the table at a path, making tables on the way; of a list of tables the last one counts. -/
def alterAt (throughLists : Bool) (change : Fields → Option Fields) (path : Path) (fs : Fields) :
    Option Fields :=
  match path with
  | [] => change fs
  | name :: rest =>
    match fs.get? name with
    | none => (alterAt throughLists change rest []).map fun inner => fs.set name (.obj inner)
    | some (.obj inner) =>
      (alterAt throughLists change rest inner).map fun inner => fs.set name (.obj inner)
    | some (.arr items) =>
      match throughLists, items.getLast? with
      | true, some (.obj inner) =>
        (alterAt throughLists change rest inner).map fun inner =>
          fs.set name (.arr (items.dropLast ++ [.obj inner]))
      | _, _ => none
    | some _ => none

/-- Puts a value where there is none. -/
def putNew (name : String) (v : Value) (fs : Fields) : Option Fields :=
  match fs.get? name with
  | none => some (fs.set name v)
  | some _ => none

/-- Adds an empty table to a list of tables. -/
def addItem (name : String) (fs : Fields) : Option Fields :=
  match fs.get? name with
  | none => some (fs.set name (.arr [.obj []]))
  | some (.arr items) => some (fs.set name (.arr (items ++ [.obj []])))
  | some _ => none

def isStructured : Value → Bool
  | .arr _ => true
  | .obj _ => true
  | _ => false

namespace Document

def isClosed (d : Document) (path : Path) : Bool := d.closed.any (·.isPrefixOf path)

def isOpened (d : Document) (path : Path) : Bool := d.opened.contains path || d.isClosed path

/-- A heading ends the statements before it. -/
def settle (d : Document) : Document :=
  { d with opened := d.pending ++ d.opened, pending := [] }

def openTable (d : Document) (path : Path) : Option Document := do
  let d := d.settle
  if d.isOpened path then none
  else
    let root ← alterAt true some path d.root
    return { d with root, opened := path :: d.opened, heading := path }

def openItem (d : Document) (path : Path) : Option Document := do
  let d := d.settle
  if d.isClosed path then none
  else
    let root ← alterAt true (addItem (path.getLastD "")) path.dropLast d.root
    let outside := fun p : Path => !path.isPrefixOf p
    return { d with
      root, opened := path :: d.opened.filter outside, closed := d.closed.filter outside, heading := path }

/-- The tables on the way to a name with several parts. -/
def onTheWay (heading name : Path) : List Path :=
  (List.range (name.length - 1)).map fun i => heading ++ name.take (i + 1)

def put (d : Document) (name : Path) (v : Value) : Option Document := do
  let way := onTheWay d.heading name
  if way.any (fun p => d.opened.contains p || d.isClosed p) then none
  else if d.isClosed (d.heading ++ name.dropLast) then none
  else
    let root ← alterAt true (putNew (name.getLastD "") v) (d.heading ++ name.dropLast) d.root
    let closed := if isStructured v then (d.heading ++ name) :: d.closed else d.closed
    return { d with root, closed, pending := way ++ d.pending }

end Document

/-- A table that is written as one value. -/
structure Inline where
  members : Fields := []
  closed : List Path := []

def Inline.put (t : Inline) (name : Path) (v : Value) : Option Inline := do
  if t.closed.any (·.isPrefixOf name) then none
  else
    let members ← alterAt false (putNew (name.getLastD "") v) name.dropLast t.members
    return ⟨members, if isStructured v then name :: t.closed else t.closed⟩

end IssueBridge.Toml
