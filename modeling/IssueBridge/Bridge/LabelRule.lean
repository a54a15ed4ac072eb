import IssueBridge.Bridge.Basic

/-! # Label rules

A rule maps labels of the source to one field of the tracker. Where the field has its value already,
nothing is sent. The rules are independent of each other: the failure of one does not stop the next.
-/

namespace IssueBridge

open Tracker

/-- The value is a given text. -/
def Value.isText (v : Value) (s : String) : Bool :=
  match v with
  | .str t => t = s
  | _ => false

structure LabelRule where
  name : String := "label-rule"
  /-- Brings the ticket into the state of the label; true if an update was sent. -/
  apply : TicketRef → Repo → String → Step Bool := fun _ _ _ => throw .notImplemented
  /-- Takes the effect of the label back; true if an update was sent. -/
  reset : TicketRef → Repo → String → Step Bool := fun _ _ _ => throw .notImplemented
  /-- The fields to set right after creation, if a label is mapped. -/
  creationFields : Repo → List String → Except Failure (Option Fields) :=
    fun _ _ => .error .notImplemented
  /-- The fields that a pass sets, if any. -/
  reconcileFields : Ticket → Repo → List String → Except Failure (Option Fields) :=
    fun _ _ _ => .error .notImplemented

namespace LabelRule

/-- What labels are mapped to, in order; unmapped labels are left out. -/
def mapped (table : Table String) (labels : List String) : List String :=
  labels.filterMap (List.lookup · table)

/-- Sends an update. -/
def send (r : TicketRef) (fs : Fields) : Step Bool := do
  Tracker.update r fs
  return true

def typeFields (type : String) : Fields := [("issuetype", named type)]

def componentFields (names : List Value) : Fields :=
  [("components", .arr (names.map fun n => .obj [("name", n)]))]

/-- A label gives the issue type; without it the type is the repository's default. -/
def issueType : LabelRule where
  name := "issuetype-by-label"
  apply r repo label := do
    match repo.issueTypeOf.lookup label with
    | none => return false
    | some type => if (← Bridge.view r).issueType.isText type then return false else send r (typeFields type)
  reset r repo label := do
    match repo.issueTypeOf.lookup label with
    | none => return false
    | some type =>
      if (← Bridge.view r).issueType.isText type then send r (typeFields repo.issueType) else return false
  creationFields repo labels := .ok ((mapped repo.issueTypeOf labels).head?.map typeFields)
  reconcileFields t repo labels :=
    match mapped repo.issueTypeOf labels with
    | [] => .ok (some (typeFields repo.issueType))
    | first :: rest =>
      .ok (if (first :: rest).any t.issueType.isText then none else some (typeFields first))

/-- What stands in for the last component. -/
def fallbackComponent : String := "general"

/-- The components without one, never none at all. -/
def remaining (components : List Value) (name : String) : List Value :=
  match components.filter fun c => !c.isText name with
  | [] => [.str fallbackComponent]
  | rest => rest

/-- A label gives a component; without it the component is removed. -/
def component : LabelRule where
  name := "component-by-label"
  apply r repo label := do
    match repo.componentOf.lookup label with
    | none => return false
    | some name =>
      if (← Bridge.view r).components.any (·.isText name) then return false
      else send r (componentFields [.str name])
  reset r repo label := do
    match repo.componentOf.lookup label with
    | none => return false
    | some name =>
      let components := (← Bridge.view r).components
      if components.any (·.isText name) then send r (componentFields (remaining components name))
      else return false
  creationFields repo labels :=
    match mapped repo.componentOf labels with
    | [] => .ok none
    | names => .ok (some (componentFields (names.map .str)))
  reconcileFields _ repo labels :=
    let names := match mapped repo.componentOf labels with
      | [] => repo.components
      | names => names
    .ok (some (componentFields (names.map .str)))

/-- The rules that the bridge uses. -/
def all : List LabelRule := [issueType, component]

theorem mem_all_iff {rule : LabelRule} : rule ∈ all ↔ rule = issueType ∨ rule = component := by
  simp [all]

/-- Runs a step for each rule, and collects the failures with the names of their rules. -/
def failures (step : LabelRule → Step Unit) : List LabelRule → Step (List (String × Failure))
  | [] => return []
  | rule :: rest => do
    match ← Step.observe (step rule) with
    | .ok () => failures step rest
    | .error f => do
      Step.error ("error when running " ++ rule.name ++ ": " ++ f.message)
      return (rule.name, f) :: (← failures step rest)

/-- Runs a step for each rule; if any failed, all failures are raised together at the end. -/
def runAll (rules : List LabelRule) (step : LabelRule → Step Unit) : Step Unit := do
  match ← failures step rules with
  | [] => return ()
  | fs => throw (.labelRules fs)

end LabelRule

end IssueBridge
