import IssueBridge.Settings.Basic

/-! # Tallies

What a pass counted, and the errors that it met, in order.
-/

namespace IssueBridge

structure TallyError where
  repository : String
  issue : Option Int
  failure : Failure

/-- The counters of a pass that has not begun. -/
def freshCounts : Table Int :=
  [("repositories", 0), ("issues", 0), ("created", 0), ("updated", 0), ("errors", 0)]

structure Tally where
  counts : Table Int := freshCounts
  errors : List TallyError := []
  /-- Another pass was running. -/
  skipped : Bool := false

namespace Tally

/-- Adds to a counter; a new counter starts from zero. -/
def bump (key : String) (n : Int) : Table Int → Table Int
  | [] => [(key, n)]
  | (k, m) :: rest => if k = key then (k, m + n) :: rest else (k, m) :: bump key n rest

def count (t : Tally) (key : String) : Int := (t.counts.lookup key).getD 0

def add (t : Tally) (key : String) (n : Int) : Tally := { t with counts := bump key n t.counts }

def addError (t : Tally) (repository : String) (issue : Option Int) (f : Failure) : Tally :=
  { t with errors := t.errors ++ [⟨repository, issue, f⟩], counts := bump "errors" 1 t.counts }

def lastError? (t : Tally) : Option Failure := t.errors.getLast?.map (·.failure)

def errorsOf (t : Tally) (repository : String) : List TallyError :=
  t.errors.filter (·.repository = repository)

def countsValue (t : Tally) : Value := .obj (t.counts.map fun (k, n) => (k, .int n))

def errorValue (e : TallyError) : Value :=
  .obj [("repository", .str e.repository),
    ("issue_number", (e.issue.map Value.int).getD .null),
    ("error", .str e.failure.message)]

/-- The report on a pass. -/
def report (t : Tally) : Value :=
  if t.skipped then
    .obj [("status", .str "skipped"), ("message", .str "Reconciliation already running")]
  else
    .obj [("status", .str (if t.errors.isEmpty then "success" else "failed")),
      ("stats", t.countsValue), ("errors", .arr (t.errors.map errorValue))]

end Tally

end IssueBridge
