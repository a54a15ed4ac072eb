import IssueBridge.Time.Timestamp
import IssueBridge.Record.Scalar
import IssueBridge.Settings.Basic

/-! # Tables

What is kept between passes: the journal of what was synchronised, and the state of the process.
-/

namespace IssueBridge

inductive Status
  | success
  | failed
  | skipped
  deriving DecidableEq, Repr

def Status.name : Status → String
  | .success => "success"
  | .failed => "failed"
  | .skipped => "skipped"

/-- What set off a journalled operation. -/
inductive Origin
  | webhook
  | reconcile
  deriving DecidableEq, Repr

def Origin.name : Origin → String
  | .webhook => "webhook"
  | .reconcile => "reconcile"

/-- What is to be journalled. -/
structure JournalEntry where
  status : Status
  origin : Origin
  message : String
  repository : String
  issue : Option Int := none
  action : Option String := none

structure JournalRow where
  id : Nat
  entry : JournalEntry
  createdAt : Time.Wall

def JournalRow.text (r : JournalRow) : String :=
  let upper := fun s : String => String.ofList (s.toList.map Char.toUpper)
  "<SyncLog(repository=" ++ r.entry.repository ++ ", status=SyncStatus." ++ upper r.entry.status.name ++
    ", source=SyncSource." ++ upper r.entry.origin.name ++ ")>"

structure StateRow where
  key : String
  value : Option String
  deriving DecidableEq, Repr

def StateRow.text (r : StateRow) : String :=
  let value := ((r.value.map Value.str).getD .null).shown
  "<SyncState(" ++ r.key ++ "=" ++ value ++ ")>"

structure Tables where
  journal : List JournalRow := []
  state : List StateRow := []
  /-- How many journal rows were ever to be written. -/
  attempts : Nat := 0

namespace Tables

def value? (t : Tables) (key : String) : Option StateRow := t.state.find? (·.key = key)

/-- Puts a value into the row of a key, which is made if there is none. -/
def setValue (key : String) (value : Option String) : List StateRow → List StateRow
  | [] => [⟨key, value⟩]
  | r :: rest => if r.key = key then ⟨key, value⟩ :: rest else r :: setValue key value rest

/-- A row is about to be written. -/
def tried (t : Tables) : Tables := { t with attempts := t.attempts + 1 }

/-- The next row of the journal. Its time is as many seconds after the clock as rows were tried. -/
def newRow (t : Tables) (clock : Time.Timestamp) (e : JournalEntry) : Except Failure JournalRow :=
  match clock.universal?.bind (·.shift? (t.attempts * Time.microsPerSecond : Nat)) with
  | none => .error .dateOutOfRange
  | some createdAt =>
    if (e.issue.map Record.Form.fits64).getD true then
      .ok ⟨t.journal.length + 1, e, createdAt⟩
    else .error .columnOverflow

def append (t : Tables) (r : JournalRow) : Tables := { t with journal := t.journal ++ [r] }

end Tables

end IssueBridge
