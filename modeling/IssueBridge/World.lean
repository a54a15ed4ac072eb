import IssueBridge.Call
import IssueBridge.Log
import IssueBridge.Tables
import IssueBridge.Tally
import IssueBridge.Tracker.Store

/-! # The world around the bridge

Both trackers, the database, the clock, the calls that were made, and the log. A step changes the world
and gives a result or fails; what it changed before it failed stays changed.
-/

namespace IssueBridge

/-- What the source lists: issues by repository, comments by repository and number. -/
structure Source where
  issues : Table (List Value) := []
  comments : Table (List Value) := []

/-- The periodic jobs. -/
structure Agenda where
  running : Bool := false
  /-- Someone is there to do the job. -/
  attached : Bool := false
  /-- The jobs with their intervals in minutes. -/
  jobs : Table Int := []

structure World where
  clock : Time.Timestamp
  source : Source := {}
  store : Tracker.Store := {}
  tables : Tables := {}
  faults : Faults := .none
  /-- The calls so far, the latest first. -/
  history : List Call := []
  log : Log := []
  /-- A pass is running. -/
  busy : Bool := false
  tally : Tally := {}
  agenda : Agenda := {}

abbrev Step := EStateM Failure World

namespace Step

def say (level : Level) (text : String) : Step Unit :=
  modify fun w => { w with log := ⟨level, text⟩ :: w.log }

def info (text : String) : Step Unit := say .info text

def warn (text : String) : Step Unit := say .warning text

def error (text : String) : Step Unit := say .error text

/-- Makes a call. The result says whether it is answered with something. -/
def place (c : Call) : Step Bool := do
  let w ← get
  set { w with history := c :: w.history }
  match w.faults w.history c with
  | .served => return true
  | .empty => return false
  | .failed f => throw f

/-- The outcome of a step, a failure included. -/
def observe {α : Type} (x : Step α) : Step (Except Failure α) := fun w =>
  match x w with
  | .ok a w => .ok (.ok a) w
  | .error f w => .ok (.error f) w

/-- Runs a step; its failure is logged and goes no further. -/
def contain (level : Level) (start : String) (x : Step Unit) : Step Unit := do
  match ← observe x with
  | .ok () => return ()
  | .error f => say level (start ++ f.message)

def ofExcept {α : Type} : Except Failure α → Step α
  | .ok a => pure a
  | .error f => throw f

/-- Runs a computation that only logs. -/
def ofLogged {α : Type} (x : Logged α) : Step α := fun w =>
  match x w.log with
  | .ok a log => .ok a { w with log }
  | .error f log => .error f { w with log }

/-- Logs a failure of the given kind, unless the start of the entry cannot be found; all failures go on. -/
def loggingFrom {α : Type} (kind : Failure → Bool) (start : Step String) (x : Step α) : Step α := do
  match ← observe x with
  | .ok a => return a
  | .error f => do
    if kind f then error ((← start) ++ f.message)
    throw f

/-- Logs a failure of the given kind; all failures go on. -/
def logging {α : Type} (kind : Failure → Bool) (start : String) (x : Step α) : Step α :=
  loggingFrom kind (pure start) x

def modifyStore (f : Tracker.Store → Tracker.Store) : Step Unit :=
  modify fun w => { w with store := f w.store }

/-- Changes the store, with a result. -/
def onStore {α : Type} (f : Tracker.Store → α × Tracker.Store) : Step α := fun w =>
  .ok (f w.store).1 { w with store := (f w.store).2 }

def modifyTally (f : Tally → Tally) : Step Unit :=
  modify fun w => { w with tally := f w.tally }

end Step

end IssueBridge
