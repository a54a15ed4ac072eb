import IssueBridge.Bridge.Journal
import IssueBridge.Time.Iso

/-! # The watermark

The time up to which the source was listed. The next pass starts a day earlier, so that nothing that
changed around that time is missed; without a watermark it starts three months back.
-/

namespace IssueBridge

open Time

namespace Watermark

def key : String := "last_sync_time"

/-- The overlap of two passes, in microseconds. -/
def overlap : Int := microsPerDay

def defaultWindow : Int := 90 * microsPerDay

/-- Universal time to the second, closed by the letter `Z`. -/
def text (w : Wall) : String := w.floorSecond.text ++ "Z"

def format (t : Timestamp) : Except Failure String :=
  match t.universal? with
  | some w => .ok (text w)
  | none => .error .dateOutOfRange

/-- The letter `Z` stands for universal time. -/
def spellZone (cs : List Char) : List Char :=
  cs.flatMap fun c => if c = 'Z' then "+00:00".toList else [c]

/-- Reads a time; without an offset it is universal time. -/
def read? (s : String) : Option Timestamp :=
  (Iso.read (spellZone (Text.trim s.toList))).map (·.withZone)

/-- A time some microseconds earlier on its own clock. -/
def before (t : Timestamp) (micros : Int) : Except Failure Timestamp :=
  match t.shift? (-micros) with
  | some t => .ok t
  | none => .error .dateOutOfRange

/-- The stored time; none if there is no text or it cannot be read. -/
def read : Step (Option Timestamp) := do
  let _ ← Step.place .openSession
  match (((← get).tables.value? key).bind (·.value)).getD "" with
  | "" => return none
  | stored =>
    match read? stored with
    | some t => return some t
    | none => do
      Step.info "parse last sync time error:"
      return none

/-- Where the window of the next pass starts. -/
def since (enabled : Bool) : Step Timestamp := do
  let default ← Step.ofExcept (before (← get).clock defaultWindow)
  if !enabled then return default
  else
    match ← read with
    | none => return default
    | some last => do
      let _ ← Step.ofExcept (format last)
      Step.ofExcept (before last overlap)

/-- Puts a time into the table. -/
def store (t : Timestamp) : Step Unit := do
  let value ← Step.ofExcept (format t)
  let _ ← Step.place .commit
  modify fun w =>
    { w with tables := { w.tables with state := Tables.setValue key (some value) w.tables.state } }

/-- Writes a time. Only the opening of a session can fail it. -/
def write (t : Timestamp) : Step Unit := do
  let _ ← Step.place .openSession
  Step.contain .error "write last sync time error: " (store t)

end Watermark

end IssueBridge
