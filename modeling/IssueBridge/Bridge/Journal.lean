import IssueBridge.Bridge.Basic

/-! # Journalling

One row a call. Only the opening of a session can fail it; any other failure is logged and leaves the
journal as it was.
-/

namespace IssueBridge

namespace Step

/-- Writes the next row of the journal. -/
def insertRow (e : JournalEntry) : Step Unit := do
  let _ ← place .commit
  modify fun w => { w with tables := w.tables.tried }
  let w ← get
  let row ← ofExcept (w.tables.newRow w.clock e)
  modify fun w => { w with tables := w.tables.append row }

def journal (e : JournalEntry) : Step Unit := do
  let _ ← place .openSession
  contain .error "Failed to write sync log: " (insertRow e)

end Step

/-- Writes to the journal, if the bridge keeps one. -/
def Bridge.journal (b : Bridge) (e : JournalEntry) : Step Unit := do
  if b.journaling then Step.journal e

end IssueBridge
