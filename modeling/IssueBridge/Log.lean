import IssueBridge.Failure

/-! # The log

Log entries in the order in which they are written, the newest first. What was logged before a failure
stays in the log.
-/

namespace IssueBridge

inductive Level
  | info
  | warning
  | error
  deriving DecidableEq, Repr

def Level.name : Level → String
  | .info => "INFO"
  | .warning => "WARNING"
  | .error => "ERROR"

structure Entry where
  level : Level
  text : String
  deriving DecidableEq, Repr

abbrev Log := List Entry

/-- A computation that writes to the log and may fail. -/
abbrev Logged := EStateM Failure Log

namespace Logged

def say (level : Level) (text : String) : Logged Unit := modify (⟨level, text⟩ :: ·)

def warn (text : String) : Logged Unit := say .warning text

def error (text : String) : Logged Unit := say .error text

/-- A result that was found without logging. -/
def ofExcept {α : Type} : Except Failure α → Logged α
  | .ok a => pure a
  | .error f => throw f

end Logged

end IssueBridge
