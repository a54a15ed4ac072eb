/-! # Signals

A signal that ends a program has a number, and most of them have a name.
-/

namespace IssueBridge.Toolbox

/-- The names of the signals from one on. -/
def signalNames : List String :=
  ["HUP", "INT", "QUIT", "ILL", "TRAP", "ABRT", "BUS", "FPE", "KILL", "USR1", "SEGV", "USR2", "PIPE", "ALRM",
    "TERM", "STKFLT", "CHLD", "CONT", "STOP", "TSTP", "TTIN", "TTOU", "URG", "XCPU", "XFSZ", "VTALRM", "PROF",
    "WINCH", "IO", "PWR", "SYS"]

def signalName? (signal : Nat) : Option String :=
  if signal = 34 then some "RTMIN" else if signal = 64 then some "RTMAX" else signalNames[signal - 1]?

end IssueBridge.Toolbox
