/-! # Line ends

A line ends with a line feed, with a carriage return, or with both in this order.
-/

namespace IssueBridge.Text

/-- The text with a line feed at the end of each line. -/
def unifyLineEnds (cs : List Char) : List Char :=
  (cs.zip (' ' :: cs)).filterMap fun (c, before) =>
    if c = '\n' ∧ before = '\r' then none else some (if c = '\r' then '\n' else c)

end IssueBridge.Text
