import IssueBridge.Value.Basic
import IssueBridge.Number.Notation
import IssueBridge.Text.Quoted

/-! # Values in log lines

A value stands in a message as a literal: texts quoted, lists and objects with their parts in order.
A text that is the whole value stands there bare.
-/

namespace IssueBridge.Value

mutual

def shown : Value → String
  | .null => "None"
  | .bool b => if b then "True" else "False"
  | .int n => toString n
  | .float x => Number.ofFloat x
  | .str s => Text.quoted s
  | .arr items => "[" ++ ", ".intercalate (shownItems items) ++ "]"
  | .obj fs => "\x7b" ++ ", ".intercalate (shownMembers fs) ++ "\x7d"
  | .moment t => t
  | .brokenText t => Text.quoted t

def shownItems : List Value → List String
  | [] => []
  | v :: rest => shown v :: shownItems rest

def shownMembers : List (String × Value) → List String
  | [] => []
  | (n, v) :: rest => (Text.quoted n ++ ": " ++ shown v) :: shownMembers rest

end

def text : Value → String
  | .str s => s
  | v => shown v

end IssueBridge.Value
