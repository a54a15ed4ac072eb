import IssueBridge.Call

/-! # Scripted faults

A rule lets some calls pass and then answers a number of them. The rules are asked in order; the first
that answers wins.
-/

namespace IssueBridge

structure Script.Rule where
  call : String
  subject : Option String := none
  /-- How many calls pass before the rule answers. -/
  skip : Nat := 0
  times : Nat := 1
  reply : Reply

def Script.Rule.concerns (r : Rule) (c : Call) : Bool :=
  r.call = c.name && (r.subject.map (· == c.subject)).getD true

/-- The rules after a call, and its answer. -/
def Script.ask (c : Call) : List Rule → List Rule × Reply
  | [] => ([], .served)
  | r :: rest =>
    if !r.concerns c then
      let (rest, reply) := ask c rest
      (r :: rest, reply)
    else if 0 < r.skip then
      let (rest, reply) := ask c rest
      ({ r with skip := r.skip - 1 } :: rest, reply)
    else if r.times = 0 then
      let (rest, reply) := ask c rest
      (r :: rest, reply)
    else ({ r with times := r.times - 1 } :: rest, r.reply)

/-- Rules that are added once a number of calls were made. -/
abbrev Script := List (Nat × List Script.Rule)

/-- The rules that are added before call number `n`. -/
def Script.addedAt (s : Script) (n : Nat) : List Rule := (s.filter (·.1 = n)).flatMap (·.2)

/-- The rules before the next call, after the calls of a history. -/
def Script.rulesAfter (s : Script) : List Call → List Rule
  | [] => addedAt s 0
  | c :: before => (ask c (rulesAfter s before)).1 ++ addedAt s (before.length + 1)

def Script.faults (s : Script) : Faults := fun history c => (ask c (rulesAfter s history)).2

end IssueBridge
