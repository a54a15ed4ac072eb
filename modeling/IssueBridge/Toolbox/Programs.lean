import IssueBridge.Toolbox.Shell

/-! # Programs

The tools as programs with which texts are converted.
-/

namespace IssueBridge.Toolbox

/-- No word of a command has so many bytes. -/
def wordLimit : Nat := 131072

/-- The words of a command have no more bytes together. -/
def commandLimit : Nat := 2090000

/-- The words of a command fit into what a program is given. -/
def fits (command : List String) : Bool :=
  command.all (·.utf8ByteSize < wordLimit) &&
    (command.foldl (fun n w => n + w.utf8ByteSize + 9) 0) < commandLimit

/-- Does nothing and ends with a status. -/
def ending (status : Nat) : Tool := fun _ input => { status, rest := input }

/-- The tools by the names of their programs; a script may run others up to a depth. -/
def tool? : Nat → String → Option Tool
  | depth, "sh" => some (Shell.shell (match depth with
    | 0 => fun _ => none
    | depth + 1 => tool? depth))
  | _, name =>
    [("cat", cat), ("echo", echo), ("false", ending 1), ("head", head), ("printf", printf), ("sed", Editor.sed),
      ("sleep", sleep), ("tr", tr), ("true", ending 0)].lookup name

/-- No tool ends in less time. -/
def leastSeconds : Float := 0.0001

def outcome (seconds : Float) (r : Run) : RunOutcome :=
  if seconds ≤ max r.seconds leastSeconds then .timedOut
  else
    .ended (match r.signal with
      | some n => .signal n
      | none => .status r.status) ⟨(bytes r.output).toArray⟩ ⟨(bytes r.errors).toArray⟩

def programs : Programs := fun command input seconds =>
  match command with
  | [] => .refused .missing
  | program :: args =>
    if !fits command then .refused { number := 7, text := "Argument list too long" }
    else
      match findProgram program with
      | .error f => .refused f
      | .ok name =>
        match tool? 8 name with
        | some tool => outcome seconds (tool (args.map codes) (codes input))
        | none => .refused .missing

end IssueBridge.Toolbox
