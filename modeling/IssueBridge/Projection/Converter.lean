import IssueBridge.Log
import IssueBridge.Settings.Basic
import IssueBridge.Text.Cut
import IssueBridge.Text.LineEnds
import IssueBridge.Text.Words
import IssueBridge.Toolbox.Signal

/-! # Converting markup

An external program turns the markup of the source into that of the tracker. When it fails, the text is
taken as it is. Texts are cut to the length that the tracker accepts.
-/

namespace IssueBridge

/-- How a program ended: with a status or through a signal. -/
inductive ProgramEnd
  | status (n : Nat)
  | signal (n : Nat)
  deriving DecidableEq, Repr

/-- Why the system does not start a program: its number for that and its words. -/
structure RunRefusal where
  number : Int
  text : String
  /-- It is the program that cannot be started, not the system that cannot start any. -/
  aboutProgram : Bool := true

/-- There is no such program. -/
def RunRefusal.missing : RunRefusal := { number := 2, text := "No such file or directory" }

/-- What came of running a program. -/
inductive RunOutcome
  | refused (why : RunRefusal)
  | timedOut
  | ended (how : ProgramEnd) (output errors : ByteArray)

/-- What programs do: from the words of the command, the input and the time allowed. -/
abbrev Programs := List String → String → Float → RunOutcome

namespace Projection

/-- Why a program gave no text. -/
inductive RunFault
  | refused (program : String) (why : RunRefusal)
  | ended (command : List String) (how : ProgramEnd)
  | timedOut (command : List String) (seconds : Float)

namespace RunFault

/-- A command in a message. -/
def shownCommand (command : List String) : String := (Value.ofStrings command).shown

/-- An end in a message. -/
def endMessage : ProgramEnd → String
  | .status n => "returned non-zero exit status " ++ toString n ++ "."
  | .signal n =>
    match Toolbox.signalName? n with
    | some name => "died with <Signals.SIG" ++ name ++ ": " ++ toString n ++ ">."
    | none => "died with unknown signal " ++ toString n ++ "."

def message : RunFault → String
  | .refused program why =>
    "[Errno " ++ toString why.number ++ "] " ++ why.text ++
      (if why.aboutProgram then ": " ++ Text.quoted program else "")
  | .ended command how => "Command '" ++ shownCommand command ++ "' " ++ endMessage how
  | .timedOut command seconds =>
    "Command '" ++ shownCommand command ++ "' timed out after " ++ Number.ofFloat seconds ++ " seconds"

end RunFault

/-- A converted text, or the text as it was and why it was not converted. -/
structure Conversion where
  text : String
  fault : Option RunFault := none

/-- The output of a program as text. -/
def outputText (output : ByteArray) : Except Failure String :=
  match Text.Utf8.decode output with
  | .ok s => .ok (String.ofList (Text.unifyLineEnds s.toList))
  | .error f => .error (.undecodable f)

/-- The time a program is given has to be a number of milliseconds below `2 ^ 31`. -/
def waiting (seconds : Float) : Except Failure Unit :=
  if seconds.isNaN then .error .notNumber
  else if seconds = 1.0 / 0.0 then .error .infinite
  else if seconds > 2147483.647 then .error .timeLimit
  else .ok ()

/-- What the program with these words makes of a text. Both its outputs have to be text. -/
def runConverter (programs : Programs) (command : List String) (seconds : Float) (text : String) :
    Except Failure (Except RunFault String) :=
  match command with
  | [] => .error .emptyCommand
  | program :: _ =>
    if command.any (·.contains '\x00') then .error .nullCharacter
    else
      match programs command text seconds with
      | .refused why => .ok (.error (.refused program why))
      | .timedOut => (waiting seconds).map fun _ => .error (.timedOut command seconds)
      | .ended how output errors => do
        waiting seconds
        let s ← outputText output
        let _ ← outputText errors
        return if how = .status 0 then .ok s else .error (.ended command how)

def commandWords (command : String) : Except Failure (List String) :=
  match Text.Words.split command with
  | .ok ws => .ok ws
  | .error .unclosedQuote => .error .unclosedQuote
  | .error .danglingEscape => .error .danglingEscape

/-- Converts a text with the program of the settings, if they name one. -/
def convert (programs : Programs) (s : Settings) (text : String) : Except Failure Conversion :=
  match s.converterCommand.getD "" with
  | "" => .ok ⟨Text.cutBody text, none⟩
  | command => do
    match ← runConverter programs (← commandWords command) s.converterTimeout text with
    | .ok converted => return ⟨Text.cutBody converted, none⟩
    | .error fault => return ⟨Text.cutBody text, some fault⟩

end Projection

end IssueBridge
