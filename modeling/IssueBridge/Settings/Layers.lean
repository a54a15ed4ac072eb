import IssueBridge.Settings.EnvFile
import IssueBridge.Settings.Reading
import IssueBridge.Toml.Reader

/-! # Layers of settings

Settings come from arguments, the environment, an environment file and a configuration file. The first
of these that has a setting gives it; tables are joined member by member.
-/

namespace IssueBridge.Settings

structure Layers where
  arguments : Fields := []
  environment : List (String × String) := []
  envFile : Option String := none
  configFile : Option String := none

mutual

/-- A value put over another one: tables are joined, anything else is replaced. -/
def joined (old new : Value) : Value :=
  match old, new with
  | .obj fs, .obj gs => .obj (joinedFields fs gs)
  | _, v => v

def joinedFields (fs : Fields) : Fields → Fields
  | [] => fs
  | (name, v) :: rest =>
    let v := match fs.get? name with
      | some old => joined old v
      | none => v
    joinedFields (fs.set name v) rest

end

/-- The rules under which structured settings are read from plain texts. -/
def textRules : Json.Rules := ⟨970, Text.maxDigits, false, true⟩

/-- The setting that a plain text gives: none if a structured setting is null. -/
def ofText (layer : String) (name text : String) : Except Failure (Option Value) :=
  if structured.contains name then
    match Json.read textRules text.toList with
    | .ok .null => .ok none
    | .ok v => .ok (some v.settled)
    | .error .malformed => .error (.unreadableSetting name layer)
    | .error (.tooDeep object) => .error (.nestedSetting object)
  else .ok (some (.str text))

/-- The settings that have a text, in the order of the settings. -/
def ofTexts (layer : String) (text? : String → Option String) :
    List String → Except Failure Fields
  | [] => .ok []
  | name :: rest => do
    let found ← match text? name with
      | some text => ofText layer name text
      | none => pure none
    let others ← ofTexts layer text? rest
    return (found.map (name, ·)).toList ++ others

/-- What a name in lower case is bound to: the last binding that has the name in any case counts. -/
def caseless? {α : Type} (bindings : List (String × α)) (name : String) : Option α :=
  (bindings.reverse.map fun p => (Text.lower p.1, p.2)).lookup name

/-- The parts of a configuration file under the names of the settings: the first part that has a name in
any case counts. -/
def ofConfig (fs : Fields) : Fields :=
  names.filterMap fun name => (fs.find? fun p => Text.lower p.1 = name).map fun p => (name, p.2)

/-- The variables that every process has. -/
def surroundings : List (String × String) := [("PATH", "/usr/local/bin:/usr/bin:/bin")]

/-- All layers joined into one object, each with those that go before it. -/
def Layers.fields (l : Layers) : Except Failure Fields := do
  let config ← match l.configFile with
    | none => pure []
    | some text =>
      match Toml.read text with
      | .ok fs => pure (ofConfig fs)
      | .error .badSyntax => throw .configSyntax
      | .error .tooDeep => throw .nestedConfig
      | .error (.digitLimit n) => throw (.digitLimit n)
  let environment ← ofTexts "EnvSettingsSource" (caseless? l.environment) names
  let bindings := match l.envFile with
    | none => []
    | some text => EnvFile.read (l.environment ++ surroundings) text
  let envFile ← ofTexts "DotEnvSettingsSource" (fun n => (caseless? bindings n).join) names
  return joinedFields config (joinedFields envFile (joinedFields environment l.arguments))

def load (l : Layers) : Except Failure Settings := do
  model.ofValue (.obj (← l.fields))

end IssueBridge.Settings
