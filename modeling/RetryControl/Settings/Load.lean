/-
  RetryControl.Settings.Load
  ────────────────────────────────
  **LOADING SETTINGS.**

  Three layers lie over each other: the defaults, a file, and the variables of
  the environment.  The settings that show through are checked before anyone
  gets them.
-/
import RetryControl.Log.Event
import RetryControl.Settings.Environment
import RetryControl.Settings.Files
import RetryControl.Settings.OfNode

namespace RetryControl

/-- The name of a kind of delays in the log. -/
def BackoffKind.logName : BackoffKind → String
  | .immediate => "Immediate"
  | .fixed => "Fixed"
  | .fixedWithoutJitter => "FixedWithoutJitter"
  | .exponential => "Exponential"
  | .exponentialWithoutJitter => "ExponentialWithoutJitter"

/-! ## §1. Layers. -/

namespace RetrySettings

/-- The layer of the defaults. -/
def defaults : List (String × Node) :=
  match Node.ofJson none ({} : RetrySettings).toJson with
  | .table _ members => members
  | _ => []

/-- The tree of the defaults with a file and the environment laid over them. -/
def layered (file environment : List (String × Node)) : Node :=
  ((Node.empty.putSource defaults).putSource file).putSource environment

/-- The settings that a file and the environment give over the defaults, if they can be used. -/
def ofLayers (file environment : List (String × Node)) : Except SettingsError RetrySettings := do
  let settings ← (ofNode (layered file environment)).mapError fun fault => .load fault.message
  settings.validate
  return settings

end RetrySettings

/-! ## §2. Loading. -/

namespace Surroundings

/-- The layer of the file of a name, which is empty without a name. -/
def fileLayer (around : Surroundings) :
    Option FileName → Except SettingsError (List (String × Node))
  | some name => around.source name
  | none => .ok []

/-- The settings that the layers give, with the file of a name if there is one. -/
def load (around : Surroundings) (name : Option FileName) :
    Except SettingsError RetrySettings := do
  let file ← around.fileLayer name
  RetrySettings.ofLayers file (Environment.source around.environment)

/-- The event of loaded settings. -/
def loadEvent {R : Type} (around : Surroundings) (name : Option FileName)
    (settings : RetrySettings) : Event R :=
  let path := match name with
    | some name => "Some(" ++ Text.quoted (name.text around) ++ ")"
    | none => "None"
  .settingsLoaded path settings.maxAttempts settings.backoff.kind.logName

/-! ## §3. Looking for a file. -/

/-- The names of the files that are looked for, the first one first. -/
def candidates (around : Surroundings) : List FileName :=
  [ .given "./retries.toml", .absolute (around.userDirectory ++ ["retries", "config.toml"]) ]

/-- The name of the first file of the candidates that is there. -/
def configFile? (around : Surroundings) : Option FileName :=
  around.candidates.find? fun name => (around.find? name).isSome

/-- The settings that the layers give, with the first file of the candidates that is there. -/
def loadDefault (around : Surroundings) : Except SettingsError RetrySettings :=
  around.load around.configFile?

end Surroundings

end RetryControl
