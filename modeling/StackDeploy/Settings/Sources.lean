/-
# Sources of settings

A field is looked up in the environment first, then in the settings file. The variable of a field
has the prefix of its family before the name, in upper or lower case; two underscores lead into a
table.
-/

import StackDeploy.Settings.Document
import StackDeploy.Settings.Field

namespace StackDeploy.Settings

/-- What settings are read from. -/
structure Sources where
  /-- The environment: the names of variables with their values. -/
  environment : List (String × String)
  /-- The text of the settings file, if there is one. -/
  document : Option String

/-- The variable that holds the path of a settings file. -/
def pathVariable : String := "STRATUS_CONFIG_PATH"

/-- The variables of the fields. -/
def variableNames : List String :=
  ["AWS_ACCESS_KEY_ID", "AWS_SECRET_ACCESS_KEY", "AWS_SESSION_TOKEN", "AWS_REGION",
    "AWS_ENDPOINT_URL", "STRATUS_POLL_INTERVAL_SECS", "STRATUS_MAX_ATTEMPTS"]

/-- The paths of settings files, in the order in which they are tried. -/
def filePaths (environment : List (String × String)) : List String :=
  ((environment.filter fun entry => entry.1 = pathVariable).map Prod.snd) ++ ["stratus.toml"]

/-- The field that a variable of a family sets, and what to. -/
def ofVariable (family : String) (entry : String × String) : Option (String × Setting) :=
  let name := entry.1.toLower
  if !Text.startsWith name family then none
  else
    let field := name.toList.drop family.length
    match Text.cutPhrase ['_', '_'] field with
    | some (table, _) => some (String.ofList table, .other)
    | none => some (String.ofList field, .ofText entry.2)

/-- The key by which a settings file names another one that it builds on. Settings are read from one
file, so such a file is refused. -/
def extensionKey : String := "extends"

namespace Sources

/-- The settings of a family of variables and of the file, in the order in which they count. Of two
variables for one field the later one counts. -/
def settings (s : Sources) (family : String) : Except SettingsError (List (String × Setting)) :=
  let fromVariables := (s.environment.filterMap (ofVariable family)).reverse
  match s.document with
  | none => .ok fromVariables
  | some text =>
    match ofDocument text with
    | none => .error (.unreadable "malformed settings file")
    | some fromFile =>
      if fromFile.any fun entry => entry.1 = extensionKey then
        .error (.unreadable "the file that is extended cannot be read")
      else .ok (fromVariables ++ fromFile)

end Sources

/-- The setting of a field, if it has one. -/
def setting? (settings : List (String × Setting)) (key : String) : Option Setting :=
  (settings.find? fun entry => entry.1 = key).map Prod.snd

/-- The text of a field, if it has one. -/
def textOf (settings : List (String × Setting)) (key : String) :
    Except SettingsError (Option String) :=
  match setting? settings key with
  | none => .ok none
  | some setting =>
    match setting.text? with
    | some text => .ok (some text)
    | none => .error (.unreadable (key ++ " is no text"))

/-- The number of a field up to a greatest one, or what it is by default. -/
def numberOf (settings : List (String × Setting)) (key : String) (greatest default : Nat) :
    Except SettingsError Nat :=
  match setting? settings key with
  | none => .ok default
  | some setting =>
    match setting.number? greatest with
    | some n => .ok n
    | none => .error (.unreadable (key ++ " is no number in range"))

end StackDeploy.Settings
