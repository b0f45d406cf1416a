/-
# Running a command

A command reads its files, then its key-value pairs, then the configuration, and only then calls the
provider; the first failure ends it. Reports go to standard output, an error to standard error.
What surrounds a command, files, environment and network, is a parameter.
-/

import StackDeploy.CommandLine.Arguments
import StackDeploy.CommandLine.Folder
import StackDeploy.CommandLine.Report
import StackDeploy.Provider.CloudFormation
import StackDeploy.Settings.Access
import StackDeploy.Settings.Polling

namespace StackDeploy.CommandLine

open Settings (AccessSettings PollingSettings SettingsError Sources)

/-- Why a command fails. -/
inductive CommandError where
  | settings (cause : SettingsError)
  | read (path : String) (cause : ReadError)
  | template (path : String) (cause : TemplateError)
  /-- The value of an option is no pair. -/
  | notPair (option value : String)
  | deploy (cause : DeployError)
deriving DecidableEq

/-- The wording of a failed command. -/
def CommandError.message : CommandError → String
  | .settings cause => "configuration error: " ++ cause.message
  | .read path cause => "failed to read " ++ path ++ ": " ++ cause.message
  | .template path cause => path ++ ": " ++ cause.message
  | .notPair option value =>
    "invalid --" ++ option ++ " value '" ++ value ++ "': expected KEY=VALUE"
  | .deploy cause => cause.message

/-- How a run ends. -/
structure Ending where
  exitCode : Nat
  output : String
  errors : String
deriving DecidableEq

/-- The lines on how to use the program. -/
def usageText : String :=
  "Usage: stratus <COMMAND>\n\n" ++
    "  diff OLD NEW\n" ++
    "  deploy STACK TEMPLATE [--previous FILE] [--allow-destructive]\n" ++
    "         [--parameter KEY=VALUE]... [--tag KEY=VALUE]...\n" ++
    "  destroy STACK [--retain LOGICAL_ID]...\n" ++
    "  status STACK\n"

namespace Ending

/-- The end of arguments that are no command. -/
def ofRefusal : Refusal → Ending
  | .help => ⟨0, usageText, ""⟩
  | .misuse => ⟨2, "", usageText⟩

/-- The end of a command. -/
def ofResult : Except CommandError String → Ending
  | .ok output => ⟨0, output, ""⟩
  | .error cause => ⟨1, "", cause.message ++ "\n"⟩

end Ending

/-- A key and a value that are separated by the first equals sign. The key is trimmed and may not be
blank; the value is kept as it is. -/
def pairOf (option text : String) : Except CommandError (String × String) :=
  match Text.cutFirst '=' text.toList with
  | none => .error (.notPair option text)
  | some (key, value) =>
    let key := Text.trimChars key
    if key.isEmpty then .error (.notPair option text)
    else .ok (String.ofList key, String.ofList value)

/-- What surrounds a command. -/
structure Surroundings (m : Type → Type) where
  /-- Reads a file by a path that may not lead out of the working folder. -/
  textAt : String → m (Except ReadError String)
  /-- Reads a file by any path, if it is there. -/
  findText : String → m (Option String)
  /-- The variables of the environment. -/
  environment : m (List (String × String))
  network : Network m
  /-- Pauses for some seconds. -/
  pause : Nat → m Unit

/-- A watch that looks through a control plane and is never cancelled. -/
def undisturbed {m : Type → Type} [Monad m] (plane : ControlPlane m) (pause : Nat → m Unit) :
    Watch m where
  isCancelled := pure false
  look stack := do
    let answer ← plane.describe stack
    pure (some answer)
  pause seconds := do
    pause seconds
    pure false

/-- The client and the polling settings that are configured. The access settings are loaded and
checked before the polling settings. -/
def configured (sources : Sources) : Except SettingsError (Client × PollingSettings) := do
  let access ← AccessSettings.load sources
  let client ← access.client CloudFormation.service
  let polling ← PollingSettings.load sources
  polling.validate
  .ok (client, polling)

namespace Surroundings

variable {m : Type → Type} [Monad m]

/-- A step of a command, which may fail. -/
abbrev Step (m : Type → Type) := ExceptT CommandError m

/-- Reads a template. -/
def template (s : Surroundings m) (path : String) : Step m Template := do
  match ← s.textAt path with
  | .error cause => throw (.read path cause)
  | .ok text =>
    match Template.ofText text with
    | .error cause => throw (.template path (.parse cause))
    | .ok template => pure template

/-- The text of the first file that is there. -/
def firstFile (s : Surroundings m) : List String → m (Option String)
  | [] => pure none
  | path :: rest => do
    match ← s.findText path with
    | some text => pure (some text)
    | none => s.firstFile rest

/-- The sources of the settings. -/
def sources (s : Surroundings m) : m Sources := do
  let environment ← s.environment
  let document ← s.firstFile (Settings.filePaths environment)
  pure ⟨environment, document⟩

/-- The deployer that is configured, and its polling settings. -/
def deployer (s : Surroundings m) : Step m (Deployer m × PollingSettings) := do
  match configured (← s.sources) with
  | .error cause => throw (.settings cause)
  | .ok (client, polling) =>
    let plane := CloudFormation.controlPlane client s.network
    pure (⟨plane, undisturbed plane s.pause, polling.policy⟩, polling)

/-- The answer of a deployer, or its failure. -/
def answered {α : Type} (answer : m (Except DeployError α)) : Step m α := do
  match ← answer with
  | .error cause => throw (.deploy cause)
  | .ok value => pure value

/-- Carries out a command and answers what it prints. -/
def perform (s : Surroundings m) : Command → Step m String
  | .diff old new => do
    let old ← s.template old
    let new ← s.template new
    pure (old.changeReport new)
  | .deploy a => do
    let template ← s.template a.template
    let previous ← a.previous.mapM s.template
    let parameters ← a.parameters.mapM fun text => ExceptT.mk (pure (pairOf "parameter" text))
    let tags ← a.tags.mapM fun text => ExceptT.mk (pure (pairOf "tag" text))
    let (deployer, polling) ← s.deployer
    let allowed := a.allowDestructive || polling.allowDestructive
    let report ← answered (deployer.deploy a.stack template ⟨previous, parameters, tags, allowed⟩)
    pure (report.report a.stack)
  | .destroy stack retain => do
    let (deployer, _) ← s.deployer
    let existed ← answered (deployer.destroy stack retain)
    pure (deletionReport stack existed)
  | .status stack => do
    let (deployer, _) ← s.deployer
    let seen ← answered (deployer.status stack)
    pure (statusReport stack seen)

/-- Runs the program with arguments. -/
def run (s : Surroundings m) (args : List String) : m Ending :=
  match Command.ofArguments args with
  | .error refusal => pure (.ofRefusal refusal)
  | .ok command => do
    let result ← (s.perform command).run
    pure (.ofResult result)

end Surroundings

end StackDeploy.CommandLine
