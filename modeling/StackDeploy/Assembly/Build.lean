/-
# Building in steps

The features of a stack contribute to its template in steps, which run one after the other. A step
is a list of actions on the assembly and on the outputs collected so far. It stops at its first
error and the build stops with it, unless the error was to be ignored. After the last step the
dependencies are checked and the template is made.
-/

import StackDeploy.Assembly.Assembler

namespace StackDeploy

open Json (Value)

/-- One action of a step, or of the preparation before the build. -/
inductive Action where
  | addResource (id type : String) (properties : Value) (options : ResourceOptions)
  | addParameter (name : String) (parameter : Parameter)
  | addMapping (name : String) (table : Value)
  | addCondition (name : String) (expression : Value)
  | addOutput (name : String) (output : Output)
  | addOutputs (outputs : List (String × Output))
  | checkCycles
  | lookUpEdges (id : String)
  | lookUpResource (id : String)
  | countOutputs
  | fail (message : String)

/-- What an action answers. -/
inductive Outcome where
  | done
  | failed (error : AssemblyError)
  | edges (targets : Option NameSet)
  | resource (definition : Option Resource)
  | outputCount (count : Nat)

/-- What the steps work on: the assembly and the outputs collected so far. -/
structure Workbench where
  assembler : Assembler
  outputs : NameMap Output

namespace Action

/-- Runs an action in the name of a step. -/
def run (step : String) (action : Action) (w : Workbench) : Outcome × Workbench :=
  let change (result : Except AssemblyError Assembler) : Outcome × Workbench :=
    match result with
    | .ok assembler => (.done, { w with assembler })
    | .error error => (.failed error, w)
  match action with
  | .addResource id type properties options =>
    change (w.assembler.addResource id type properties options)
  | .addParameter name parameter => change (.ok (w.assembler.addParameter name parameter))
  | .addMapping name table => change (.ok (w.assembler.addMapping name table))
  | .addCondition name expression => change (.ok (w.assembler.addCondition name expression))
  | .addOutput name output => (.done, { w with outputs := w.outputs.insert name output })
  | .addOutputs outputs => (.done, { w with outputs := w.outputs.insertAll outputs })
  | .checkCycles => change (w.assembler.checkCycles.map fun _ => w.assembler)
  | .lookUpEdges id => (.edges (w.assembler.explicitDependencies id), w)
  | .lookUpResource id => (.resource (w.assembler.resources.get? id), w)
  | .countOutputs => (.outputCount w.outputs.size, w)
  | .fail message => (.failed (.step step message), w)

/-- Runs actions one after the other, whatever they answer. -/
def runAll (step : String) : List Action → Workbench → List Outcome × Workbench
  | [], w => ([], w)
  | action :: rest, w =>
    let (outcome, w) := action.run step w
    let (outcomes, w) := runAll step rest w
    (outcome :: outcomes, w)

end Action

/-- An action with the decision whether its error stops the step. -/
structure Instruction where
  action : Action
  ignoresError : Bool

/-- A named list of instructions. -/
structure ContributionStep where
  name : String
  instructions : List Instruction

/-- The name of a step that states none. -/
def ContributionStep.defaultName : String := "anonymous"

/-- What came of running instructions: the answers so far, and the error that stopped them or what
they left on the workbench. -/
structure StepRun where
  outcomes : List Outcome
  result : Except AssemblyError Workbench

namespace ContributionStep

/-- Runs instructions until the first error that is not ignored. -/
def runInstructions (step : String) : List Instruction → Workbench → StepRun
  | [], w => ⟨[], .ok w⟩
  | instruction :: rest, w =>
    let (outcome, w) := instruction.action.run step w
    match outcome, instruction.ignoresError with
    | .failed error, false => ⟨[outcome], .error error⟩
    | _, _ =>
      let later := runInstructions step rest w
      ⟨outcome :: later.outcomes, later.result⟩

/-- Runs a step. -/
def run (step : ContributionStep) (w : Workbench) : StepRun :=
  runInstructions step.name step.instructions w

/-- Runs steps until one fails; a step after a failed one does not run. -/
def runAll :
    List ContributionStep → Workbench → List (List Outcome) × Except AssemblyError Workbench
  | [], w => ([], .ok w)
  | step :: rest, w =>
    match step.run w with
    | ⟨outcomes, .error error⟩ => ([outcomes], .error error)
    | ⟨outcomes, .ok w⟩ =>
      let (later, result) := runAll rest w
      (outcomes :: later, result)

end ContributionStep

/-- What a build answers: the answers of every step that ran, and the template or the error. -/
structure Build where
  steps : List (List Outcome)
  result : Except AssemblyError Template

namespace Assembler

/-- Builds a template: settings first, then the steps, then the outputs, then the check. -/
def build (settings : TemplateSettings) (steps : List ContributionStep) (a : Assembler) : Build :=
  let (outcomes, result) := ContributionStep.runAll steps ⟨a.withSettings settings, .empty⟩
  ⟨outcomes, result.bind fun w => w.assembler.finish settings.description w.outputs⟩

end Assembler

end StackDeploy
