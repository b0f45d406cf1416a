/-
# Deploying and destroying

A deployment checks the template, looks at the stack, finds the revision to compare with, makes its
plan, creates or updates the stack, and waits for the end. A stack whose first creation failed is
not touched. Destroying looks at the stack, deletes it if it is there, and waits. Every call that
fails ends the run, and no call is made that the answers so far do not ask for.
-/

import StackDeploy.Deployment.Plan
import StackDeploy.Stack.Wait
import StackDeploy.Template.Reader

namespace StackDeploy

/-- What a deployment did. -/
inductive DeployAction where
  | created
  | updated
  | unchanged
deriving DecidableEq

/-- What a deployment reports. -/
structure DeployReport where
  action : DeployAction
  strategy : Strategy
  diff : TemplateDiff
  stack : Option Stack
deriving DecidableEq

/-- The report on a deployment from one revision to another. -/
def DeployReport.of (action : DeployAction) (baseline proposed : Template) (stack : Option Stack) :
    DeployReport :=
  let diff := baseline.diff proposed
  ⟨action, diff.strategy, diff, stack⟩

/-- The statuses of a stack that was never created completely. -/
def failedCreationStatuses : List StackStatus := [.rollbackComplete, .rollbackFailed]

/-- The status that keeps a stack from being updated, if it has one. -/
def failedCreation? (existing : Option Stack) : Option StackStatus :=
  (existing.map Stack.status).filter failedCreationStatuses.contains

/-- The snapshot at the end of a wait. -/
def WaitOutcome.stack? : WaitOutcome → Option Stack
  | .reached stack => some stack
  | .gone => none

/-- The template of a deployed body; a body that is no template counts as none. -/
def deployedTemplate (body : Option String) : Option Template :=
  body.bind fun text => (Template.ofText text).toOption

/-- What deploys to stacks: a control plane, the means to wait, and some patience. -/
structure Deployer (m : Type → Type) where
  plane : ControlPlane m
  watch : Watch m
  policy : WaitPolicy

namespace Deployer

variable {m : Type → Type} [Monad m]

/-- Waits for an operation and reports on it. -/
def settle (d : Deployer m) (stack : String) (kind : OperationKind)
    (report : Option Stack → DeployReport) : m (Except DeployError DeployReport) := do
  match ← d.watch.waitFor d.policy stack kind with
  | .error cause => pure (.error (.stack cause))
  | .ok outcome => pure (.ok (report outcome.stack?))

/-- Carries out a plan over a stack that exists. -/
def change (d : Deployer m) (stack : String) (existing : Stack) (plan : Plan)
    (report : DeployAction → Option Stack → DeployReport) :
    m (Except DeployError DeployReport) :=
  match plan with
  | .keep => pure (.ok (report .unchanged (some existing)))
  | .submit request => do
    match ← d.plane.update request with
    | .error cause => pure (.error (.stack cause))
    | .ok .noChanges => pure (.ok (report .unchanged (some existing)))
    | .ok .started => d.settle stack .update (report .updated)

/-- Carries out a plan for a stack that does not exist. -/
def bring (d : Deployer m) (stack : String) (plan : Plan)
    (report : DeployAction → Option Stack → DeployReport) :
    m (Except DeployError DeployReport) :=
  match plan with
  | .keep => pure (.ok (report .unchanged none))
  | .submit request => do
    match ← d.plane.create request with
    | .error cause => pure (.error (.stack cause))
    | .ok _ => d.settle stack .create (report .created)

/-- Deploys over what is there, given the revision to compare with. -/
def deployOver (d : Deployer m) (stack : String) (existing : Option Stack)
    (baseline proposed : Template) (options : DeployOptions) :
    m (Except DeployError DeployReport) :=
  match options.plan stack existing.isSome baseline proposed with
  | .error cause => pure (.error cause)
  | .ok plan =>
    match existing with
    | some seen =>
      d.change stack seen plan fun action snapshot => .of action baseline proposed snapshot
    | none => d.bring stack plan fun action snapshot => .of action baseline proposed snapshot

/-- The revision to compare with: the one that is given, else the one that is deployed. -/
def baseline (d : Deployer m) (stack : String) (existing : Option Stack) (options : DeployOptions) :
    m (Except StackError Template) :=
  match options.previous, existing with
  | some previous, _ => pure (.ok previous)
  | none, none => pure (.ok .empty)
  | none, some _ => do
    match ← d.plane.getTemplate stack with
    | .error cause => pure (.error cause)
    | .ok body => pure (.ok ((deployedTemplate body).getD .empty))

/-- Deploys a template. -/
def deploy (d : Deployer m) (stack : String) (proposed : Template) (options : DeployOptions) :
    m (Except DeployError DeployReport) :=
  match proposed.validateReferences with
  | .error cause => pure (.error (.template cause))
  | .ok () => do
    match ← d.plane.describe stack with
    | .error cause => pure (.error (.stack cause))
    | .ok existing =>
      match failedCreation? existing with
      | some status => pure (.error (.failedCreation stack status))
      | none =>
        match ← d.baseline stack existing options with
        | .error cause => pure (.error (.stack cause))
        | .ok baseline => d.deployOver stack existing baseline proposed options

/-- Deletes a stack but for some of its resources; tells whether it was there. -/
def destroy (d : Deployer m) (stack : String) (retain : List String) :
    m (Except DeployError Bool) := do
  match ← d.plane.describe stack with
  | .error cause => pure (.error (.stack cause))
  | .ok none => pure (.ok false)
  | .ok (some _) =>
    match ← d.plane.delete stack retain with
    | .error cause => pure (.error (.stack cause))
    | .ok () =>
      match ← d.watch.waitFor d.policy stack .delete with
      | .error cause => pure (.error (.stack cause))
      | .ok _ => pure (.ok true)

/-- The state of a stack, if it exists. -/
def status (d : Deployer m) (stack : String) : m (Except DeployError (Option Stack)) := do
  match ← d.plane.describe stack with
  | .error cause => pure (.error (.stack cause))
  | .ok seen => pure (.ok seen)

end Deployer

end StackDeploy
