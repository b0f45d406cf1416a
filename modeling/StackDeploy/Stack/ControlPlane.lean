/-
# Control planes

A control plane starts operations on stacks and reports their state. It is given by its five calls,
in whatever monad they run, so that the same deployment can run against a provider or against a
script.
-/

import StackDeploy.Stack.Error
import StackDeploy.Stack.Snapshot
import StackDeploy.Template.Printer

namespace StackDeploy

/-- A request to create or update a stack. -/
structure StackRequest where
  stack : String
  templateBody : String
  parameters : List (String × String)
  capabilities : List String
  tags : List (String × String)
deriving DecidableEq

/-- The capabilities that are acknowledged unless others are. -/
def defaultCapabilities : List String := ["CAPABILITY_IAM", "CAPABILITY_NAMED_IAM"]

/-- The request that deploys a template. -/
def StackRequest.ofTemplate (stack : String) (template : Template)
    (parameters tags : List (String × String)) : StackRequest :=
  ⟨stack, template.text, parameters, defaultCapabilities, tags⟩

/-- What comes of asking for an update. -/
inductive UpdateOutcome where
  | started
  | noChanges
deriving DecidableEq

/-- The calls of a control plane. -/
structure ControlPlane (m : Type → Type) where
  /-- Starts the creation of a stack and answers its identifier. -/
  create : StackRequest → m (Except StackError String)
  /-- Starts the update of a stack. -/
  update : StackRequest → m (Except StackError UpdateOutcome)
  /-- Starts the deletion of a stack but for some of its resources. -/
  delete : String → List String → m (Except StackError Unit)
  /-- Reports the state of a stack, if it exists. -/
  describe : String → m (Except StackError (Option Stack))
  /-- Reports the template body of a stack, if it exists. -/
  getTemplate : String → m (Except StackError (Option String))

end StackDeploy
