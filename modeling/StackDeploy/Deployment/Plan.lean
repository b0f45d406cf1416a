/-
# Planning a deployment

What a deployment does follows from the revision that is deployed, the baseline, and the one that is
proposed. Nothing is done if both declare the same and no parameters or tags are given. A change
that would delete or replace resources is refused unless it was allowed. Anything else is requested.
-/

import StackDeploy.Diff.Replacement
import StackDeploy.Stack.ControlPlane
import StackDeploy.Template.Validation

namespace StackDeploy

open Json (Value)

/-- What a deployment is given besides the stack and the template. -/
structure DeployOptions where
  /-- The revision to compare with, instead of the one that is deployed. -/
  previous : Option Template
  parameters : List (String × String)
  tags : List (String × String)
  allowDestructive : Bool
deriving DecidableEq

/-- No options: destructive changes are refused. -/
def DeployOptions.none : DeployOptions := ⟨Option.none, [], [], false⟩

/-- Why a deployment or a deletion fails. -/
inductive DeployError where
  | template (cause : TemplateError)
  /-- The change would delete or replace resources and this was not allowed. -/
  | destructiveChange (stack : String) (resources : List String)
  /-- The stack was never created completely and can only be deleted. -/
  | failedCreation (stack : String) (status : StackStatus)
  | stack (cause : StackError)
deriving DecidableEq

/-- The wording of a failed deployment. -/
def DeployError.message : DeployError → String
  | .template cause => "template error: " ++ cause.message
  | .destructiveChange name resources =>
    "refusing to deploy " ++ name ++ ": the change would delete or replace " ++
      String.intercalate ", " resources ++
      "; re-run with destructive changes allowed to proceed"
  | .failedCreation name status =>
    "stack " ++ name ++ " is " ++ status.text ++
      " after a failed creation and cannot be updated; " ++
      "run `stratus destroy " ++ name ++ "` and deploy again"
  | .stack cause => cause.message

namespace Template

/-- Whether two revisions say the same in the sections that a diff does not compare. -/
def sectionsMatch (deployed proposed : Template) : Bool :=
  deployed.description == proposed.description &&
    NameMap.sameBy Value.same deployed.mappings proposed.mappings &&
    NameMap.sameBy Value.same deployed.conditions proposed.conditions

/-- The resources that going from one revision to another deletes or replaces. -/
def affected (baseline proposed : Template) : NameSet :=
  let d := baseline.diff proposed
  d.deleted.union (.ofList ((d.replacements baseline proposed).map Replacement.id))

/-- Whether going from one revision to another deletes or replaces a resource. -/
def isDestructive (baseline proposed : Template) : Bool :=
  (baseline.diff proposed).requiresReplacement baseline proposed

end Template

/-- Whether a deployment over an existing stack has nothing to do. -/
def DeployOptions.isUpToDate (o : DeployOptions) (baseline proposed : Template) : Bool :=
  (baseline.diff proposed).strategy == .skip && o.parameters.isEmpty && o.tags.isEmpty &&
    baseline.sectionsMatch proposed

/-- What a deployment does. -/
inductive Plan where
  /-- Nothing. -/
  | keep
  /-- It sends a request. -/
  | submit (request : StackRequest)
deriving DecidableEq

/-- The plan of a deployment, or its refusal. The flag says whether the stack exists. -/
def DeployOptions.plan (o : DeployOptions) (stack : String) (stackExists : Bool)
    (baseline proposed : Template) : Except DeployError Plan :=
  if stackExists && o.isUpToDate baseline proposed then .ok .keep
  else if baseline.isDestructive proposed && !o.allowDestructive then
    .error (.destructiveChange stack (baseline.affected proposed).names)
  else .ok (.submit (.ofTemplate stack proposed o.parameters o.tags))

end StackDeploy
