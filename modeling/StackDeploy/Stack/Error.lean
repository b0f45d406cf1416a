/-
# Failed stack operations

An operation on a stack fails by itself, because the stack ends in a status of failure; by patience,
because it ends too late or is cancelled; or by its calls.
-/

import StackDeploy.Provider.Error
import StackDeploy.Stack.Status

namespace StackDeploy

/-- What an answer lacks. -/
inductive ResponseProblem where
  /-- A stack without a name. -/
  | missingName
  /-- A stack without a status. -/
  | missingStatus (stack : String)
  /-- A creation without the identifier of the stack. -/
  | missingStackId
  /-- A problem that was reported in words. -/
  | reported (cause : String)
deriving DecidableEq

/-- The wording for what an answer lacks. -/
def ResponseProblem.message : ResponseProblem → String
  | .missingName => "stack without StackName"
  | .missingStatus stack => "stack " ++ stack ++ " without StackStatus"
  | .missingStackId => "CreateStack without StackId"
  | .reported cause => cause

/-- Why a stack operation fails. -/
inductive StackError where
  /-- The stack ended in a status of failure. -/
  | deploymentFailure (stack : String) (status : StackStatus) (reason : Option String)
  /-- The deletion left something behind. -/
  | deleteFailed (stack : String) (reason : Option String)
  /-- The last look at the stack showed no end. -/
  | timeout (stack : String) (attempts : Nat) (lastStatus : Option StackStatus)
  /-- The wait was cancelled after so many looks. -/
  | cancelled (stack : String) (attempts : Nat)
  /-- An answer lacks what it should hold. -/
  | invalidResponse (problem : ResponseProblem)
  /-- A call failed. -/
  | call (cause : CallError)
deriving DecidableEq

/-- A reason as it follows a statement. -/
def reasonSuffix : Option String → String
  | none => ""
  | some reason => ": " ++ reason

/-- The wording of a failed operation. -/
def StackError.message : StackError → String
  | .deploymentFailure stack status reason =>
    "stack " ++ stack ++ " ended in " ++ status.text ++ reasonSuffix reason
  | .deleteFailed stack reason =>
    "stack " ++ stack ++ " could not be deleted" ++ reasonSuffix reason ++
      "; retry the deletion retaining the resources that failed to delete " ++
      "(destroy --retain <LogicalId>)"
  | .timeout stack attempts _ =>
    "timed out waiting for stack " ++ stack ++ " after " ++ Text.decimal attempts ++
      " status checks"
  | .cancelled stack attempts =>
    "waiting for stack " ++ stack ++ " was cancelled after " ++ Text.decimal attempts ++
      " status checks"
  | .invalidResponse problem => "unexpected control plane response: " ++ problem.message
  | .call cause => cause.message

end StackDeploy
