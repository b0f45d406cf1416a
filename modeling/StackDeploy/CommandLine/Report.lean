/-
# Reports

What the commands print: a stack with its outputs, what a deployment did, what a deletion did, and
the difference between two templates with the resources that are replaced.
-/

import StackDeploy.Deployment.Deploy

namespace StackDeploy

/-- The lines on a stack. -/
def Stack.report (s : Stack) : String :=
  s.name ++ ": " ++ s.status.text ++ "\n" ++
    (match s.statusReason with
      | some reason => "  reason: " ++ reason ++ "\n"
      | none => "") ++
    String.join (s.outputs.map fun output => "  " ++ output.key ++ " = " ++ output.value ++ "\n")

/-- The line on a stack that is not there. -/
def absenceReport (stack : String) : String :=
  "stack " ++ stack ++ " does not exist\n"

/-- The lines on the status of a stack. -/
def statusReport (stack : String) : Option Stack → String
  | some seen => seen.report
  | none => absenceReport stack

/-- The line on a deletion, given whether the stack was there. -/
def deletionReport (stack : String) (existed : Bool) : String :=
  if existed then "deleted stack " ++ stack ++ "\n" else absenceReport stack

/-- The line on what a deployment did. -/
def DeployReport.summary (r : DeployReport) (stack : String) : String :=
  match r.action with
  | .created => "created stack " ++ stack
  | .updated => "updated stack " ++ stack
  | .unchanged =>
    if r.strategy = .skip then "stack " ++ stack ++ " is up to date"
    else "stack " ++ stack ++ " has no changes to apply"

/-- The lines on a deployment. -/
def DeployReport.report (r : DeployReport) (stack : String) : String :=
  r.diff.report ++ r.summary stack ++ "\n" ++
    (match r.stack with
      | some seen => seen.report
      | none => "")

/-- The lines on the difference between two templates. -/
def Template.changeReport (old new : Template) : String :=
  let d := old.diff new
  d.report ++ String.join ((d.replacements old new).map fun replacement =>
    "  ! replaces " ++ replacement.message ++ "\n")

end StackDeploy
