/-
# The CloudFormation control plane

The calls of a control plane as actions of the CloudFormation interface. Parameters are the fields
of a form, in which the items of a list are numbered from one. An answer is looked into by the name
of its action. That a stack does not exist, and that an update would change nothing, are errors of
the provider that are told by their message.
-/

import StackDeploy.Provider.Client
import StackDeploy.Stack.ControlPlane

namespace StackDeploy.CloudFormation

open Json (Value)

/-- The name of the service. -/
def service : String := "cloudformation"

/-- The version of the interface. -/
def version : String := "2010-05-15"

/-! ## Requests -/

/-- Numbers the items of a list from a number on. -/
def numberFrom {α : Type} (start : Nat) : List α → List (Nat × α)
  | [] => []
  | item :: rest => (start, item) :: numberFrom (start + 1) rest

/-- The name of a numbered item of a list. -/
def memberName (list : String) (index : Nat) : String :=
  list ++ ".member." ++ Text.decimal index

/-- The fields of a list of texts. -/
def listFields (list : String) (items : List String) : List (String × String) :=
  (numberFrom 1 items).map fun item => (memberName list item.1, item.2)

/-- The fields of a list of pairs, whose parts have names of their own. -/
def pairFields (list key value : String) (pairs : List (String × String)) :
    List (String × String) :=
  (numberFrom 1 pairs).flatMap fun pair =>
    [(memberName list pair.1 ++ "." ++ key, pair.2.1),
      (memberName list pair.1 ++ "." ++ value, pair.2.2)]

/-- The fields of a request to create or update a stack. -/
def stackFields (request : StackRequest) (token : String) : List (String × String) :=
  [("StackName", request.stack), ("TemplateBody", request.templateBody),
    ("ClientRequestToken", token)] ++
    listFields "Capabilities" request.capabilities ++
    pairFields "Parameters" "ParameterKey" "ParameterValue" request.parameters ++
    pairFields "Tags" "Key" "Value" request.tags

/-- The fields of a request to delete a stack but for some of its resources. -/
def deleteFields (stack token : String) (retain : List String) : List (String × String) :=
  [("StackName", stack), ("ClientRequestToken", token)] ++ listFields "RetainResources" retain

/-! ## Answers -/

/-- The items of a list: one item is not written as an array. -/
def members (list : Option Value) : List Value :=
  match list.bind (Value.get? "member") with
  | some (.array items) => items
  | some item => [item]
  | none => []

/-- The result of an action in its answer. -/
def resultOf (action : String) (answer : Value) : Option Value :=
  (answer.get? (action ++ "Response")).bind (Value.get? (action ++ "Result"))

/-- A text in the result of an action. -/
def resultText (action field : String) (answer : Option Value) : Option String :=
  ((answer.bind (resultOf action)).bind (Value.get? field)).bind Value.string?

/-- A text of an item; an empty one counts as absent. -/
def textOf (field : String) (v : Value) : Option String :=
  ((v.get? field).bind Value.string?).filter fun text => text ≠ ""

/-- The output that an item describes, if it has a key. -/
def outputOf (v : Value) : Option StackOutput :=
  (textOf "OutputKey" v).map fun key =>
    ⟨key, (textOf "OutputValue" v).getD "", textOf "Description" v, textOf "ExportName" v⟩

/-- The stack that an item describes. -/
def stackOf (v : Value) : Except StackError Stack :=
  match textOf "StackName" v with
  | none => .error (.invalidResponse .missingName)
  | some name =>
    match textOf "StackStatus" v with
    | none => .error (.invalidResponse (.missingStatus name))
    | some status =>
      .ok {
        name
        stackId := textOf "StackId" v
        status := .ofText status
        statusReason := textOf "StackStatusReason" v
        outputs := (members (v.get? "Outputs")).filterMap outputOf }

/-- Whether an error says that a stack does not exist. -/
def isMissingStack : CallError → Bool
  | .provider _ _ message => Text.contains message "does not exist"
  | _ => false

/-- Whether an error says that an update would change nothing. -/
def isWithoutUpdates : CallError → Bool
  | .provider _ _ message => Text.contains message "No updates are to be performed"
  | _ => false

/-- What the answer to a creation says. -/
def createAnswer : Except CallError (Option Value) → Except StackError String
  | .error cause => .error (.call cause)
  | .ok answer =>
    match resultText "CreateStack" "StackId" answer with
    | some stackId => .ok stackId
    | none => .error (.invalidResponse .missingStackId)

/-- What the answer to an update says. -/
def updateAnswer : Except CallError (Option Value) → Except StackError UpdateOutcome
  | .error cause => if isWithoutUpdates cause then .ok .noChanges else .error (.call cause)
  | .ok _ => .ok .started

/-- What the answer to a deletion says. -/
def deleteAnswer : Except CallError (Option Value) → Except StackError Unit
  | .error cause => .error (.call cause)
  | .ok _ => .ok ()

/-- What the answer to a look at a stack says: the first stack of the list. -/
def describeAnswer : Except CallError (Option Value) → Except StackError (Option Stack)
  | .error cause => if isMissingStack cause then .ok none else .error (.call cause)
  | .ok answer =>
    match members ((answer.bind (resultOf "DescribeStacks")).bind (Value.get? "Stacks")) with
    | [] => .ok none
    | first :: _ => (stackOf first).map some

/-- What the answer to the question for a template says. -/
def templateAnswer : Except CallError (Option Value) → Except StackError (Option String)
  | .error cause => if isMissingStack cause then .ok none else .error (.call cause)
  | .ok answer => .ok (resultText "GetTemplate" "TemplateBody" answer)

/-! ## Calls -/

variable {m : Type → Type} [Monad m]

/-- The control plane that a client reaches. -/
def controlPlane (client : Client) (network : Network m) : ControlPlane m where
  create request := do
    let token ← network.freshToken
    let answer ← client.query network "CreateStack" version (stackFields request token)
    pure (createAnswer answer)
  update request := do
    let token ← network.freshToken
    let answer ← client.query network "UpdateStack" version (stackFields request token)
    pure (updateAnswer answer)
  delete stack retain := do
    let token ← network.freshToken
    let answer ← client.query network "DeleteStack" version (deleteFields stack token retain)
    pure (deleteAnswer answer)
  describe stack := do
    let answer ← client.query network "DescribeStacks" version [("StackName", stack)]
    pure (describeAnswer answer)
  getTemplate stack := do
    let answer ← client.query network "GetTemplate" version [("StackName", stack)]
    pure (templateAnswer answer)

end StackDeploy.CloudFormation
