/-
# Dangling references

Before a template is sent every name it uses has to be declared in it: the targets of dependencies
are resources, references inside properties are resources or parameters, and the condition of a
resource is a declared condition. All violations are reported at once, in the order of the resources
and, within a resource, dependencies first, then references, then the condition.
-/

import StackDeploy.Template.Reference
import StackDeploy.Json.Problem

namespace StackDeploy

/-- Where a name is used. -/
inductive ReferenceKind where
  | dependsOn
  | property
  | condition
deriving DecidableEq

/-- A use of a name that is not declared. -/
structure UnresolvedReference where
  source : String
  target : String
  kind : ReferenceKind
deriving DecidableEq

/-- The wording of a dangling reference. -/
def UnresolvedReference.message (r : UnresolvedReference) : String :=
  let verb :=
    match r.kind with
    | .dependsOn => "depends on"
    | .property => "references"
    | .condition => "uses condition"
  r.source ++ " " ++ verb ++ " unknown '" ++ r.target ++ "'"

/-- Why a template is refused. -/
inductive TemplateError where
  | parse (problem : Json.Problem)
  | unresolvedReferences (references : List UnresolvedReference)
deriving DecidableEq

/-- The wording of a template error. -/
def TemplateError.message : TemplateError → String
  | .parse problem => "invalid template document: " ++ problem.message
  | .unresolvedReferences references =>
    "unresolved references: " ++
      String.intercalate ", " (references.map UnresolvedReference.message)

namespace Template

/-- The names that one resource uses without a declaration. -/
def unresolvedOf (t : Template) (id : String) (r : Resource) : List UnresolvedReference :=
  (r.dependsOn.filter fun target => !t.resources.contains target).names.map
      (fun target => ⟨id, target, .dependsOn⟩) ++
    (r.implicitReferences.filter fun target =>
        !t.resources.contains target && !t.parameters.contains target).names.map
      (fun target => ⟨id, target, .property⟩) ++
    (match r.condition with
      | none => []
      | some name => if t.conditions.contains name then [] else [⟨id, name, .condition⟩])

/-- All names that are used without a declaration. -/
def unresolved (t : Template) : List UnresolvedReference :=
  t.resources.entries.flatMap fun entry => t.unresolvedOf entry.1 entry.2

/-- Checks that every name is declared. -/
def validateReferences (t : Template) : Except TemplateError Unit :=
  match t.unresolved with
  | [] => .ok ()
  | references => .error (.unresolvedReferences references)

end Template

end StackDeploy
