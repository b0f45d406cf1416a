/-
# Templates

A template declares the resources of a stack with the parameters, mappings, conditions and outputs
around them. Sections are maps from names, so two templates that declare the same things are equal.
What a resource, a mapping or a condition contains beyond its fixed fields is a dynamic value.
-/

import StackDeploy.Json.Value
import StackDeploy.Names.Map
import StackDeploy.Names.Set
import StackDeploy.Text.Cut

namespace StackDeploy

open Json (Value Members)

/-- What happens to a physical resource when it leaves the stack or is replaced. -/
inductive DeletionPolicy where
  | delete
  | retain
  | snapshot
deriving DecidableEq

/-- The written names of the policies. -/
def DeletionPolicy.named : List (String × DeletionPolicy) :=
  [("Delete", .delete), ("Retain", .retain), ("Snapshot", .snapshot)]

/-- The written name of a policy. -/
def DeletionPolicy.name : DeletionPolicy → String
  | .delete => "Delete"
  | .retain => "Retain"
  | .snapshot => "Snapshot"

/-- A declared resource. -/
structure Resource where
  type : String
  properties : Members
  dependsOn : NameSet
  condition : Option String
  deletionPolicy : DeletionPolicy
  updateReplacePolicy : Option DeletionPolicy
deriving DecidableEq

/-- An input of a template. A default may be null, which is not the same as none. -/
structure Parameter where
  type : String
  default : Option Value
  description : Option String
  allowedValues : List Value
  noEcho : Bool
deriving DecidableEq

/-- A published value, possibly under a name that other stacks can import. -/
structure Output where
  value : Value
  description : Option String
  exportName : Option Value
deriving DecidableEq

/-- The declaration of one deployable unit. -/
structure Template where
  formatVersion : String
  description : Option String
  parameters : NameMap Parameter
  mappings : NameMap Value
  conditions : NameMap Value
  resources : NameMap Resource
  outputs : NameMap Output
deriving DecidableEq

namespace Template

/-- The format version of a template that states none. -/
def defaultFormatVersion : String := "2010-09-09"

/-- The template that declares nothing. -/
def empty : Template :=
  ⟨defaultFormatVersion, none, .empty, .empty, .empty, .empty, .empty⟩

end Template

/-- The beginnings of the resource types that the provider knows. -/
def recognizedNamespaces : List String := ["AWS::", "Alexa::", "Custom::"]

/-- The recognized beginning of a resource type. -/
def namespaceOfType (type : String) : Option String :=
  recognizedNamespaces.find? fun start => Text.startsWith type start

end StackDeploy
