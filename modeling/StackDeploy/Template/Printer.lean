/-
# Writing templates

A template is written as one JSON object. Sections and fields come in a fixed order; what is empty
or has its default is left out, the format version and the resources excepted. Reading the text
again gives the same template, whatever layout is chosen.
-/

import StackDeploy.Json.Printer
import StackDeploy.Template.Basic

namespace StackDeploy

open Json

/-- A member that is written only if there is a value. -/
def optionalMember (key : String) : Option Value → Members
  | none => []
  | some value => [(key, value)]

/-- A member that is written unless its list is empty. -/
def listMember (key : String) (items : List Value) : Members :=
  if items.isEmpty then [] else [(key, .array items)]

/-- A member that is written unless its object is empty. -/
def objectMember (key : String) (members : Members) : Members :=
  if members.isEmpty then [] else [(key, .object members)]

/-- A set of names as a list of strings. -/
def NameSet.toValues (s : NameSet) : List Value :=
  s.names.map .string

namespace Resource

/-- The written form of a resource. -/
def toValue (r : Resource) : Value :=
  .object (
    [("Type", .string r.type)] ++
    objectMember "Properties" r.properties ++
    listMember "DependsOn" r.dependsOn.toValues ++
    optionalMember "Condition" (r.condition.map .string) ++
    optionalMember "DeletionPolicy"
      (if r.deletionPolicy = .delete then none else some (.string r.deletionPolicy.name)) ++
    optionalMember "UpdateReplacePolicy" (r.updateReplacePolicy.map fun p => .string p.name))

/-- The text of a resource alone. -/
def text (r : Resource) : String :=
  r.toValue.compact

end Resource

namespace Parameter

/-- The written form of a parameter. -/
def toValue (p : Parameter) : Value :=
  .object (
    [("Type", .string p.type)] ++
    optionalMember "Default" p.default ++
    optionalMember "Description" (p.description.map .string) ++
    listMember "AllowedValues" p.allowedValues ++
    optionalMember "NoEcho" (if p.noEcho then some (.bool true) else none))

end Parameter

namespace Output

/-- The written form of an output. -/
def toValue (o : Output) : Value :=
  .object (
    [("Value", o.value)] ++
    optionalMember "Description" (o.description.map .string) ++
    optionalMember "Export" (o.exportName.map fun name => .object [("Name", name)]))

end Output

namespace Template

/-- The members of a written section. -/
def sectionMembers {α : Type} (write : α → Value) (declared : NameMap α) : Members :=
  declared.entries.map fun entry => (entry.1, write entry.2)

/-- The written form of a template. -/
def toValue (t : Template) : Value :=
  .object (
    [("AWSTemplateFormatVersion", .string t.formatVersion)] ++
    optionalMember "Description" (t.description.map .string) ++
    objectMember "Parameters" (sectionMembers Parameter.toValue t.parameters) ++
    objectMember "Mappings" (sectionMembers id t.mappings) ++
    objectMember "Conditions" (sectionMembers id t.conditions) ++
    [("Resources", .object (sectionMembers Resource.toValue t.resources))] ++
    objectMember "Outputs" (sectionMembers Output.toValue t.outputs))

/-- The compact text of a template. -/
def text (t : Template) : String :=
  t.toValue.compact

/-- The indented text of a template. -/
def prettyText (t : Template) : String :=
  t.toValue.pretty

end Template

end StackDeploy
