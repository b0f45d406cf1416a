/-
# Reading templates

A template is read from JSON. Every record of it may be written as an object or as the array of its
fields; sections are objects whose last entry for a name counts; a dependency list may be a single
name; null stands for an absent description, condition, default, export or replacement policy.
-/

import StackDeploy.Json.Reader
import StackDeploy.Template.Basic

namespace StackDeploy

open Json

/-- A part of a written resource. -/
inductive ResourcePart where
  | type (name : String)
  | properties (members : Members)
  | dependsOn (names : NameSet)
  | condition (name : Option String)
  | deletionPolicy (policy : DeletionPolicy)
  | updateReplacePolicy (policy : Option DeletionPolicy)

/-- A part of a written parameter. -/
inductive ParameterPart where
  | type (name : String)
  | default (value : Option Value)
  | description (text : Option String)
  | allowedValues (values : List Value)
  | noEcho (flag : Bool)

/-- A part of a written output. -/
inductive OutputPart where
  | value (value : Value)
  | description (text : Option String)
  | exportName (name : Option Value)

/-- A part of a written template. -/
inductive TemplatePart where
  | formatVersion (text : String)
  | description (text : Option String)
  | parameters (declared : NameMap Parameter)
  | mappings (declared : NameMap Value)
  | conditions (declared : NameMap Value)
  | resources (declared : NameMap Resource)
  | outputs (declared : NameMap Output)

/-- Reads a section. -/
def NameMap.ofTree {α : Type} (depth : Depth) (reader : Depth → Tree → Reading α) (tree : Tree) :
    Reading (NameMap α) :=
  (tree.toEntries depth reader).map NameMap.ofList

/-- The names of a list of strings; absent if another value is among them. -/
def namesOfValues : List Value → Option (List String)
  | [] => some []
  | .string name :: rest => (namesOfValues rest).map (name :: ·)
  | _ :: _ => none

/-- Reads the targets of a dependency list: one name, or a list of names. -/
def NameSet.ofTree (depth : Depth) (tree : Tree) : Reading NameSet := do
  let value ← tree.toValue depth
  match value with
  | .string name => .ok (NameSet.ofList [name])
  | .array items =>
    match namesOfValues items with
    | some names => .ok (NameSet.ofList names)
    | none => .error (.mismatch (.noVariant "OneOrMany"))
  | _ => .error (.mismatch (.noVariant "OneOrMany"))

/-- Reads a policy. -/
def DeletionPolicy.ofTree (depth : Depth) (tree : Tree) : Reading DeletionPolicy :=
  tree.toVariant depth DeletionPolicy.named

namespace Resource

/-- The fields of a written resource. -/
def fields (depth : Depth) : List (FieldReader ResourcePart) :=
  [⟨"Type", false, fun t => t.toText.map .type⟩,
   ⟨"Properties", true, fun t => (Members.ofTree depth t).map .properties⟩,
   ⟨"DependsOn", true, fun t => (NameSet.ofTree depth t).map .dependsOn⟩,
   ⟨"Condition", true, fun t => (t.toOption Tree.toText).map .condition⟩,
   ⟨"DeletionPolicy", true, fun t => (DeletionPolicy.ofTree depth t).map .deletionPolicy⟩,
   ⟨"UpdateReplacePolicy", true, fun t =>
      (t.toOption (DeletionPolicy.ofTree depth)).map .updateReplacePolicy⟩]

/-- The resource that the parts describe. -/
def ofParts (parts : List ResourcePart) : Reading Resource := do
  let type ← FieldReader.require "Type" (parts.findSome? fun | .type name => some name | _ => none)
  .ok {
    type
    properties := (parts.findSome? fun | .properties members => some members | _ => none).getD []
    dependsOn := (parts.findSome? fun | .dependsOn names => some names | _ => none).getD .empty
    condition := (parts.findSome? fun | .condition name => some name | _ => none).join
    deletionPolicy :=
      (parts.findSome? fun | .deletionPolicy policy => some policy | _ => none).getD .delete
    updateReplacePolicy :=
      (parts.findSome? fun | .updateReplacePolicy policy => some policy | _ => none).join }

/-- Reads a resource. -/
def ofTree (depth : Depth) (tree : Tree) : Reading Resource :=
  (FieldReader.readRecord "Resource" depth fields tree).bind ofParts

end Resource

namespace Parameter

/-- The fields of a written parameter. -/
def fields (depth : Depth) : List (FieldReader ParameterPart) :=
  [⟨"Type", false, fun t => t.toText.map .type⟩,
   ⟨"Default", true, fun t => (t.toOption (Tree.toValue depth)).map .default⟩,
   ⟨"Description", true, fun t => (t.toOption Tree.toText).map .description⟩,
   ⟨"AllowedValues", true, fun t => (t.toList depth Tree.toValue).map .allowedValues⟩,
   ⟨"NoEcho", true, fun t => t.toFlag.map .noEcho⟩]

/-- The parameter that the parts describe. -/
def ofParts (parts : List ParameterPart) : Reading Parameter := do
  let type ← FieldReader.require "Type" (parts.findSome? fun | .type name => some name | _ => none)
  .ok {
    type
    default := (parts.findSome? fun | .default value => some value | _ => none).join
    description := (parts.findSome? fun | .description text => some text | _ => none).join
    allowedValues :=
      (parts.findSome? fun | .allowedValues values => some values | _ => none).getD []
    noEcho := (parts.findSome? fun | .noEcho flag => some flag | _ => none).getD false }

/-- Reads a parameter. -/
def ofTree (depth : Depth) (tree : Tree) : Reading Parameter :=
  (FieldReader.readRecord "Parameter" depth fields tree).bind ofParts

end Parameter

namespace Output

/-- The only field of a written export. -/
def exportFields (depth : Depth) : List (FieldReader Value) :=
  [⟨"Name", false, Tree.toValue depth⟩]

/-- Reads an export. -/
def exportOfTree (depth : Depth) (tree : Tree) : Reading Value := do
  let parts ← FieldReader.readRecord "OutputExport" depth exportFields tree
  FieldReader.require "Name" parts.head?

/-- The fields of a written output. -/
def fields (depth : Depth) : List (FieldReader OutputPart) :=
  [⟨"Value", false, fun t => (t.toValue depth).map .value⟩,
   ⟨"Description", true, fun t => (t.toOption Tree.toText).map .description⟩,
   ⟨"Export", true, fun t => (t.toOption (exportOfTree depth)).map .exportName⟩]

/-- The output that the parts describe. -/
def ofParts (parts : List OutputPart) : Reading Output := do
  let value ←
    FieldReader.require "Value" (parts.findSome? fun | .value value => some value | _ => none)
  .ok {
    value
    description := (parts.findSome? fun | .description text => some text | _ => none).join
    exportName := (parts.findSome? fun | .exportName name => some name | _ => none).join }

/-- Reads an output. -/
def ofTree (depth : Depth) (tree : Tree) : Reading Output :=
  (FieldReader.readRecord "Output" depth fields tree).bind ofParts

end Output

namespace Template

/-- The fields of a written template. -/
def fields (depth : Depth) : List (FieldReader TemplatePart) :=
  [⟨"AWSTemplateFormatVersion", true, fun t => t.toText.map .formatVersion⟩,
   ⟨"Description", true, fun t => (t.toOption Tree.toText).map .description⟩,
   ⟨"Parameters", true, fun t => (NameMap.ofTree depth Parameter.ofTree t).map .parameters⟩,
   ⟨"Mappings", true, fun t => (NameMap.ofTree depth Tree.toValue t).map .mappings⟩,
   ⟨"Conditions", true, fun t => (NameMap.ofTree depth Tree.toValue t).map .conditions⟩,
   ⟨"Resources", true, fun t => (NameMap.ofTree depth Resource.ofTree t).map .resources⟩,
   ⟨"Outputs", true, fun t => (NameMap.ofTree depth Output.ofTree t).map .outputs⟩]

/-- The template that the parts describe. -/
def ofParts (parts : List TemplatePart) : Template where
  formatVersion :=
    (parts.findSome? fun | .formatVersion text => some text | _ => none).getD defaultFormatVersion
  description := (parts.findSome? fun | .description text => some text | _ => none).join
  parameters := (parts.findSome? fun | .parameters kept => some kept | _ => none).getD .empty
  mappings := (parts.findSome? fun | .mappings kept => some kept | _ => none).getD .empty
  conditions := (parts.findSome? fun | .conditions kept => some kept | _ => none).getD .empty
  resources := (parts.findSome? fun | .resources kept => some kept | _ => none).getD .empty
  outputs := (parts.findSome? fun | .outputs kept => some kept | _ => none).getD .empty

/-- Reads a template from a tree. -/
def ofTree (tree : Tree) : Reading Template :=
  (FieldReader.readRecord "Template" maxDepth fields tree).map ofParts

/-- Reads a template from its text. -/
def ofText (text : String) : Reading Template :=
  (Document.ofText text).read ofTree

end Template

end StackDeploy
