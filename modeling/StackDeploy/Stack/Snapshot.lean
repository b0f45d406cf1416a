/-
# Stack snapshots

A snapshot is what the provider reports about a stack at one moment. It is written as a JSON object
with every field, and read from an object or from the array of its fields. An output key may occur
more than once; a look-up answers with the first.
-/

import StackDeploy.Json.Printer
import StackDeploy.Json.Reader
import StackDeploy.Stack.Status

namespace StackDeploy

open Json

/-- A value that a stack publishes. -/
structure StackOutput where
  key : String
  value : String
  description : Option String
  exportName : Option String
deriving DecidableEq

/-- A snapshot of a stack. -/
structure Stack where
  name : String
  stackId : Option String
  status : StackStatus
  statusReason : Option String
  outputs : List StackOutput
deriving DecidableEq

/-- A part of a written output. -/
inductive StackOutputPart where
  | key (text : String)
  | value (text : String)
  | description (text : Option String)
  | exportName (text : Option String)

/-- A part of a written snapshot. -/
inductive StackPart where
  | name (text : String)
  | stackId (text : Option String)
  | status (status : StackStatus)
  | statusReason (text : Option String)
  | outputs (outputs : List StackOutput)

/-- A text or null. -/
def optionalText : Option String → Value
  | none => .null
  | some text => .string text

namespace StackOutput

/-- The written form of an output. -/
def toValue (o : StackOutput) : Value :=
  .object [("key", .string o.key), ("value", .string o.value),
    ("description", optionalText o.description), ("export_name", optionalText o.exportName)]

/-- The fields of a written output. -/
def fields (_ : Depth) : List (FieldReader StackOutputPart) :=
  [⟨"key", false, fun t => t.toText.map .key⟩,
   ⟨"value", false, fun t => t.toText.map .value⟩,
   ⟨"description", false, fun t => (t.toOption Tree.toText).map .description⟩,
   ⟨"export_name", false, fun t => (t.toOption Tree.toText).map .exportName⟩]

/-- The output that the parts describe. -/
def ofParts (parts : List StackOutputPart) : Reading StackOutput := do
  let key ← FieldReader.require "key" (parts.findSome? fun | .key text => some text | _ => none)
  let value ←
    FieldReader.require "value" (parts.findSome? fun | .value text => some text | _ => none)
  .ok {
    key
    value
    description := (parts.findSome? fun | .description text => some text | _ => none).join
    exportName := (parts.findSome? fun | .exportName text => some text | _ => none).join }

/-- Reads an output. -/
def ofTree (depth : Depth) (tree : Tree) : Reading StackOutput :=
  (FieldReader.readRecord "StackOutput" depth fields tree).bind ofParts

end StackOutput

namespace Stack

/-- The value of the first output with a key. -/
def output? (s : Stack) (key : String) : Option String :=
  (s.outputs.find? fun output => output.key == key).map StackOutput.value

/-- The written form of a snapshot. -/
def toValue (s : Stack) : Value :=
  .object [("name", .string s.name), ("stack_id", optionalText s.stackId),
    ("status", .string s.status.text), ("status_reason", optionalText s.statusReason),
    ("outputs", .array (s.outputs.map StackOutput.toValue))]

/-- The text of a snapshot. -/
def text (s : Stack) : String :=
  s.toValue.compact

/-- The fields of a written snapshot. -/
def fields (depth : Depth) : List (FieldReader StackPart) :=
  [⟨"name", false, fun t => t.toText.map .name⟩,
   ⟨"stack_id", false, fun t => (t.toOption Tree.toText).map .stackId⟩,
   ⟨"status", false, fun t => t.toText.map fun text => .status (.ofText text)⟩,
   ⟨"status_reason", false, fun t => (t.toOption Tree.toText).map .statusReason⟩,
   ⟨"outputs", false, fun t => (t.toList depth StackOutput.ofTree).map .outputs⟩]

/-- The snapshot that the parts describe. -/
def ofParts (parts : List StackPart) : Reading Stack := do
  let name ← FieldReader.require "name" (parts.findSome? fun | .name text => some text | _ => none)
  let status ←
    FieldReader.require "status" (parts.findSome? fun | .status status => some status | _ => none)
  let outputs ←
    FieldReader.require "outputs"
      (parts.findSome? fun | .outputs outputs => some outputs | _ => none)
  .ok {
    name
    stackId := (parts.findSome? fun | .stackId text => some text | _ => none).join
    status
    statusReason := (parts.findSome? fun | .statusReason text => some text | _ => none).join
    outputs }

/-- Reads a snapshot from a tree. -/
def ofTree (tree : Tree) : Reading Stack :=
  (FieldReader.readRecord "Stack" maxDepth fields tree).bind ofParts

/-- Reads a snapshot from its text. -/
def ofText (text : String) : Reading Stack :=
  (Document.ofText text).read ofTree

end Stack

end StackDeploy
