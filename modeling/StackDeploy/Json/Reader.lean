/-
# Reading values and records

Readers walk a document tree from left to right and stop at its first problem. A dynamic value
becomes a `Value`; a text, a flag or a map has to have the right shape. A record is an object with
known fields, or the array of its fields in order: unknown fields are passed over, a field may not
come twice, and what is missing shows only at the end. Containers may be nested a hundred and
twenty-seven deep, those that are passed over excepted.
-/

import StackDeploy.Json.Tree
import StackDeploy.Json.Value

namespace StackDeploy.Json

variable {α Part : Type}

/-- How many containers a reader may still enter. -/
abbrev Depth := Nat

/-- The number of nested containers that a document may have. -/
def maxDepth : Depth := 127

/-- A result of reading. -/
abbrev Reading (α : Type) := Except Problem α

namespace Tree

/-- The problem of a value of the wrong type, or of a value that cannot be read. -/
def unexpected (expected : Expected) : Tree → Problem
  | .null => .mismatch (.wrongType .null expected)
  | .bool value => .mismatch (.wrongType (.bool value) expected)
  | .number (.ok value) => .mismatch (.wrongType (.number value) expected)
  | .number (.error problem) => problem
  | .string (.ok value) => .mismatch (.wrongType (.string value) expected)
  | .string (.error problem) => problem
  | .array _ _ => .mismatch (.wrongType .sequence expected)
  | .object _ _ => .mismatch (.wrongType .map expected)
  | .broken _ reading _ => reading

/-- Enters a container, if the depth allows it. -/
def enter (depth : Depth) (inside : Depth → Reading α) : Reading α :=
  match depth with
  | 0 => .error .malformed
  | depth + 1 => inside depth

mutual

/-- Reads a dynamic value. -/
def toValue (depth : Depth) : Tree → Reading Value
  | .null => .ok .null
  | .bool value => .ok (.bool value)
  | .number value => value.map .number
  | .string value => value.map .string
  | .array items ending =>
    match depth with
    | 0 => .error .malformed
    | inner + 1 => do
      let values ← toValues inner items
      ending.read
      .ok (.array values)
  | .object members ending =>
    match depth with
    | 0 => .error .malformed
    | inner + 1 => do
      let pairs ← toPairs inner members
      ending.read
      .ok (.object (Members.ofList pairs))
  | .broken _ reading _ => .error reading

/-- Reads the dynamic values of a list. -/
def toValues (depth : Depth) : List Tree → Reading (List Value)
  | [] => .ok []
  | item :: rest => do
    let value ← toValue depth item
    let values ← toValues depth rest
    .ok (value :: values)

/-- Reads keys with their dynamic values, repeated keys included. -/
def toPairs (depth : Depth) :
    List (Except Problem String × Tree) → Reading (List (String × Value))
  | [] => .ok []
  | (key, item) :: rest => do
    let key ← key
    let value ← toValue depth item
    let pairs ← toPairs depth rest
    .ok ((key, value) :: pairs)

end

/-- Reads a string. -/
def toText : Tree → Reading String
  | .string value => value
  | other => .error (unexpected .string other)

/-- Reads a flag. -/
def toFlag : Tree → Reading Bool
  | .bool value => .ok value
  | other => .error (unexpected .boolean other)

/-- Reads a value that may be null for its absence. -/
def toOption (reader : Tree → Reading α) : Tree → Reading (Option α)
  | .null => .ok none
  | .broken .null reading _ => .error reading
  | other => (reader other).map some

/-- Reads the items of a list one after the other. -/
def readItems (reader : Tree → Reading α) : List Tree → Reading (List α)
  | [] => .ok []
  | item :: rest => do
    let value ← reader item
    let values ← readItems reader rest
    .ok (value :: values)

/-- Reads keys with their values one after the other. -/
def readEntries (reader : Tree → Reading α) :
    List (Except Problem String × Tree) → Reading (List (String × α))
  | [] => .ok []
  | (key, item) :: rest => do
    let key ← key
    let value ← reader item
    let entries ← readEntries reader rest
    .ok ((key, value) :: entries)

/-- Reads an array whose items have one reader. -/
def toList (depth : Depth) (reader : Depth → Tree → Reading α) : Tree → Reading (List α)
  | .array items ending =>
    enter depth fun inner => do
      let values ← readItems (reader inner) items
      ending.read
      .ok values
  | other => .error (unexpected .sequence other)

/-- Reads an object as entries, in order and with repeated keys. -/
def toEntries (depth : Depth) (reader : Depth → Tree → Reading α) :
    Tree → Reading (List (String × α))
  | .object members ending =>
    enter depth fun inner => do
      let entries ← readEntries (reader inner) members
      ending.read
      .ok entries
  | other => .error (unexpected .map other)

end Tree

/-- Reads an object of dynamic values, in which the last value of a key counts. -/
def Members.ofTree (depth : Depth) (tree : Tree) : Reading Members :=
  (tree.toEntries depth Tree.toValue).map Members.ofList

/-- A dynamic value from its text. -/
def Value.ofText (text : String) : Reading Value :=
  (Document.ofText text).read (Tree.toValue maxDepth)

/-- A field of a record: its name, whether the array form may end before it, and how its value is
read into one of the record's parts. -/
structure FieldReader (Part : Type) where
  name : String
  mayEnd : Bool
  read : Tree → Reading Part

namespace FieldReader

/-- The parts of a record written as an object, in the order of the text. Names that have been seen
may not come again. -/
def readMembers (fields : List (FieldReader Part)) (seen : List String) :
    List (Except Problem String × Tree) → Reading (List Part)
  | [] => .ok []
  | (key, item) :: rest => do
    let key ← key
    match fields.find? (fun field => field.name == key) with
    | none =>
      item.skip
      readMembers fields seen rest
    | some field =>
      if seen.contains key then .error (.mismatch (.duplicateField key))
      else do
        let part ← field.read item
        let parts ← readMembers fields (key :: seen) rest
        .ok (part :: parts)

/-- The parts of a record written as an array, from a position on. Items beyond the last field are
not well-formed; a field that may not be left out makes the length wrong. -/
def readItems (record : String) (count position : Nat) (ending : Ending) :
    List (FieldReader Part) → List Tree → Reading (List Part)
  | [], [] => do
    ending.read
    .ok []
  | [], _ :: _ => .error .malformed
  | field :: fields, item :: items => do
    let part ← field.read item
    let parts ← readItems record count (position + 1) ending fields items
    .ok (part :: parts)
  | field :: fields, [] => do
    ending.read
    match (field :: fields).findIdx? (fun field => !field.mayEnd) with
    | none => .ok []
    | some missing => .error (.mismatch (.wrongLength (position + missing) record count))

/-- The parts of a record in either form. -/
def readRecord (record : String) (depth : Depth) (fields : Depth → List (FieldReader Part)) :
    Tree → Reading (List Part)
  | .object members ending =>
    Tree.enter depth fun inner => do
      let parts ← readMembers (fields inner) [] members
      ending.read
      .ok parts
  | .array items ending =>
    Tree.enter depth fun inner =>
      readItems record (fields inner).length 0 ending (fields inner) items
  | other => .error (Tree.unexpected (.record record) other)

/-- The part of a record that has to be there. -/
def require (name : String) : Option α → Reading α
  | some part => .ok part
  | none => .error (.mismatch (.missingField name))

end FieldReader

/-- Reads one of several names, as a string or as an object of one member that is null. -/
def Tree.toVariant (depth : Depth) (variants : List (String × α)) (tree : Tree) : Reading α :=
  let named (name : String) : Reading α :=
    match variants.find? (fun variant => variant.1 == name) with
    | some variant => .ok variant.2
    | none => .error (.mismatch (.unknownVariant name (variants.map Prod.fst)))
  match tree with
  | .string name => name.bind named
  | .object members ending =>
    Tree.enter depth fun _ =>
      match members, ending with
      | [], ending => do
        ending.read
        .error .malformed
      | (key, value) :: rest, ending => do
        let variant ← key.bind named
        match value with
        | .null =>
          match rest, ending with
          | [], .closed => .ok variant
          | [], .stopped reading _ => .error reading
          | _, _ => .error .malformed
        | other => .error (Tree.unexpected .nothing other)
  | .broken .nothing reading _ => .error reading
  | .broken .string reading _ => .error reading
  | _ => .error .malformed

end StackDeploy.Json
