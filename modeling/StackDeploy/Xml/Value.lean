/-
# Values of XML documents

A document becomes a dynamic value, so that answers in XML and in JSON are looked into alike. An
element without children is its text. An element with children is an object: the keys are the names
of the children in the order of their first occurrence, and a name that occurs more than once has
the array of its values. The roots of a document are grouped in the same way.
-/

import StackDeploy.Json.Value
import StackDeploy.Xml.Element

namespace StackDeploy.Xml

open Json (Value Members)

/-- Files a value under its name, behind the values that are there. -/
def file (name : String) (value : Value) :
    List (String × List Value) → List (String × List Value)
  | [] => [(name, [value])]
  | (other, values) :: rest =>
    if other = name then (other, values ++ [value]) :: rest
    else (other, values) :: file name value rest

/-- The values under each name, names in the order of their first occurrence. -/
def groups (children : List (String × Value)) : List (String × List Value) :=
  children.foldl (fun filed child => file child.1 child.2 filed) []

/-- The value of a group: the only one, or an array of all. -/
def collapse : List Value → Value
  | [value] => value
  | values => .array values

/-- The object of named values. -/
def objectOf (children : List (String × Value)) : Value :=
  .object ((groups children).map fun group => (group.1, collapse group.2))

mutual

/-- The value of an element. -/
def Element.toValue : Element → Value
  | .node _ text [] => .string text
  | .node _ _ (first :: rest) => objectOf (Element.toMembers (first :: rest))

/-- The names of elements with their values. -/
def Element.toMembers : List Element → List (String × Value)
  | [] => []
  | element :: rest =>
    match element with
    | .node name text children =>
      (name, Element.toValue (.node name text children)) :: Element.toMembers rest

end

/-- The value of a document. -/
def valueOfText (text : String) : Except XmlError Value :=
  (Element.ofText text).map fun roots => objectOf (Element.toMembers roots)

end StackDeploy.Xml
