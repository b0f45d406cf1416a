/-
# References inside properties

The properties of a resource refer to other declarations by three intrinsic functions, each written
as an object with one member: a plain reference, an attribute of a resource, and a text with
placeholders. The names are collected at every depth. Pseudo parameters, whose names start with the
provider's own namespace, and empty names are no references; names bound by the variables of a text
are none either.
-/

import StackDeploy.Template.Basic
import StackDeploy.Text.Blank

namespace StackDeploy

open Json (Value Members)

/-- Whether a name is one that the provider defines, such as the current region. -/
def isPseudoParameter (name : String) : Bool :=
  Text.startsWith name "AWS::"

namespace Reference

/-- The contents of the placeholders of a text, in order. Inside a placeholder the characters read
so far are carried in reverse; one that is never closed counts for nothing. -/
def placeholders : Option (List Char) → List Char → List (List Char)
  | _, [] => []
  | none, '$' :: '\x7b' :: rest => placeholders (some []) rest
  | none, _ :: rest => placeholders none rest
  | some seen, '\x7d' :: rest => seen.reverse :: placeholders none rest
  | some seen, c :: rest => placeholders (some (c :: seen)) rest

/-- The name in a placeholder: what stands before the first point, without blanks around it. A
literal, marked by an exclamation mark, and a blank name give none. -/
def placeholderName (content : List Char) : Option String :=
  match content with
  | '!' :: _ => none
  | content =>
    let name := Text.trimChars (((Text.cutFirst '.' content).map Prod.fst).getD content)
    if name.isEmpty then none else some (String.ofList name)

/-- The names in the placeholders of a text. -/
def namesInText (text : String) : List String :=
  (placeholders none text.toList).filterMap placeholderName

/-- The resource whose attribute is meant: the first of a list, or what stands before the point. -/
def attributeTarget : Value → Option String
  | .array (.string target :: _) => some target
  | .string dotted => (Text.cutFirst '.' dotted.toList).map fun parts => String.ofList parts.1
  | _ => none

/-- The names in a text with placeholders, without those that its own variables bind. -/
def substitutionNames : Value → List String
  | .string text => namesInText text
  | .array (.string text :: rest) =>
    match rest with
    | .object bound :: _ =>
      (namesInText text).filter fun name => (Members.get? name bound).isNone
    | _ => namesInText text
  | _ => []

/-- The names of an object with one member that is an intrinsic function. -/
def intrinsicNames (key : String) (argument : Value) : List String :=
  if key = "Fn::GetAtt" then (attributeTarget argument).toList
  else if key = "Fn::Sub" then substitutionNames argument
  else []

/-- The name of a plain reference. -/
def plainTarget : Members → Option String
  | [("Ref", .string target)] => some target
  | _ => none

mutual

/-- All names that a value mentions, whether they count as references or not. -/
def mentioned : Value → List String
  | .object members =>
    match plainTarget members with
    | some target => [target]
    | none =>
      match members with
      | [(key, argument)] => intrinsicNames key argument ++ mentioned argument
      | members => mentionedByMembers members
  | .array items => mentionedByItems items
  | _ => []

/-- All names that the items of a list mention. -/
def mentionedByItems : List Value → List String
  | [] => []
  | item :: rest => mentioned item ++ mentionedByItems rest

/-- All names that the members of an object mention. -/
def mentionedByMembers : List (String × Value) → List String
  | [] => []
  | (_, value) :: rest => mentioned value ++ mentionedByMembers rest

end

/-- Whether a mentioned name counts as a reference. -/
def counts (name : String) : Bool :=
  name ≠ "" && !isPseudoParameter name

end Reference

/-- The names of other declarations that the properties of a resource refer to. -/
def Resource.implicitReferences (r : Resource) : NameSet :=
  NameSet.ofList ((Reference.mentionedByMembers r.properties).filter Reference.counts)

end StackDeploy
