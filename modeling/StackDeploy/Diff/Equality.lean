/-
# Equality up to spelling

Two declarations are compared by what they say, not by how they are written: the order of keys in
an object does not count, and numbers are compared by value. Objects hold every key once, so equal
size and inclusion on one side make them the same.
-/

import StackDeploy.Template.Basic

namespace StackDeploy.Json

mutual

/-- Whether two values say the same. -/
def Value.same : Value → Value → Bool
  | .object a, .object b => a.length == b.length && Members.within a b
  | .array a, .array b => Value.sameItems a b
  | .number a, .number b => a.same b
  | .string a, .string b => a == b
  | .bool a, .bool b => a == b
  | .null, .null => true
  | _, _ => false

/-- Whether two lists have the same length and items that say the same. -/
def Value.sameItems : List Value → List Value → Bool
  | [], [] => true
  | x :: xs, y :: ys => Value.same x y && Value.sameItems xs ys
  | _, _ => false

/-- Whether every member has a counterpart that says the same. -/
def Members.within : List (String × Value) → Members → Bool
  | [], _ => true
  | (key, value) :: rest, others =>
    (match Members.get? key others with
      | some other => Value.same value other
      | none => false) && Members.within rest others

end

/-- Whether two objects say the same. -/
def Members.same (a b : Members) : Bool :=
  a.length == b.length && Members.within a b

end StackDeploy.Json

namespace StackDeploy

open Json (Value Members)

/-- Whether two optional things are both absent, or both present and the same. -/
def optionsSame {α : Type} (same : α → α → Bool) : Option α → Option α → Bool
  | some a, some b => same a b
  | none, none => true
  | _, _ => false

/-- Whether two resources declare the same. -/
def Resource.same (a b : Resource) : Bool :=
  a.type == b.type && a.dependsOn == b.dependsOn && a.condition == b.condition &&
    a.deletionPolicy == b.deletionPolicy && a.updateReplacePolicy == b.updateReplacePolicy &&
    Members.same a.properties b.properties

/-- Whether two parameters declare the same. -/
def Parameter.same (a b : Parameter) : Bool :=
  a.type == b.type && a.description == b.description && a.noEcho == b.noEcho &&
    optionsSame Value.same a.default b.default && Value.sameItems a.allowedValues b.allowedValues

/-- Whether two outputs declare the same. -/
def Output.same (a b : Output) : Bool :=
  a.description == b.description && Value.same a.value b.value &&
    optionsSame Value.same a.exportName b.exportName

end StackDeploy
