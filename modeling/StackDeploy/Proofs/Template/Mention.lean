/-
# Names that values mention

Names are collected from a value by following its shape, with the intrinsic functions in between.
What is collected is described here by membership alone, without the order and without the shortcut
that a plain reference takes: a value mentions what its parts mention, and an object whose only
member is an intrinsic function mentions the names of that function besides.
-/

import StackDeploy.Template.Reference

namespace StackDeploy

open Json (Members Value)

namespace Reference

variable {name : String}

theorem mem_mentionedByItems_iff {items : List Value} :
    name ∈ mentionedByItems items ↔ ∃ item ∈ items, name ∈ mentioned item := by
  induction items with
  | nil => simp [mentionedByItems]
  | cons item rest ih => simp [mentionedByItems, ih]

theorem mem_mentionedByMembers_iff {members : Members} :
    name ∈ mentionedByMembers members ↔ ∃ member ∈ members, name ∈ mentioned member.2 := by
  induction members with
  | nil => simp [mentionedByMembers]
  | cons member rest ih => simp [mentionedByMembers, ih]

theorem mem_mentioned_array_iff {items : List Value} :
    name ∈ mentioned (.array items) ↔ ∃ item ∈ items, name ∈ mentioned item :=
  mem_mentionedByItems_iff

/-- The names of an object itself, apart from those of its members: it has some if its only member
is an intrinsic function. -/
def ownNames : Members → List String
  | [(key, argument)] =>
    if key = "Ref" then argument.string?.toList else intrinsicNames key argument
  | _ => []

theorem plainTarget_eq_some_iff {members : Members} {target : String} :
    plainTarget members = some target ↔ members = [("Ref", .string target)] := by
  unfold plainTarget
  split <;> simp_all

theorem ownNames_of_plainTarget_eq_none {key : String} {argument : Value}
    (other : plainTarget [(key, argument)] = none) :
    ownNames [(key, argument)] = intrinsicNames key argument := by
  show (if key = "Ref" then argument.string?.toList else intrinsicNames key argument) = _
  split
  · rename_i reference
    subst reference
    cases argument with
    | string target => cases other
    | _ => rfl
  · rfl

/-- Nothing is lost by not looking inside a plain reference, which is a text. -/
theorem mem_mentioned_object_iff {members : Members} :
    name ∈ mentioned (.object members) ↔
      name ∈ ownNames members ∨ ∃ member ∈ members, name ∈ mentioned member.2 := by
  cases plain : plainTarget members with
  | some target =>
      rw [plainTarget_eq_some_iff.1 plain]
      simp [ownNames, plainTarget, Value.string?, mentioned]
  | none =>
      match members with
      | [] => simp [mentioned, plainTarget, ownNames, mentionedByMembers]
      | [(key, argument)] =>
          rw [ownNames_of_plainTarget_eq_none plain, mentioned, plain]
          simp
      | first :: second :: rest =>
          rw [← mem_mentionedByMembers_iff, mentioned, plain]
          · simp [ownNames]
          · nofun

end Reference

namespace Resource

open Reference

/-- The references of a resource are the names that its properties mention and that count. -/
theorem mem_implicitReferences_iff {r : Resource} {name : String} :
    name ∈ r.implicitReferences.names ↔
      (∃ member ∈ r.properties, name ∈ mentioned member.2) ∧ counts name = true := by
  rw [implicitReferences, NameSet.mem_ofList, List.mem_filter, mem_mentionedByMembers_iff]

end Resource

end StackDeploy
