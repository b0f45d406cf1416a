/-
# Expressions

What the properties of a resource say is an expression: scalars, lists and objects, and the three
intrinsic functions, which refer to other declarations by their names. An expression mentions the
names of its references and attributes and those that its texts have placeholders for, except that a
text does not mention the names that its own variables bind; the values of the variables count. The
references that are collected from a rendered resource are exactly the names that its expressions
mention, at any depth, if every placeholder of a text ends with its own segment. Without this a
placeholder may hide another one in its attribute, and the hidden one counts as well.
-/

import StackDeploy.Proofs.Template.Mention
import StackDeploy.Proofs.Template.Substitution

namespace StackDeploy

open Json (Members Number Value)
open Reference

/-- An expression in the properties of a resource. -/
inductive Expression where
  | null
  | bool (value : Bool)
  | number (value : Number)
  | string (value : String)
  | list (items : List Expression)
  | object (members : List (String × Expression))
  | reference (target : String)
  | attributeOf (target : String) (argument : Expression)
  | dotted (target attr : String)
  | text (segments : List Segment)
  | boundText (segments : List Segment) (bound : List (String × Expression))

namespace Expression

mutual

/-- The value that an expression is written as. -/
def toValue : Expression → Value
  | .null => .null
  | .bool value => .bool value
  | .number value => .number value
  | .string value => .string value
  | .list items => .array (toValues items)
  | .object members => .object (toMembers members)
  | .reference target => .object [("Ref", .string target)]
  | .attributeOf target argument =>
    .object [("Fn::GetAtt", .array [.string target, toValue argument])]
  | .dotted target attr => .object [("Fn::GetAtt", .string (target ++ "." ++ attr))]
  | .text segments => .object [("Fn::Sub", .string (spell segments))]
  | .boundText segments bound =>
    .object [("Fn::Sub", .array [.string (spell segments), .object (toMembers bound)])]

/-- The values of a list of expressions. -/
def toValues : List Expression → List Value
  | [] => []
  | item :: rest => toValue item :: toValues rest

/-- The members with the values of named expressions. -/
def toMembers : List (String × Expression) → Members
  | [] => []
  | (key, value) :: rest => (key, toValue value) :: toMembers rest

end

/-- The names that an expression mentions. -/
inductive Mentions : Expression → String → Prop
  | item {items : List Expression} {item : Expression} {name : String} : item ∈ items →
      item.Mentions name → (list items).Mentions name
  | member {members : List (String × Expression)} {member : String × Expression} {name : String} :
      member ∈ members → member.2.Mentions name → (object members).Mentions name
  | reference {target : String} : (reference target).Mentions target
  | attributeOf {target : String} {argument : Expression} :
      (attributeOf target argument).Mentions target
  | argument {target name : String} {argument : Expression} : argument.Mentions name →
      (attributeOf target argument).Mentions name
  | dotted {target attr : String} : (dotted target attr).Mentions target
  | placeholder {segments : List Segment} {label : String} {attr : Option String} :
      .placeholder label attr ∈ segments → (text segments).Mentions (Text.trim label)
  | unbound {segments : List Segment} {bound : List (String × Expression)} {label : String}
      {attr : Option String} : .placeholder label attr ∈ segments →
        Text.trim label ∉ bound.map Prod.fst →
          (boundText segments bound).Mentions (Text.trim label)
  | value {segments : List Segment} {bound : List (String × Expression)}
      {member : String × Expression} {name : String} : member ∈ bound → member.2.Mentions name →
        (boundText segments bound).Mentions name

/-- Members that are no intrinsic function: there is not one alone with the key of a function. -/
def IsPlain (members : List (String × Expression)) : Prop :=
  ∀ key value, members = [(key, value)] → key ∉ ["Ref", "Fn::GetAtt", "Fn::Sub"]

/-- An expression that is built from texts of a kind, in which a target that is written before a
point has none itself, and objects and variables are not functions by accident. -/
inductive IsBuilt (IsSpelled : List Segment → Prop) : Expression → Prop
  | null : IsBuilt IsSpelled .null
  | bool (value : Bool) : IsBuilt IsSpelled (.bool value)
  | number (value : Number) : IsBuilt IsSpelled (.number value)
  | string (value : String) : IsBuilt IsSpelled (.string value)
  | list {items : List Expression} : (∀ item ∈ items, IsBuilt IsSpelled item) →
      IsBuilt IsSpelled (.list items)
  | object {members : List (String × Expression)} : IsPlain members →
      (∀ member ∈ members, IsBuilt IsSpelled member.2) → IsBuilt IsSpelled (.object members)
  | reference (target : String) : IsBuilt IsSpelled (.reference target)
  | attributeOf (target : String) {argument : Expression} : IsBuilt IsSpelled argument →
      IsBuilt IsSpelled (.attributeOf target argument)
  | dotted {target : String} (attr : String) : '.' ∉ target.toList →
      IsBuilt IsSpelled (.dotted target attr)
  | text {segments : List Segment} : IsSpelled segments → IsBuilt IsSpelled (.text segments)
  | boundText {segments : List Segment} {bound : List (String × Expression)} :
      IsSpelled segments → IsPlain bound → (∀ member ∈ bound, IsBuilt IsSpelled member.2) →
        IsBuilt IsSpelled (.boundText segments bound)

/-! ## What is written mentions the same names -/

variable {name : String}

theorem toValues_eq_map (items : List Expression) : toValues items = items.map toValue := by
  induction items with
  | nil => rfl
  | cons item rest ih => rw [toValues, ih, List.map_cons]

theorem toMembers_eq_map (members : List (String × Expression)) :
    toMembers members = members.map fun member => (member.1, member.2.toValue) := by
  induction members with
  | nil => rfl
  | cons member rest ih => rw [toMembers, ih, List.map_cons]

theorem exists_mem_toMembers_iff {members : List (String × Expression)} {P : Value → Prop} :
    (∃ member ∈ toMembers members, P member.2) ↔ ∃ member ∈ members, P member.2.toValue := by
  rw [toMembers_eq_map]
  simp only [List.mem_map, exists_exists_and_eq_and]

theorem get?_toMembers_isNone_iff {members : List (String × Expression)} {key : String} :
    (Members.get? key (toMembers members)).isNone = true ↔ key ∉ members.map Prod.fst := by
  induction members with
  | nil => simp [toMembers, Members.get?]
  | cons member rest ih =>
      rw [toMembers, Members.get?, List.map_cons, List.mem_cons, not_or]
      by_cases here : member.1 = key
      · simp [here]
      · rw [if_neg here, ih]
        simp [Ne.symm here]

theorem mem_names_iff {segments : List Segment} :
    name ∈ segments.filterMap Segment.name? ↔
      ∃ label attr, .placeholder label attr ∈ segments ∧ Text.trim label = name := by
  rw [List.mem_filterMap]
  constructor
  · rintro ⟨segment, mem, named⟩
    cases segment with
    | placeholder label attr => exact ⟨label, attr, mem, Option.some.inj named⟩
    | _ => cases named
  · rintro ⟨label, attr, mem, rfl⟩
    exact ⟨_, mem, rfl⟩

theorem ownNames_toMembers_of_isPlain {members : List (String × Expression)}
    (plain : IsPlain members) : ownNames (toMembers members) = [] := by
  match members with
  | [] | _ :: _ :: _ => rfl
  | [(key, value)] =>
      have other := plain key value rfl
      simp only [List.mem_cons, List.not_mem_nil, or_false, not_or] at other
      rw [toMembers, toMembers, ownNames, if_neg other.1, intrinsicNames, if_neg other.2.1,
        if_neg other.2.2]

theorem mem_mentioned_plain_iff {members : List (String × Expression)} (plain : IsPlain members) :
    name ∈ mentioned (.object (toMembers members)) ↔
      ∃ member ∈ members, name ∈ mentioned member.2.toValue := by
  rw [mem_mentioned_object_iff, ownNames_toMembers_of_isPlain plain,
    exists_mem_toMembers_iff (P := fun value => name ∈ mentioned value)]
  exact or_iff_right List.not_mem_nil

/-- An object that is one of the functions mentions the names of the function and what its argument
mentions. -/
theorem mem_mentioned_function_iff {key : String} {argument : Value} (other : key ≠ "Ref") :
    name ∈ mentioned (.object [(key, argument)]) ↔
      name ∈ intrinsicNames key argument ∨ name ∈ mentioned argument := by
  rw [mem_mentioned_object_iff, ownNames, if_neg other]
  simp

theorem attributeTarget_dotted {target attr : String} (noPoint : '.' ∉ target.toList) :
    attributeTarget (.string (target ++ "." ++ attr)) = some target := by
  have written : (target ++ "." ++ attr).toList = target.toList ++ '.' :: attr.toList := by simp
  rw [attributeTarget, written, Text.cutFirst_append noPoint]
  simp

theorem substitutionNames_bound {text : String} {bound : Members} :
    substitutionNames (.array [.string text, .object bound]) =
      (namesInText text).filter fun name => (Members.get? name bound).isNone :=
  rfl

theorem mentions_list_iff {items : List Expression} :
    (list items).Mentions name ↔ ∃ item ∈ items, item.Mentions name := by
  constructor
  · rintro ⟨mem, mentions⟩
    exact ⟨_, mem, mentions⟩
  · rintro ⟨_, mem, mentions⟩
    exact .item mem mentions

theorem mentions_object_iff {members : List (String × Expression)} :
    (object members).Mentions name ↔ ∃ member ∈ members, member.2.Mentions name := by
  constructor
  · rintro (_ | ⟨mem, mentions⟩)
    exact ⟨_, mem, mentions⟩
  · rintro ⟨_, mem, mentions⟩
    exact .member mem mentions

theorem mentions_attributeOf_iff {target : String} {argument : Expression} :
    (attributeOf target argument).Mentions name ↔ name = target ∨ argument.Mentions name := by
  constructor
  · intro mentions
    cases mentions with
    | attributeOf => exact Or.inl rfl
    | argument mentions => exact Or.inr mentions
  · rintro (rfl | mentions)
    · exact .attributeOf
    · exact .argument mentions

theorem mentions_text_iff {segments : List Segment} :
    (text segments).Mentions name ↔ name ∈ segments.filterMap Segment.name? := by
  rw [mem_names_iff]
  constructor
  · intro mentions
    cases mentions with
    | placeholder mem => exact ⟨_, _, mem, rfl⟩
  · rintro ⟨label, attr, mem, rfl⟩
    exact .placeholder mem

theorem mentions_boundText_iff {segments : List Segment} {bound : List (String × Expression)} :
    (boundText segments bound).Mentions name ↔
      (name ∈ segments.filterMap Segment.name? ∧ name ∉ bound.map Prod.fst) ∨
        ∃ member ∈ bound, member.2.Mentions name := by
  rw [mem_names_iff]
  constructor
  · intro mentions
    cases mentions with
    | unbound mem free => exact Or.inl ⟨⟨_, _, mem, rfl⟩, free⟩
    | value mem mentions => exact Or.inr ⟨_, mem, mentions⟩
  · rintro (⟨⟨label, attr, mem, rfl⟩, free⟩ | ⟨_, mem, mentions⟩)
    · exact .unbound mem free
    · exact .value mem mentions

/-- The value of an expression mentions what the expression does. -/
theorem mem_mentioned_toValue_iff {e : Expression} (built : e.IsBuilt IsClosedText) :
    name ∈ mentioned e.toValue ↔ e.Mentions name := by
  induction built with
  | null | bool | number | string => exact iff_of_false List.not_mem_nil nofun
  | list _ ih =>
      rw [toValue, mem_mentioned_array_iff, mentions_list_iff, toValues_eq_map]
      simp only [List.mem_map, exists_exists_and_eq_and]
      exact exists_congr fun item => and_congr_right fun mem => ih item mem
  | object plain _ ih =>
      rw [toValue, mem_mentioned_plain_iff plain, mentions_object_iff]
      exact exists_congr fun member => and_congr_right fun mem => ih member mem
  | reference target =>
      refine List.mem_singleton.trans ⟨?_, ?_⟩
      · rintro rfl
        exact .reference
      · rintro ⟨⟩
        rfl
  | attributeOf target _ ih =>
      rw [toValue, mem_mentioned_function_iff (by decide), mem_mentioned_array_iff,
        mentions_attributeOf_iff, ← ih]
      simp [intrinsicNames, attributeTarget, mentioned]
  | dotted attr noPoint =>
      rw [toValue, mem_mentioned_function_iff (by decide), intrinsicNames, if_pos rfl,
        attributeTarget_dotted noPoint]
      refine (or_iff_left List.not_mem_nil).trans (Option.mem_toList.trans ⟨?_, ?_⟩)
      · rintro ⟨⟩
        exact .dotted
      · rintro ⟨⟩
        rfl
  | text spelled =>
      rw [toValue, mem_mentioned_function_iff (by decide), mentions_text_iff,
        ← namesInText_spell spelled]
      exact or_iff_left List.not_mem_nil
  | @boundText segments bound spelled plain _ ih =>
      rw [toValue, mem_mentioned_function_iff (by decide), mentions_boundText_iff,
        ← namesInText_spell spelled]
      refine or_congr ?own ?values
      case own =>
        rw [intrinsicNames, if_neg (by decide), if_pos rfl, substitutionNames_bound,
          List.mem_filter, get?_toMembers_isNone_iff]
      case values =>
        rw [mem_mentioned_array_iff]
        simp only [List.mem_cons, List.not_mem_nil, or_false, exists_eq_or_imp, exists_eq_left]
        rw [mem_mentioned_plain_iff plain]
        refine (or_iff_right List.not_mem_nil).trans ?_
        exact exists_congr fun member => and_congr_right fun mem => ih member mem

/-! ## The references of a resource -/

theorem counts_iff : counts name = true ↔ name ≠ "" ∧ ¬ "AWS::".toList <+: name.toList := by
  rw [counts, isPseudoParameter, Text.startsWith, Bool.and_eq_true, decide_eq_true_eq,
    Bool.not_eq_true', ← Bool.not_eq_true, List.isPrefixOf_iff_prefix]

/-- The references of a resource whose properties are written from expressions are the names that
the expressions mention, without the empty name and the names of the provider's own namespace. The
placeholders of every text end with their own segments. -/
theorem references_are_mentioned_names (r : Resource) (properties : List (String × Expression))
    (built : ∀ property ∈ properties, property.2.IsBuilt IsClosedText) (name : String) :
    name ∈ { r with properties := toMembers properties }.implicitReferences.names ↔
      (∃ property ∈ properties, property.2.Mentions name) ∧ name ≠ "" ∧
        ¬ "AWS::".toList <+: name.toList := by
  rw [Resource.mem_implicitReferences_iff, counts_iff,
    exists_mem_toMembers_iff (P := fun value => name ∈ mentioned value)]
  refine and_congr_left fun _ => exists_congr fun property => and_congr_right fun mem => ?_
  exact mem_mentioned_toValue_iff (built property mem)

/-- A queue with one property. -/
def queueWith (property : String) (e : Expression) : Resource :=
  ⟨"AWS::SQS::Queue", toMembers [(property, e)], .empty, none, .delete, none⟩

/-- A text that binds the name Local refers to it all the same in the value of the variable,
besides a disk and a role. The region that it mentions is no reference. -/
theorem bound_name_is_mentioned_in_value :
    let text : Expression := .boundText
      [.literal "$", .placeholder " Local " none, .escape "Role", .literal ": ",
        .placeholder "Role" (some "Arn"), .placeholder "AWS::Region" none]
      [("Local", .list [.reference "Local", .attributeOf "Disk" (.string "Id")])]
    let found := (queueWith "Name" text).implicitReferences.names
    text.IsBuilt IsClosedText ∧ "Local" ∈ found ∧ "Disk" ∈ found ∧ "Role" ∈ found ∧
      text.Mentions "AWS::Region" ∧ "AWS::Region" ∉ found := by
  intro text found
  have built : text.IsBuilt IsClosedText := by
    refine .boundText ⟨⟨?writable, by decide⟩, ?closes⟩ ?plain ?values
    case writable =>
      simp only [List.forall_mem_cons, List.not_mem_nil, IsEmpty.forall_iff, implies_true, and_true]
      exact ⟨.literal (by decide), .placeholder (by decide) (by decide) (by decide) (by decide),
        .escape (by decide), .literal (by decide),
        .placeholder (by decide) (by decide) (by decide) (by decide),
        .placeholder (by decide) (by decide) (by decide) (by decide)⟩
    case closes =>
      simp only [List.forall_mem_cons, List.not_mem_nil, IsEmpty.forall_iff, implies_true, and_true]
      exact ⟨trivial, trivial, trivial, trivial, Segment.closes_of_notMem (by decide), trivial⟩
    case plain =>
      rintro key value ⟨⟩
      decide
    case values =>
      rw [List.forall_mem_singleton]
      refine .list ?_
      rw [List.forall_mem_cons, List.forall_mem_singleton]
      exact ⟨.reference _, .attributeOf _ (.string _)⟩
  have collected (name : String) :=
    references_are_mentioned_names (queueWith "Name" text) [("Name", text)]
      (by rwa [List.forall_mem_singleton]) name
  have mentioned (name : String) (mentions : text.Mentions name) :
      ∃ property ∈ [("Name", text)], property.2.Mentions name :=
    ⟨_, List.mem_cons_self, mentions⟩
  refine ⟨built, (collected "Local").2 ⟨mentioned _ ?_, by decide, by decide⟩,
    (collected "Disk").2 ⟨mentioned _ ?_, by decide, by decide⟩,
    (collected "Role").2 ⟨mentioned _ ?_, by decide, by decide⟩, ?_, fun inside => ?_⟩
  · exact .value List.mem_cons_self (.item List.mem_cons_self .reference)
  · exact .value List.mem_cons_self (.item (List.mem_cons_of_mem _ List.mem_cons_self) .attributeOf)
  · exact mentions_boundText_iff.2 (Or.inl (by decide))
  · exact mentions_boundText_iff.2 (Or.inl (by decide))
  · exact ((collected "AWS::Region").1 inside).2.2 (by decide)

/-- An attribute with a closing brace ends its placeholder early, and a placeholder that opens in
the rest of it is collected too, though the text does not mention its name. -/
theorem placeholder_hidden_in_attribute_is_collected :
    let text : Expression := .text [.placeholder "Queue" (some "Arn\x7d-$\x7bOther")]
    text.IsBuilt IsText ∧ ¬ text.Mentions "Other" ∧
      "Other" ∈ (queueWith "Name" text).implicitReferences.names := by
  intro text
  refine ⟨.text ⟨?_, by decide⟩, ?_, by decide⟩
  · rw [List.forall_mem_singleton]
    exact .placeholder (by decide) (by decide) (by decide) (by decide)
  · rw [mentions_text_iff]
    decide

end Expression

end StackDeploy
