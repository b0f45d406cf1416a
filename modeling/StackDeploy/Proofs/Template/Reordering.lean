/-
# Templates whose keys stand in another order

Every record of a template ignores the order of its keys: each of its fields does, and a field is
stated once. What counts as an agreement differs from field to field. Names, flags and policies are
the same; dynamic values, and the sections and declarations around them, say the same as the
comparison of revisions understands it. So two texts of a template that differ in the order of keys
only are read as templates that say the same.
-/

import StackDeploy.Proofs.Diff.Partition
import StackDeploy.Proofs.Json.RecordReordering

namespace StackDeploy

open Json Json.Tree Json.FieldReader

section

variable {α : Type}

theorem eq_of_rel_eq {a b : Option α} (rel : Option.Rel Eq a b) : a = b := by
  cases rel with
  | none => rfl
  | some same => rw [same]

/-- What is refilled agrees if what is found does. -/
theorem getD_of_rel {R : α → α → Prop} {a b : Option α} {default : α} (refl : R default default)
    (rel : Option.Rel R a b) : R (a.getD default) (b.getD default) := by
  cases rel with
  | none => exact refl
  | some agree => exact agree

theorem optionsSame_join {same : α → α → Bool} {a b : Option (Option α)}
    (rel : Option.Rel (fun x y => optionsSame same x y = true) a b) :
    optionsSame same a.join b.join = true := by
  cases rel with
  | none => rfl
  | some agree => exact agree

end

theorem NameMap.ofTree_ignoresOrder {α : Type} {same : α → α → Bool}
    {reader : Depth → Tree → Reading α}
    (ignores : ∀ inner, IgnoresOrder (reader inner) fun a b => same a b = true) (depth : Depth) :
    IgnoresOrder (NameMap.ofTree depth reader) fun m n => NameMap.sameBy same m n = true :=
  (toEntries_ignoresOrder ignores depth).map fun _ _ => Rearranged.sameBy_ofList

private theorem namesOfValues_of_sameItems {items items' : List Value} {names : List String}
    (same : Value.sameItems items items' = true) (listed : namesOfValues items = some names) :
    namesOfValues items' = some names := by
  induction items generalizing items' names with
  | nil =>
      cases items' with
      | nil => exact listed
      | cons => cases same
  | cons item rest ih =>
      cases items' with
      | nil => cases same
      | cons item' rest' =>
          rw [Value.sameItems, Bool.and_eq_true] at same
          cases item with
          | string name =>
              cases item' with
              | string name' =>
                  have same_name : name = name' := beq_iff_eq.1 same.1
                  obtain ⟨later, listed_later, rfl⟩ := Option.map_eq_some_iff.1 listed
                  rw [namesOfValues, ih same.2 listed_later, ← same_name]
                  rfl
              | _ => cases same.1
          | _ => cases listed

/-- A dependency list has no keys, so it is read as the same set. -/
theorem NameSet.ofTree_ignoresOrder (depth : Depth) :
    IgnoresOrder (NameSet.ofTree depth) Eq := by
  intro tree tree' names reordered once read
  obtain ⟨v, readValue, made⟩ := ok_of_bind read
  obtain ⟨v', readValue', same⟩ := toValue_ignoresOrder depth reordered once readValue
  refine ⟨names, ?_, rfl⟩
  rw [NameSet.ofTree, readValue']
  cases v with
  | string name =>
      cases v' with
      | string name' =>
          have same_name : name = name' := beq_iff_eq.1 same
          exact same_name ▸ made
      | _ => cases same
  | array items =>
      cases v' with
      | array items' =>
          dsimp only at made
          dsimp only [bind, Except.bind]
          split at made
          · next listed =>
              rw [namesOfValues_of_sameItems same listed]
              exact made
          · cases made
      | _ => cases same
  | _ => cases made

theorem DeletionPolicy.ofTree_ignoresOrder (depth : Depth) :
    IgnoresOrder (DeletionPolicy.ofTree depth) Eq :=
  toVariant_ignoresOrder depth _

/-- The field that a part of a resource states. -/
def ResourcePart.field : ResourcePart → String
  | .type _ => "Type"
  | .properties _ => "Properties"
  | .dependsOn _ => "DependsOn"
  | .condition _ => "Condition"
  | .deletionPolicy _ => "DeletionPolicy"
  | .updateReplacePolicy _ => "UpdateReplacePolicy"

/-- Two parts of resources are the same, but for the order of keys inside the properties. -/
inductive ResourcePart.Agrees : ResourcePart → ResourcePart → Prop
  | type (name : String) : Agrees (.type name) (.type name)
  | properties {a b : Members} : Members.same a b = true → Agrees (.properties a) (.properties b)
  | dependsOn (names : NameSet) : Agrees (.dependsOn names) (.dependsOn names)
  | condition (name : Option String) : Agrees (.condition name) (.condition name)
  | deletionPolicy (policy : DeletionPolicy) :
      Agrees (.deletionPolicy policy) (.deletionPolicy policy)
  | updateReplacePolicy (policy : Option DeletionPolicy) :
      Agrees (.updateReplacePolicy policy) (.updateReplacePolicy policy)

namespace Resource

theorem steady_fields (depth : Depth) :
    ∀ field ∈ fields depth, field.Steady ResourcePart.field ResourcePart.Agrees := by
  simp only [fields, List.forall_mem_cons, List.not_mem_nil, IsEmpty.forall_iff, implies_true,
    and_true]
  refine ⟨?type, ?properties, ?dependsOn, ?condition, ?deletionPolicy, ?updateReplacePolicy⟩
  case type => exact .of_map toText_ignoresOrder (fun _ _ same => same ▸ .type _) fun _ => rfl
  case properties =>
    exact .of_map (Members.ofTree_ignoresOrder depth) (fun _ _ => .properties) fun _ => rfl
  case dependsOn =>
    exact .of_map (NameSet.ofTree_ignoresOrder depth) (fun _ _ same => same ▸ .dependsOn _)
      fun _ => rfl
  case condition =>
    exact .of_map (toOption_ignoresOrder toText_ignoresOrder)
      (fun _ _ same => eq_of_rel_eq same ▸ .condition _) fun _ => rfl
  case deletionPolicy =>
    exact .of_map (DeletionPolicy.ofTree_ignoresOrder depth)
      (fun _ _ same => same ▸ .deletionPolicy _) fun _ => rfl
  case updateReplacePolicy =>
    exact .of_map (toOption_ignoresOrder (DeletionPolicy.ofTree_ignoresOrder depth))
      (fun _ _ same => eq_of_rel_eq same ▸ .updateReplacePolicy _) fun _ => rfl

/-- A resource is made of rearranged parts as of the parts themselves. -/
theorem ofParts_rearranged {parts parts' : List ResourcePart} {r : Resource}
    (rearranged : Rearranged ResourcePart.field ResourcePart.Agrees parts parts')
    (made : ofParts parts = .ok r) : ∃ r', ofParts parts' = .ok r' ∧ Resource.same r r' = true := by
  obtain ⟨type, required, made⟩ := ok_of_bind made
  cases made
  obtain ⟨_, found, rfl⟩ := rearranged.exists_findSome?_eq_some (R := Eq)
    (eq_some_of_require required) "Type" (by rintro ⟨⟩ <;> simp [ResourcePart.field])
    (by rintro _ _ ⟨⟩ <;> simp)
  refine ⟨_, by rw [ofParts, found]; rfl, ?_⟩
  simp only [Resource.same, Bool.and_eq_true, beq_iff_eq, true_and]
  refine ⟨⟨⟨⟨?targets, ?guard⟩, ?deletion⟩, ?replacement⟩, ?content⟩
  case targets =>
    exact getD_of_rel rfl (rearranged.findSome? "DependsOn"
      (by rintro ⟨⟩ <;> simp [ResourcePart.field]) (by rintro _ _ ⟨⟩ <;> simp))
  case guard =>
    exact congrArg Option.join (eq_of_rel_eq (rearranged.findSome? "Condition"
      (by rintro ⟨⟩ <;> simp [ResourcePart.field]) (by rintro _ _ ⟨⟩ <;> simp)))
  case deletion =>
    exact getD_of_rel rfl (rearranged.findSome? "DeletionPolicy"
      (by rintro ⟨⟩ <;> simp [ResourcePart.field]) (by rintro _ _ ⟨⟩ <;> simp))
  case replacement =>
    exact congrArg Option.join (eq_of_rel_eq (rearranged.findSome? "UpdateReplacePolicy"
      (by rintro ⟨⟩ <;> simp [ResourcePart.field]) (by rintro _ _ ⟨⟩ <;> simp)))
  case content =>
    exact getD_of_rel (R := fun a b => Members.same a b = true) rfl
      (rearranged.findSome? "Properties" (by rintro ⟨⟩ <;> simp [ResourcePart.field])
        (by rintro _ _ ⟨⟩ <;> simp [*]))

theorem ofTree_ignoresOrder (depth : Depth) :
    IgnoresOrder (Resource.ofTree depth) fun r r' => Resource.same r r' = true := by
  intro tree tree' r reordered once read
  obtain ⟨parts, readParts, made⟩ := ok_of_exceptBind read
  obtain ⟨parts', readParts', rearranged⟩ := readRecord_ignoresOrder steady_fields
    (fun _ => by simp [fields]) depth reordered once readParts
  obtain ⟨r', made', same⟩ := ofParts_rearranged rearranged made
  exact ⟨r', by rw [Resource.ofTree, readParts']; exact made', same⟩

end Resource

/-- The field that a part of a parameter states. -/
def ParameterPart.field : ParameterPart → String
  | .type _ => "Type"
  | .default _ => "Default"
  | .description _ => "Description"
  | .allowedValues _ => "AllowedValues"
  | .noEcho _ => "NoEcho"

/-- Two parts of parameters are the same, but for the order of keys inside dynamic values. -/
inductive ParameterPart.Agrees : ParameterPart → ParameterPart → Prop
  | type (name : String) : Agrees (.type name) (.type name)
  | default {a b : Option Value} : optionsSame Value.same a b = true →
      Agrees (.default a) (.default b)
  | description (text : Option String) : Agrees (.description text) (.description text)
  | allowedValues {xs ys : List Value} : Value.sameItems xs ys = true →
      Agrees (.allowedValues xs) (.allowedValues ys)
  | noEcho (flag : Bool) : Agrees (.noEcho flag) (.noEcho flag)

namespace Parameter

theorem steady_fields (depth : Depth) :
    ∀ field ∈ fields depth, field.Steady ParameterPart.field ParameterPart.Agrees := by
  simp only [fields, List.forall_mem_cons, List.not_mem_nil, IsEmpty.forall_iff, implies_true,
    and_true]
  refine ⟨?type, ?default, ?description, ?allowedValues, ?noEcho⟩
  case type => exact .of_map toText_ignoresOrder (fun _ _ same => same ▸ .type _) fun _ => rfl
  case default =>
    exact .of_map (toOption_ignoresOrder (toValue_ignoresOrder depth))
      (fun _ _ agree => .default (optionsSame_iff_rel.2 agree)) fun _ => rfl
  case description =>
    exact .of_map (toOption_ignoresOrder toText_ignoresOrder)
      (fun _ _ same => eq_of_rel_eq same ▸ .description _) fun _ => rfl
  case allowedValues =>
    exact .of_map (toList_ignoresOrder toValue_ignoresOrder depth)
      (fun _ _ agree => .allowedValues (Value.sameItems_iff_forall₂.2 agree)) fun _ => rfl
  case noEcho => exact .of_map toFlag_ignoresOrder (fun _ _ same => same ▸ .noEcho _) fun _ => rfl

/-- A parameter is made of rearranged parts as of the parts themselves. -/
theorem ofParts_rearranged {parts parts' : List ParameterPart} {p : Parameter}
    (rearranged : Rearranged ParameterPart.field ParameterPart.Agrees parts parts')
    (made : ofParts parts = .ok p) :
    ∃ p', ofParts parts' = .ok p' ∧ Parameter.same p p' = true := by
  obtain ⟨type, required, made⟩ := ok_of_bind made
  cases made
  obtain ⟨_, found, rfl⟩ := rearranged.exists_findSome?_eq_some (R := Eq)
    (eq_some_of_require required) "Type" (by rintro ⟨⟩ <;> simp [ParameterPart.field])
    (by rintro _ _ ⟨⟩ <;> simp)
  refine ⟨_, by rw [ofParts, found]; rfl, ?_⟩
  simp only [Parameter.same, Bool.and_eq_true, beq_iff_eq, true_and]
  refine ⟨⟨⟨?remark, ?hidden⟩, ?fallback⟩, ?choices⟩
  case remark =>
    exact congrArg Option.join (eq_of_rel_eq (rearranged.findSome? "Description"
      (by rintro ⟨⟩ <;> simp [ParameterPart.field]) (by rintro _ _ ⟨⟩ <;> simp)))
  case hidden =>
    exact getD_of_rel rfl (rearranged.findSome? "NoEcho"
      (by rintro ⟨⟩ <;> simp [ParameterPart.field]) (by rintro _ _ ⟨⟩ <;> simp))
  case fallback =>
    exact optionsSame_join (rearranged.findSome? "Default"
      (by rintro ⟨⟩ <;> simp [ParameterPart.field]) (by rintro _ _ ⟨⟩ <;> simp [*]))
  case choices =>
    exact getD_of_rel (R := fun xs ys => Value.sameItems xs ys = true) rfl
      (rearranged.findSome? "AllowedValues" (by rintro ⟨⟩ <;> simp [ParameterPart.field])
        (by rintro _ _ ⟨⟩ <;> simp [*]))

theorem ofTree_ignoresOrder (depth : Depth) :
    IgnoresOrder (Parameter.ofTree depth) fun p p' => Parameter.same p p' = true := by
  intro tree tree' p reordered once read
  obtain ⟨parts, readParts, made⟩ := ok_of_exceptBind read
  obtain ⟨parts', readParts', rearranged⟩ := readRecord_ignoresOrder steady_fields
    (fun _ => by simp [fields]) depth reordered once readParts
  obtain ⟨p', made', same⟩ := ofParts_rearranged rearranged made
  exact ⟨p', by rw [Parameter.ofTree, readParts']; exact made', same⟩

end Parameter

/-- The field that a part of an output states. -/
def OutputPart.field : OutputPart → String
  | .value _ => "Value"
  | .description _ => "Description"
  | .exportName _ => "Export"

/-- Two parts of outputs are the same, but for the order of keys inside dynamic values. -/
inductive OutputPart.Agrees : OutputPart → OutputPart → Prop
  | value {a b : Value} : a.same b = true → Agrees (.value a) (.value b)
  | description (text : Option String) : Agrees (.description text) (.description text)
  | exportName {a b : Option Value} : optionsSame Value.same a b = true →
      Agrees (.exportName a) (.exportName b)

namespace Output

/-- An export has one field, whose part is the value itself. -/
theorem exportOfTree_ignoresOrder (depth : Depth) :
    IgnoresOrder (exportOfTree depth) fun a b => a.same b = true := by
  intro tree tree' name reordered once read
  obtain ⟨parts, readParts, made⟩ := ok_of_bind read
  have steady : ∀ inner, ∀ field ∈ exportFields inner,
      field.Steady (fun _ => "Name") fun a b => a.same b = true := by
    intro inner field mem
    rw [List.mem_singleton.1 mem]
    exact ⟨fun _ _ _ => rfl, toValue_ignoresOrder inner⟩
  obtain ⟨parts', readParts', rearranged⟩ := readRecord_ignoresOrder steady
    (fun _ => List.pairwise_singleton _ _) depth reordered once readParts
  obtain ⟨between, matched, perm⟩ := rearranged.matched
  have few : parts.length ≤ 1 := by
    have once := rearranged.once
    rw [List.map_const', List.nodup_replicate] at once
    exact once
  cases matched with
  | nil => cases made
  | cons agree rest =>
      cases made
      cases rest with
      | nil =>
          rw [← List.singleton_perm.1 perm] at readParts'
          exact ⟨_, by rw [exportOfTree, readParts']; rfl, agree.2⟩
      | cons => exact absurd few (by simp)

theorem steady_fields (depth : Depth) :
    ∀ field ∈ fields depth, field.Steady OutputPart.field OutputPart.Agrees := by
  simp only [fields, List.forall_mem_cons, List.not_mem_nil, IsEmpty.forall_iff, implies_true,
    and_true]
  refine ⟨?value, ?description, ?exportName⟩
  case value => exact .of_map (toValue_ignoresOrder depth) (fun _ _ => .value) fun _ => rfl
  case description =>
    exact .of_map (toOption_ignoresOrder toText_ignoresOrder)
      (fun _ _ same => eq_of_rel_eq same ▸ .description _) fun _ => rfl
  case exportName =>
    exact .of_map (toOption_ignoresOrder (exportOfTree_ignoresOrder depth))
      (fun _ _ agree => .exportName (optionsSame_iff_rel.2 agree)) fun _ => rfl

/-- An output is made of rearranged parts as of the parts themselves. -/
theorem ofParts_rearranged {parts parts' : List OutputPart} {o : Output}
    (rearranged : Rearranged OutputPart.field OutputPart.Agrees parts parts')
    (made : ofParts parts = .ok o) : ∃ o', ofParts parts' = .ok o' ∧ Output.same o o' = true := by
  obtain ⟨value, required, made⟩ := ok_of_bind made
  cases made
  obtain ⟨value', found, same⟩ := rearranged.exists_findSome?_eq_some
    (R := fun a b => Value.same a b = true) (eq_some_of_require required) "Value"
    (by rintro ⟨⟩ <;> simp [OutputPart.field]) (by rintro _ _ ⟨⟩ <;> simp [*])
  refine ⟨_, by rw [ofParts, found]; rfl, ?_⟩
  simp only [Output.same, Bool.and_eq_true, beq_iff_eq]
  refine ⟨⟨?remark, same⟩, ?exported⟩
  case remark =>
    exact congrArg Option.join (eq_of_rel_eq (rearranged.findSome? "Description"
      (by rintro ⟨⟩ <;> simp [OutputPart.field]) (by rintro _ _ ⟨⟩ <;> simp)))
  case exported =>
    exact optionsSame_join (rearranged.findSome? "Export"
      (by rintro ⟨⟩ <;> simp [OutputPart.field]) (by rintro _ _ ⟨⟩ <;> simp [*]))

theorem ofTree_ignoresOrder (depth : Depth) :
    IgnoresOrder (Output.ofTree depth) fun o o' => Output.same o o' = true := by
  intro tree tree' o reordered once read
  obtain ⟨parts, readParts, made⟩ := ok_of_exceptBind read
  obtain ⟨parts', readParts', rearranged⟩ := readRecord_ignoresOrder steady_fields
    (fun _ => by simp [fields]) depth reordered once readParts
  obtain ⟨o', made', same⟩ := ofParts_rearranged rearranged made
  exact ⟨o', by rw [Output.ofTree, readParts']; exact made', same⟩

end Output

/-- The field that a part of a template states. -/
def TemplatePart.field : TemplatePart → String
  | .formatVersion _ => "AWSTemplateFormatVersion"
  | .description _ => "Description"
  | .parameters _ => "Parameters"
  | .mappings _ => "Mappings"
  | .conditions _ => "Conditions"
  | .resources _ => "Resources"
  | .outputs _ => "Outputs"

/-- Two parts of templates are the same text, or sections that say the same. -/
inductive TemplatePart.Agrees : TemplatePart → TemplatePart → Prop
  | formatVersion (text : String) : Agrees (.formatVersion text) (.formatVersion text)
  | description (text : Option String) : Agrees (.description text) (.description text)
  | parameters {m n : NameMap Parameter} : NameMap.sameBy Parameter.same m n = true →
      Agrees (.parameters m) (.parameters n)
  | mappings {m n : NameMap Value} : NameMap.sameBy Value.same m n = true →
      Agrees (.mappings m) (.mappings n)
  | conditions {m n : NameMap Value} : NameMap.sameBy Value.same m n = true →
      Agrees (.conditions m) (.conditions n)
  | resources {m n : NameMap Resource} : NameMap.sameBy Resource.same m n = true →
      Agrees (.resources m) (.resources n)
  | outputs {m n : NameMap Output} : NameMap.sameBy Output.same m n = true →
      Agrees (.outputs m) (.outputs n)

namespace Template

theorem steady_fields (depth : Depth) :
    ∀ field ∈ fields depth, field.Steady TemplatePart.field TemplatePart.Agrees := by
  simp only [fields, List.forall_mem_cons, List.not_mem_nil, IsEmpty.forall_iff, implies_true,
    and_true]
  refine ⟨?version, ?description, ?parameters, ?mappings, ?conditions, ?resources, ?outputs⟩
  case version =>
    exact .of_map toText_ignoresOrder (fun _ _ same => same ▸ .formatVersion _) fun _ => rfl
  case description =>
    exact .of_map (toOption_ignoresOrder toText_ignoresOrder)
      (fun _ _ same => eq_of_rel_eq same ▸ .description _) fun _ => rfl
  case parameters =>
    exact .of_map (NameMap.ofTree_ignoresOrder Parameter.ofTree_ignoresOrder depth)
      (fun _ _ => .parameters) fun _ => rfl
  case mappings =>
    exact .of_map (NameMap.ofTree_ignoresOrder toValue_ignoresOrder depth)
      (fun _ _ => .mappings) fun _ => rfl
  case conditions =>
    exact .of_map (NameMap.ofTree_ignoresOrder toValue_ignoresOrder depth)
      (fun _ _ => .conditions) fun _ => rfl
  case resources =>
    exact .of_map (NameMap.ofTree_ignoresOrder Resource.ofTree_ignoresOrder depth)
      (fun _ _ => .resources) fun _ => rfl
  case outputs =>
    exact .of_map (NameMap.ofTree_ignoresOrder Output.ofTree_ignoresOrder depth)
      (fun _ _ => .outputs) fun _ => rfl

/-- A section that is not stated is empty on both sides. -/
private theorem section_rearranged {α : Type} {same : α → α → Bool}
    {select : TemplatePart → Option (NameMap α)} {parts parts' : List TemplatePart}
    (rel : Option.Rel (fun m n => NameMap.sameBy same m n = true) (parts.findSome? select)
      (parts'.findSome? select)) :
    NameMap.sameBy same ((parts.findSome? select).getD .empty)
      ((parts'.findSome? select).getD .empty) = true :=
  getD_of_rel (R := fun m n => NameMap.sameBy same m n = true) rfl rel

/-- Templates that are made of rearranged parts say the same. -/
theorem saysSame_of_rearranged {parts parts' : List TemplatePart}
    (rearranged : Rearranged TemplatePart.field TemplatePart.Agrees parts parts') :
    (ofParts parts).SaysSame (ofParts parts') := by
  constructor
  · rw [hasChanges_diff_eq_false_iff]
    refine ⟨?_, ?_, ?_⟩
    · exact section_rearranged (rearranged.findSome? "Resources"
        (by rintro ⟨⟩ <;> simp [TemplatePart.field]) (by rintro _ _ ⟨⟩ <;> simp [*]))
    · exact section_rearranged (rearranged.findSome? "Parameters"
        (by rintro ⟨⟩ <;> simp [TemplatePart.field]) (by rintro _ _ ⟨⟩ <;> simp [*]))
    · exact section_rearranged (rearranged.findSome? "Outputs"
        (by rintro ⟨⟩ <;> simp [TemplatePart.field]) (by rintro _ _ ⟨⟩ <;> simp [*]))
  · simp only [sectionsMatch, Bool.and_eq_true, beq_iff_eq]
    refine ⟨⟨?_, ?_⟩, ?_⟩
    · exact congrArg Option.join (eq_of_rel_eq (rearranged.findSome? "Description"
        (by rintro ⟨⟩ <;> simp [TemplatePart.field]) (by rintro _ _ ⟨⟩ <;> simp)))
    · exact section_rearranged (rearranged.findSome? "Mappings"
        (by rintro ⟨⟩ <;> simp [TemplatePart.field]) (by rintro _ _ ⟨⟩ <;> simp [*]))
    · exact section_rearranged (rearranged.findSome? "Conditions"
        (by rintro ⟨⟩ <;> simp [TemplatePart.field]) (by rintro _ _ ⟨⟩ <;> simp [*]))

/-- A template is read from a document whose keys stand in another order, and says the same. -/
theorem ofTree_ignoresOrder : IgnoresOrder ofTree SaysSame := by
  intro tree tree' t reordered once read
  obtain ⟨parts, readParts, rfl⟩ := ok_of_map read
  obtain ⟨parts', readParts', rearranged⟩ := readRecord_ignoresOrder steady_fields
    (fun _ => by simp [fields]) maxDepth reordered once readParts
  exact ⟨ofParts parts', by rw [ofTree, readParts']; rfl, saysSame_of_rearranged rearranged⟩

/-- So is a template from a text whose document is that of another one but for the order of keys. -/
theorem ofText_of_reordered {text text' : String} {t : Template}
    (read : Template.ofText text = .ok t)
    (once : (Document.ofText text).root.KeysOnce)
    (reordered : (Document.ofText text).Reordered (Document.ofText text')) :
    ∃ t', Template.ofText text' = .ok t' ∧ t.SaysSame t' := by
  obtain ⟨whole, readTree⟩ := Document.of_read read
  obtain ⟨t', readTree', same⟩ := ofTree_ignoresOrder reordered.root once readTree
  refine ⟨t', ?_, same⟩
  rw [Template.ofText, Document.read, readTree', ← reordered.trailing, whole]
  rfl

end Template

end StackDeploy
