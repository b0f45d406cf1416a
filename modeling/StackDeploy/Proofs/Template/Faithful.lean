/-
# Written forms tell declarations apart

A member that is left out stands for one value of its field only, so every field can be told from
the members of the written form. Hence different declarations have different written forms, and as
far as their numbers are read back, different texts. Unlike a round trip this needs no bound on the
nesting, and it covers a default that is null, which reading does not tell from none.
-/

import StackDeploy.Proofs.Json.Integers
import StackDeploy.Proofs.Template.RoundTrip

namespace StackDeploy

open Json

/-! ## Members that may be left out -/

theorem NameMap.lookupEntry_singleton {α : Type} (name key : String) (value : α) :
    lookupEntry name [(key, value)] = if key = name then some value else none :=
  rfl

theorem lookupEntry_optionalMember (name key : String) (value : Option Value) :
    NameMap.lookupEntry name (optionalMember key value) = if key = name then value else none := by
  cases value with
  | none => exact (ite_self none).symm
  | some => rfl

theorem nonempty?_inj {α : Type} {xs ys : List α} : nonempty? xs = nonempty? ys ↔ xs = ys := by
  refine ⟨fun same => ?_, congrArg nonempty?⟩
  rw [← getD_nonempty? xs, same, getD_nonempty?]

theorem NameSet.toValues_inj {s t : NameSet} : s.toValues = t.toValues ↔ s = t := by
  refine ⟨fun same => ?_, congrArg toValues⟩
  have names : s.names = t.names := List.map_injective_iff.2 (fun _ _ => Value.string.inj) same
  rw [← s.ofList_names, names, t.ofList_names]

namespace Resource

theorem name_string_injective :
    Function.Injective fun policy : DeletionPolicy => Value.string policy.name := by
  intro policy other same
  have names : policy.name = other.name := Value.string.inj same
  revert names
  cases policy <;> cases other <;> decide

theorem statedPolicy?_inj {r r' : Resource} :
    r.statedPolicy? = r'.statedPolicy? ↔ r.deletionPolicy = r'.deletionPolicy := by
  constructor
  · intro same
    rw [← r.getD_statedPolicy?, same, r'.getD_statedPolicy?]
  · intro same
    rw [statedPolicy?, statedPolicy?, same]

/-- A resource is told by its written form. -/
theorem toValue_inj {r r' : Resource} : r.toValue = r'.toValue ↔ r = r' := by
  refine ⟨fun same => ?_, congrArg toValue⟩
  have member (key : String) := congrArg (NameMap.lookupEntry key) (Value.object.inj same)
  simp only [objectMember_eq, listMember_eq, writtenPolicy_eq, NameMap.lookupEntry_append,
    NameMap.lookupEntry_singleton, lookupEntry_optionalMember] at member
  have type : r.type = r'.type := by simpa using member "Type"
  have properties : nonempty? r.properties = nonempty? r'.properties :=
    Option.map_injective (fun _ _ => Value.object.inj) (by simpa using member "Properties")
  have dependsOn : nonempty? r.dependsOn.toValues = nonempty? r'.dependsOn.toValues :=
    Option.map_injective (fun _ _ => Value.array.inj) (by simpa using member "DependsOn")
  have condition : r.condition = r'.condition :=
    Option.map_injective (fun _ _ => Value.string.inj) (by simpa using member "Condition")
  have deletion : r.statedPolicy? = r'.statedPolicy? :=
    Option.map_injective name_string_injective (by simpa using member "DeletionPolicy")
  have update : r.updateReplacePolicy = r'.updateReplacePolicy :=
    Option.map_injective name_string_injective (by simpa using member "UpdateReplacePolicy")
  rw [nonempty?_inj] at properties dependsOn
  rw [NameSet.toValues_inj] at dependsOn
  rw [statedPolicy?_inj] at deletion
  cases r
  cases r'
  rw [mk.injEq]
  exact ⟨type, properties, dependsOn, condition, deletion, update⟩

end Resource

namespace Parameter

theorem statedFlag?_inj {p p' : Parameter} :
    p.statedFlag? = p'.statedFlag? ↔ p.noEcho = p'.noEcho := by
  constructor
  · intro same
    rw [← p.getD_statedFlag?, same, p'.getD_statedFlag?]
  · intro same
    rw [statedFlag?, statedFlag?, same]

/-- A parameter is told by its written form. -/
theorem toValue_inj {p p' : Parameter} : p.toValue = p'.toValue ↔ p = p' := by
  refine ⟨fun same => ?_, congrArg toValue⟩
  have member (key : String) := congrArg (NameMap.lookupEntry key) (Value.object.inj same)
  simp only [listMember_eq, writtenFlag_eq, NameMap.lookupEntry_append,
    NameMap.lookupEntry_singleton, lookupEntry_optionalMember] at member
  have type : p.type = p'.type := by simpa using member "Type"
  have default : p.default = p'.default := by simpa using member "Default"
  have description : p.description = p'.description :=
    Option.map_injective (fun _ _ => Value.string.inj) (by simpa using member "Description")
  have allowed : nonempty? p.allowedValues = nonempty? p'.allowedValues :=
    Option.map_injective (fun _ _ => Value.array.inj) (by simpa using member "AllowedValues")
  have noEcho : p.statedFlag? = p'.statedFlag? :=
    Option.map_injective (fun _ _ => Value.bool.inj) (by simpa using member "NoEcho")
  rw [nonempty?_inj] at allowed
  rw [statedFlag?_inj] at noEcho
  cases p
  cases p'
  rw [mk.injEq]
  exact ⟨type, default, description, allowed, noEcho⟩

end Parameter

namespace Output

/-- An output is told by its written form. -/
theorem toValue_inj {o o' : Output} : o.toValue = o'.toValue ↔ o = o' := by
  refine ⟨fun same => ?_, congrArg toValue⟩
  have member (key : String) := congrArg (NameMap.lookupEntry key) (Value.object.inj same)
  simp only [NameMap.lookupEntry_append, NameMap.lookupEntry_singleton,
    lookupEntry_optionalMember] at member
  have value : o.value = o'.value := by simpa using member "Value"
  have description : o.description = o'.description :=
    Option.map_injective (fun _ _ => Value.string.inj) (by simpa using member "Description")
  have exported : Function.Injective fun name : Value => Value.object [("Name", name)] :=
    fun _ _ same => by simpa using same
  have exportName : o.exportName = o'.exportName :=
    Option.map_injective exported (by simpa using member "Export")
  cases o
  cases o'
  rw [mk.injEq]
  exact ⟨value, description, exportName⟩

end Output

namespace Template

/-- A section is told by its members, if its declarations are told by their written forms. -/
theorem sectionMembers_inj {α : Type} {write : α → Value} {m m' : NameMap α}
    (inj : ∀ {a b : α}, write a = write b ↔ a = b) :
    sectionMembers write m = sectionMembers write m' ↔ m = m' := by
  refine ⟨fun same => NameMap.eq_of_entries ?_, congrArg (sectionMembers write)⟩
  have entry : Function.Injective fun entry : String × α => (entry.1, write entry.2) := by
    intro entry other same
    rw [Prod.mk.injEq] at same
    exact Prod.ext same.1 (inj.1 same.2)
  exact List.map_injective_iff.2 entry same

/-- A template is told by its written form. -/
theorem toValue_inj {t t' : Template} : t.toValue = t'.toValue ↔ t = t' := by
  refine ⟨fun same => ?_, congrArg toValue⟩
  have member (key : String) := congrArg (NameMap.lookupEntry key) (Value.object.inj same)
  simp only [objectMember_eq, NameMap.lookupEntry_append, NameMap.lookupEntry_singleton,
    lookupEntry_optionalMember] at member
  have stated {α : Type} (write : α → Value) {m m' : NameMap α}
      (inj : ∀ {a b : α}, write a = write b ↔ a = b)
      (same : (nonempty? (sectionMembers write m)).map Value.object =
        (nonempty? (sectionMembers write m')).map Value.object) : m = m' :=
    (sectionMembers_inj inj).1
      (nonempty?_inj.1 (Option.map_injective (fun _ _ => Value.object.inj) same))
  have version : t.formatVersion = t'.formatVersion := by
    simpa using member "AWSTemplateFormatVersion"
  have description : t.description = t'.description :=
    Option.map_injective (fun _ _ => Value.string.inj) (by simpa using member "Description")
  have parameters : t.parameters = t'.parameters :=
    stated _ Parameter.toValue_inj (by simpa using member "Parameters")
  have mappings : t.mappings = t'.mappings := stated id Iff.rfl (by simpa using member "Mappings")
  have conditions : t.conditions = t'.conditions :=
    stated id Iff.rfl (by simpa using member "Conditions")
  have resources : t.resources = t'.resources :=
    (sectionMembers_inj Resource.toValue_inj).1 (by simpa using member "Resources")
  have outputs : t.outputs = t'.outputs :=
    stated _ Output.toValue_inj (by simpa using member "Outputs")
  cases t
  cases t'
  rw [mk.injEq]
  exact ⟨version, description, parameters, mappings, conditions, resources, outputs⟩

end Template

/-! ## Numbers in written forms -/

section

variable {P : Number → Prop}

theorem forall_numbers_append {left right : Members} :
    (∀ n ∈ (Value.object (left ++ right)).numbers, P n) ↔
      (∀ n ∈ (Value.object left).numbers, P n) ∧ ∀ n ∈ (Value.object right).numbers, P n := by
  simp only [Value.numbers, Value.numbersOfMembers_eq_flatMap, List.flatMap_append,
    List.forall_mem_append]

theorem forall_numbers_singleton {key : String} {value : Value} :
    (∀ n ∈ (Value.object [(key, value)]).numbers, P n) ↔ ∀ n ∈ value.numbers, P n := by
  simp only [Value.numbers, Value.numbersOfMembers, List.append_nil]

theorem forall_numbers_optional {α : Type} {key : String} {stated : Option α} {write : α → Value} :
    (∀ n ∈ (Value.object (optionalMember key (stated.map write))).numbers, P n) ↔
      ∀ a, stated = some a → ∀ n ∈ (write a).numbers, P n := by
  cases stated with
  | none => exact iff_of_true (List.forall_mem_nil _) nofun
  | some a =>
      rw [Option.map_some, optionalMember, forall_numbers_singleton]
      exact ⟨fun all _ same => Option.some.inj same ▸ all, fun all => all a rfl⟩

theorem forall_numbers_sectionMembers {α : Type} {write : α → Value} {m : NameMap α}
    (each : ∀ name a, m.get? name = some a → ∀ n ∈ (write a).numbers, P n) :
    ∀ n ∈ (Value.object (Template.sectionMembers write m)).numbers, P n := by
  intro n inside
  rw [Value.mem_numbers_object, Template.sectionMembers] at inside
  obtain ⟨_, mem, inside⟩ := inside
  obtain ⟨entry, entry_mem, rfl⟩ := List.mem_map.1 mem
  exact each entry.1 entry.2 (NameMap.get?_eq_some_iff.2 entry_mem) n inside

variable {depth : Depth}

/-- The numbers of a written resource are in its properties. -/
theorem Resource.Every.forall_numbers {r : Resource}
    (every : r.Every (fun _ v => ∀ n ∈ v.numbers, P n) depth) : ∀ n ∈ r.toValue.numbers, P n := by
  simp only [toValue, objectMember_eq, listMember_eq, writtenPolicy_eq, forall_numbers_append,
    forall_numbers_singleton, forall_numbers_optional]
  refine ⟨⟨⟨⟨⟨?_, ?_⟩, ?_⟩, ?_⟩, ?_⟩, ?_⟩
  · exact List.forall_mem_nil _
  · intro members stated
    rw [eq_some_of_nonempty?_eq_some stated]
    exact every
  · intro items stated n inside
    rw [eq_some_of_nonempty?_eq_some stated, Value.mem_numbers_array] at inside
    obtain ⟨item, mem, inside⟩ := inside
    obtain ⟨name, -, rfl⟩ := List.mem_map.1 mem
    cases inside
  all_goals exact fun _ _ => List.forall_mem_nil _

/-- The numbers of a written parameter are in its default and its allowed values. -/
theorem Parameter.Every.forall_numbers {p : Parameter}
    (every : p.Every (fun _ v => ∀ n ∈ v.numbers, P n) depth) : ∀ n ∈ p.toValue.numbers, P n := by
  have default : optionalMember "Default" p.default =
      optionalMember "Default" (p.default.map id) := by
    rw [Option.map_id, id]
  simp only [toValue, default, listMember_eq, writtenFlag_eq, forall_numbers_append,
    forall_numbers_singleton, forall_numbers_optional]
  refine ⟨⟨⟨⟨?_, ?_⟩, ?_⟩, ?_⟩, ?_⟩
  · exact List.forall_mem_nil _
  · exact every.default
  · exact fun _ _ => List.forall_mem_nil _
  · intro values stated n inside
    rw [eq_some_of_nonempty?_eq_some stated, Value.mem_numbers_array] at inside
    obtain ⟨value, mem, inside⟩ := inside
    exact every.allowedValues value mem n inside
  · exact fun _ _ => List.forall_mem_nil _

/-- The numbers of a written output are in its value and its export name. -/
theorem Output.Every.forall_numbers {o : Output}
    (every : o.Every (fun _ v => ∀ n ∈ v.numbers, P n) depth) : ∀ n ∈ o.toValue.numbers, P n := by
  simp only [toValue, forall_numbers_append, forall_numbers_singleton, forall_numbers_optional]
  exact ⟨⟨every.value, fun _ _ => List.forall_mem_nil _⟩, every.exportName⟩

/-- The numbers of a written template are in its dynamic values. -/
theorem Template.Every.forall_numbers {t : Template}
    (every : t.Every fun _ v => ∀ n ∈ v.numbers, P n) : ∀ n ∈ t.toValue.numbers, P n := by
  simp only [toValue, objectMember_eq, forall_numbers_append, forall_numbers_singleton,
    forall_numbers_optional]
  refine ⟨⟨⟨⟨⟨⟨?_, ?_⟩, ?_⟩, ?_⟩, ?_⟩, ?_⟩, ?_⟩
  · exact List.forall_mem_nil _
  · exact fun _ _ => List.forall_mem_nil _
  · intro members stated
    rw [eq_some_of_nonempty?_eq_some stated]
    exact forall_numbers_sectionMembers fun name p declared =>
      (every.parameters name p declared).forall_numbers
  · intro members stated
    rw [eq_some_of_nonempty?_eq_some stated]
    exact forall_numbers_sectionMembers every.mappings
  · intro members stated
    rw [eq_some_of_nonempty?_eq_some stated]
    exact forall_numbers_sectionMembers every.conditions
  · exact forall_numbers_sectionMembers fun name r declared =>
      (every.resources name r declared).forall_numbers
  · intro members stated
    rw [eq_some_of_nonempty?_eq_some stated]
    exact forall_numbers_sectionMembers fun name o declared =>
      (every.outputs name o declared).forall_numbers

end

/-- Templates whose numbers are read back are told by their texts. -/
theorem Template.text_inj {t t' : Template} (readsBack : ∀ n ∈ t.toValue.numbers, n.ReadsBack)
    (readsBack' : ∀ n ∈ t'.toValue.numbers, n.ReadsBack) : t.text = t'.text ↔ t = t' := by
  rw [text, text, Value.compact_inj readsBack readsBack', toValue_inj]

end StackDeploy
