/-
# What actions declare

Every action declares entries of the sections of a template, most of them one entry of one section
and the failing ones none. What a section holds after some actions is what it held before with the
declared entries set in their order: an action that fails in between leaves no trace, and an action
on one section none in another. Which additions of resources are accepted depends on what is added
only, not on what was declared before.
-/

import StackDeploy.Assembly.Build
import StackDeploy.Proofs.Json.Reading
import StackDeploy.Proofs.Names.Lookup

namespace StackDeploy

open Json (Value Members)

/-! ## Accepted additions -/

/-- A definition may be stored under an id: the id is a word of ASCII letters and digits, the type
begins like one that the provider knows, and the resource does not depend on itself. -/
structure Resource.IsAdmissible (id : String) (r : Resource) : Prop where
  nonempty : id ≠ ""
  alphanumeric : ∀ c ∈ id.toList, c.isAlphanum = true
  recognized : ∃ start ∈ recognizedNamespaces, start.toList <+: r.type.toList
  selfless : id ∉ r.dependsOn.names

/-- The definition that an addition describes, with the members of its properties. -/
def ResourceOptions.definition (options : ResourceOptions) (type : String) (members : Members) :
    Resource where
  type
  properties := members
  dependsOn := options.dependsOn
  condition := options.condition
  deletionPolicy := options.deletionPolicy
  updateReplacePolicy := options.updateReplacePolicy

theorem isLogicalId_iff {id : String} :
    isLogicalId id = true ↔ id ≠ "" ∧ ∀ c ∈ id.toList, c.isAlphanum = true := by
  simp [isLogicalId]

theorem namespaceOfType_isSome_iff {type : String} :
    (namespaceOfType type).isSome = true ↔
      ∃ start ∈ recognizedNamespaces, start.toList <+: type.toList := by
  simp [namespaceOfType, Text.startsWith]

namespace Assembler

variable {a : Assembler} {id type : String} {properties : Value} {options : ResourceOptions}

/-- An addition is accepted if its definition is admissible and its properties are an object, or
null for an object without members. -/
theorem checkedResource_eq_ok_iff {r : Resource} :
    checkedResource id type properties options = .ok r ↔
      ∃ members, r = options.definition type members ∧ r.IsAdmissible id ∧
        (properties = .object members ∨ properties = .null ∧ members = []) := by
  have admissible_iff (members : Members) :
      (options.definition type members).IsAdmissible id ↔
        isLogicalId id = true ∧ (namespaceOfType type).isSome = true ∧
          options.dependsOn.contains id = false := by
    rw [isLogicalId_iff, namespaceOfType_isSome_iff, ← Bool.not_eq_true, NameSet.contains_iff]
    constructor
    · intro admissible
      exact ⟨⟨admissible.nonempty, admissible.alphanumeric⟩, admissible.recognized,
        admissible.selfless⟩
    · rintro ⟨⟨nonempty, alphanumeric⟩, recognized, selfless⟩
      exact ⟨nonempty, alphanumeric, recognized, selfless⟩
  constructor
  · intro checked
    unfold checkedResource at checked
    dsimp only at checked
    split at checked
    · cases checked
    next named =>
      split at checked
      · cases checked
      next known =>
        split at checked
        · cases checked
        next selfless =>
          have admissible (members : Members) :=
            (admissible_iff members).2 ⟨by simpa using named, by simpa [Option.isSome_iff_ne_none]
              using known, by simpa using selfless⟩
          split at checked <;> cases checked
          · exact ⟨_, rfl, admissible _, .inl rfl⟩
          · exact ⟨_, rfl, admissible _, .inr ⟨rfl, rfl⟩⟩
  · rintro ⟨members, rfl, admissible, given⟩
    obtain ⟨named, known, selfless⟩ := (admissible_iff members).1 admissible
    have passed : (namespaceOfType type).isNone = false := by
      rw [← Option.not_isSome, known]
      rfl
    unfold checkedResource
    dsimp only
    rcases given with rfl | ⟨rfl, rfl⟩ <;> simp [named, passed, selfless] <;> rfl

end Assembler

/-! ## What one action declares -/

namespace Action

/-- The definition that an action stores under an id: that of an addition that is accepted. -/
def resources : Action → List (String × Resource)
  | .addResource id type properties options =>
    (Assembler.checkedResource id type properties options).toOption.toList.map fun r => (id, r)
  | _ => []

/-- The parameter that an action declares. -/
def parameters : Action → List (String × Parameter)
  | .addParameter name parameter => [(name, parameter)]
  | _ => []

/-- The mapping that an action declares. -/
def mappings : Action → List (String × Value)
  | .addMapping name table => [(name, table)]
  | _ => []

/-- The condition that an action declares. -/
def conditions : Action → List (String × Value)
  | .addCondition name expression => [(name, expression)]
  | _ => []

/-- The outputs that an action adds. -/
def outputs : Action → List (String × Output)
  | .addOutput name output => [(name, output)]
  | .addOutputs outputs => outputs
  | _ => []

variable {step : String} {w : Workbench}

/-- What an action stores is admissible, and stored under the id that was given. -/
theorem isAdmissible_of_mem_resources {action : Action} {entry : String × Resource}
    (stored : entry ∈ action.resources) : entry.2.IsAdmissible entry.1 := by
  cases action with
  | addResource id type properties options =>
      simp only [resources, List.mem_map, Option.mem_toList, Except.toOption] at stored
      obtain ⟨r, checked, rfl⟩ := stored
      split at checked <;> cases checked
      next accepted =>
        obtain ⟨-, -, admissible, -⟩ := Assembler.checkedResource_eq_ok_iff.1 accepted
        exact admissible
  | _ => cases stored

end Action

/-! ## What actions leave -/

/-- A workbench holds what another one held, with everything set that some actions declare. -/
structure Workbench.Gains (w : Workbench) (actions : List Action) (after : Workbench) : Prop where
  parameters : after.assembler.parameters =
    w.assembler.parameters.insertAll (actions.flatMap Action.parameters)
  mappings : after.assembler.mappings =
    w.assembler.mappings.insertAll (actions.flatMap Action.mappings)
  conditions : after.assembler.conditions =
    w.assembler.conditions.insertAll (actions.flatMap Action.conditions)
  resources : after.assembler.resources =
    w.assembler.resources.insertAll (actions.flatMap Action.resources)
  outputs : after.outputs = w.outputs.insertAll (actions.flatMap Action.outputs)

namespace Workbench.Gains

variable {w middle after : Workbench} {actions later : List Action}

theorem refl (w : Workbench) : w.Gains [] w :=
  ⟨rfl, rfl, rfl, rfl, rfl⟩

theorem append (first : w.Gains actions middle) (second : middle.Gains later after) :
    w.Gains (actions ++ later) after := by
  constructor <;> rw [List.flatMap_append, NameMap.insertAll_append]
  · rw [second.parameters, first.parameters]
  · rw [second.mappings, first.mappings]
  · rw [second.conditions, first.conditions]
  · rw [second.resources, first.resources]
  · rw [second.outputs, first.outputs]

end Workbench.Gains

namespace Action

variable {step : String} {w : Workbench}

/-- Every action sets what it declares and nothing else. -/
theorem gains_run (step : String) (action : Action) (w : Workbench) :
    w.Gains [action] (action.run step w).2 := by
  cases action with
  | addResource id type properties options =>
      unfold run Assembler.addResource
      dsimp only
      cases checked : Assembler.checkedResource id type properties options with
      | error cause =>
          have nothing : [addResource id type properties options].flatMap resources = [] := by
            simp [resources, checked, Except.toOption]
          exact ⟨rfl, rfl, rfl, by rw [nothing]; rfl, rfl⟩
      | ok r =>
          have stored :
              [addResource id type properties options].flatMap resources = [(id, r)] := by
            simp [resources, checked, Except.toOption]
          exact ⟨rfl, rfl, rfl, by rw [stored]; rfl, rfl⟩
  | addOutputs added =>
      have declared : [addOutputs added].flatMap outputs = added := List.flatMap_singleton _ _
      exact ⟨rfl, rfl, rfl, rfl, by rw [declared]; rfl⟩
  | checkCycles =>
      unfold run
      dsimp only
      cases w.assembler.checkCycles <;> exact ⟨rfl, rfl, rfl, rfl, rfl⟩
  | _ => exact ⟨rfl, rfl, rfl, rfl, rfl⟩

theorem gains_runAll (step : String) (actions : List Action) (w : Workbench) :
    w.Gains actions (runAll step actions w).2 := by
  induction actions generalizing w with
  | nil => exact .refl w
  | cons action rest ih => exact (gains_run step action w).append (ih (action.run step w).2)

/-- An action that fails changes nothing. -/
theorem eq_of_run_failed {action : Action} {cause : AssemblyError} {after : Workbench}
    (failed : action.run step w = (.failed cause, after)) : after = w := by
  cases action with
  | addResource id type properties options =>
      unfold run at failed
      dsimp only at failed
      split at failed <;> cases failed
      rfl
  | checkCycles =>
      unfold run at failed
      dsimp only at failed
      split at failed <;> cases failed
      rfl
  | _ => cases failed <;> rfl

end Action

end StackDeploy
