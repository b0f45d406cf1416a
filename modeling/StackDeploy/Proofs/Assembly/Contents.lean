/-
# What a build puts together

An assembler invents no dynamic value but the empty object, which stands for properties that are
null. So a property of values that holds of the empty object, and of every value that the settings
and the actions bring along, holds of every value of the template that is built, whatever fails on
the way. Each action keeps the property, and from that every run of actions and of steps does.
-/

import StackDeploy.Proofs.Assembly.Declarations
import StackDeploy.Proofs.Template.Content

namespace StackDeploy

open Json (Value Members maxDepth)

namespace NameMap

variable {α : Type} {P : α → Prop} {m : NameMap α}

/-- A property holds of everything that a section declares. -/
def All (P : α → Prop) (m : NameMap α) : Prop :=
  ∀ name a, m.get? name = some a → P a

theorem all_empty : All P (.empty : NameMap α) :=
  nofun

theorem All.insertAll (all : m.All P) {entries : List (String × α)}
    (given : ∀ entry ∈ entries, P entry.2) : (m.insertAll entries).All P := by
  intro name a declared
  rcases mem_of_mem_insertAll (get?_eq_some_iff.1 declared) with added | kept
  · exact given (name, a) added
  · exact all name a (get?_eq_some_iff.2 kept)

theorem All.insert (all : m.All P) {name : String} {a : α} (given : P a) :
    (m.insert name a).All P := by
  have single : ∀ entry ∈ [(name, a)], P entry.2 := List.forall_mem_singleton.2 given
  exact all.insertAll single

theorem All.override {later : NameMap α} (all : m.All P) (given : later.All P) :
    (m.override later).All P :=
  all.insertAll fun entry mem => given entry.1 entry.2 (get?_eq_some_iff.2 mem)

end NameMap

variable {P : Value → Prop}

/-- A property of values holds of every dynamic value of an assembler. -/
structure Assembler.Every (P : Value → Prop) (a : Assembler) : Prop where
  parameters : a.parameters.All fun p => p.Every (fun _ => P) (maxDepth - 3)
  mappings : a.mappings.All P
  conditions : a.conditions.All P
  resources : a.resources.All fun r => r.Every (fun _ => P) (maxDepth - 3)

/-- It holds of every dynamic value of the settings. -/
structure TemplateSettings.Every (P : Value → Prop) (settings : TemplateSettings) : Prop where
  parameters : settings.parameters.All fun p => p.Every (fun _ => P) (maxDepth - 3)
  mappings : settings.mappings.All P
  conditions : settings.conditions.All P

/-- It holds of every dynamic value that an action brings along. -/
def Action.Every (P : Value → Prop) : Action → Prop
  | .addResource _ _ properties _ => P properties
  | .addParameter _ p => p.Every (fun _ => P) (maxDepth - 3)
  | .addMapping _ table => P table
  | .addCondition _ expression => P expression
  | .addOutput _ o => o.Every (fun _ => P) (maxDepth - 3)
  | .addOutputs outputs => ∀ entry ∈ outputs, entry.2.Every (fun _ => P) (maxDepth - 3)
  | _ => True

/-- It holds of every dynamic value that a step brings along. -/
def ContributionStep.Every (P : Value → Prop) (step : ContributionStep) : Prop :=
  ∀ instruction ∈ step.instructions, instruction.action.Every P

/-- It holds of every dynamic value of an assembly and of the outputs collected so far. -/
structure Workbench.Every (P : Value → Prop) (w : Workbench) : Prop where
  assembler : w.assembler.Every P
  outputs : w.outputs.All fun o => o.Every (fun _ => P) (maxDepth - 3)

namespace Assembler

theorem every_empty : empty.Every P :=
  ⟨NameMap.all_empty, NameMap.all_empty, NameMap.all_empty, NameMap.all_empty⟩

theorem Every.withSettings {a : Assembler} {settings : TemplateSettings} (every : a.Every P)
    (given : settings.Every P) : (a.withSettings settings).Every P where
  parameters := every.parameters.override given.parameters
  mappings := every.mappings.override given.mappings
  conditions := every.conditions.override given.conditions
  resources := every.resources

/-- A resource that is added holds the properties that were given, or none where they were null. -/
private theorem every_of_checkedResource {id type : String} {properties : Value}
    {options : ResourceOptions} {r : Resource} (empty : P (.object [])) (given : P properties)
    (checked : checkedResource id type properties options = .ok r) :
    r.Every (fun _ => P) (maxDepth - 3) := by
  obtain ⟨members, rfl, -, rfl | ⟨rfl, rfl⟩⟩ := checkedResource_eq_ok_iff.1 checked
  · exact given
  · exact empty

theorem Every.addResource {a after : Assembler} {id type : String} {properties : Value}
    {options : ResourceOptions} (empty : P (.object [])) (every : a.Every P)
    (given : P properties) (added : a.addResource id type properties options = .ok after) :
    after.Every P := by
  unfold Assembler.addResource at added
  obtain ⟨r, checked, result⟩ := ok_of_map added
  cases result
  exact ⟨every.parameters, every.mappings, every.conditions,
    every.resources.insert (every_of_checkedResource empty given checked)⟩

end Assembler

namespace Action

variable {w : Workbench}

/-- Every action keeps the property, whether it succeeds or fails. -/
theorem every_run (empty : P (.object [])) (step : String) (action : Action) (every : w.Every P)
    (given : action.Every P) : (action.run step w).2.Every P := by
  obtain ⟨assembler, outputs⟩ := every
  cases action with
  | addResource id type properties options =>
      unfold run
      dsimp only
      cases added : w.assembler.addResource id type properties options with
      | error cause => exact ⟨assembler, outputs⟩
      | ok after => exact ⟨assembler.addResource empty given added, outputs⟩
  | addParameter =>
      exact ⟨⟨assembler.parameters.insert given, assembler.mappings, assembler.conditions,
        assembler.resources⟩, outputs⟩
  | addMapping =>
      exact ⟨⟨assembler.parameters, assembler.mappings.insert given, assembler.conditions,
        assembler.resources⟩, outputs⟩
  | addCondition =>
      exact ⟨⟨assembler.parameters, assembler.mappings, assembler.conditions.insert given,
        assembler.resources⟩, outputs⟩
  | addOutput => exact ⟨assembler, outputs.insert given⟩
  | addOutputs => exact ⟨assembler, outputs.insertAll given⟩
  | checkCycles =>
      unfold run
      dsimp only
      cases w.assembler.checkCycles with
      | error cause => exact ⟨assembler, outputs⟩
      | ok => exact ⟨assembler, outputs⟩
  | _ => exact ⟨assembler, outputs⟩

theorem every_runAll (empty : P (.object [])) (step : String) (actions : List Action)
    (every : w.Every P) (given : ∀ action ∈ actions, action.Every P) :
    (runAll step actions w).2.Every P := by
  induction actions generalizing w with
  | nil => exact every
  | cons action rest ih =>
      rw [List.forall_mem_cons] at given
      exact ih (every_run empty step action every given.1) given.2

end Action

namespace ContributionStep

variable {w after : Workbench}

theorem every_runInstructions (empty : P (.object [])) (step : String)
    (instructions : List Instruction) (every : w.Every P)
    (given : ∀ instruction ∈ instructions, instruction.action.Every P)
    (ended : (runInstructions step instructions w).result = .ok after) : after.Every P := by
  induction instructions generalizing w with
  | nil =>
      cases ended
      exact every
  | cons instruction rest ih =>
      obtain ⟨action, ignoresError⟩ := instruction
      rw [List.forall_mem_cons] at given
      have kept := Action.every_run empty step action every given.1
      unfold runInstructions at ended
      dsimp only at ended
      cases ran : action.run step w with
      | mk outcome reached =>
          rw [ran] at kept ended
          dsimp only at ended
          split at ended
          · cases ended
          · exact ih kept given.2 ended

theorem every_runAll (empty : P (.object [])) (steps : List ContributionStep) (every : w.Every P)
    (given : ∀ step ∈ steps, step.Every P) (ended : (runAll steps w).2 = .ok after) :
    after.Every P := by
  induction steps generalizing w with
  | nil =>
      cases ended
      exact every
  | cons step rest ih =>
      rw [List.forall_mem_cons] at given
      unfold runAll at ended
      cases ran : step.run w with
      | mk outcomes result =>
          rw [ran] at ended
          cases result with
          | error error => cases ended
          | ok reached =>
              have kept : reached.Every P := every_runInstructions empty step.name
                step.instructions every given.1 (congrArg StepRun.result ran)
              exact ih kept given.2 ended

end ContributionStep

namespace Assembler

/-- A template that is built holds only what was brought along. -/
theorem every_build {a : Assembler} {settings : TemplateSettings} {steps : List ContributionStep}
    {t : Template} (empty : P (.object [])) (every : a.Every P) (given : settings.Every P)
    (brought : ∀ step ∈ steps, step.Every P)
    (built : (a.build settings steps).result = .ok t) : t.Every fun _ => P := by
  obtain ⟨after, ended, finished⟩ := ok_of_exceptBind built
  obtain ⟨-, -, made⟩ := ok_of_map finished
  have kept : after.Every P := ContributionStep.every_runAll empty steps
    ⟨every.withSettings given, NameMap.all_empty⟩ brought ended
  cases made
  exact ⟨kept.assembler.parameters, kept.assembler.mappings, kept.assembler.conditions,
    kept.assembler.resources, kept.outputs⟩

end Assembler

end StackDeploy
