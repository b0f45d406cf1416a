/-
# Independent steps

Steps that only add declarations, each under names of its own, may be registered in any order. What
an addition does depends on the addition alone, so the steps that succeed in one order succeed in
every order; and since no name is declared by two of them, the sections that they leave are the
same. The order of the nodes, and with it the whole course of the search for cycles, does depend on
the order of the steps. Whether there is a cycle does not, because the resources alone decide it.
So the order can show in the cycle that is reported, and nowhere else.
-/

import Mathlib.Data.List.Lattice
import Mathlib.Data.List.Nodup
import StackDeploy.Proofs.Assembly.Merge

namespace StackDeploy

open Json (Value)

/-! ## Entries that are set in batches -/

namespace NameMap

variable {α β : Type} {batch : β → List (String × α)} {items others : List β}

/-- Batches set nothing under the same name. -/
def Apart (batch : β → List (String × α)) (first second : β) : Prop :=
  ((batch first).map Prod.fst).Disjoint ((batch second).map Prod.fst)

instance {first second : β} : Decidable (Apart batch first second) :=
  inferInstanceAs (Decidable (∀ name ∈ (batch first).map Prod.fst,
    name ∉ (batch second).map Prod.fst))

/-- Where no name is in two batches, the last entry for a name is that of its own batch. -/
theorem latest_flatMap_eq_some_iff {name : String} {value : α}
    (apart : items.Pairwise (Apart batch)) :
    latest name (items.flatMap batch) = some value ↔
      ∃ item ∈ items, latest name (batch item) = some value := by
  induction items generalizing value with
  | nil => simp [latest, lookupEntry]
  | cons first rest ih =>
      obtain ⟨alone, apart⟩ := List.pairwise_cons.1 apart
      rw [List.flatMap_cons, latest_append, Option.or_eq_some_iff, ih apart, List.exists_mem_cons_iff,
        or_comm]
      refine or_congr_left ⟨And.right, fun here => ⟨?_, here⟩⟩
      rw [Option.eq_none_iff_forall_ne_some]
      intro other later
      obtain ⟨item, mem, there⟩ := (ih apart).1 later
      have inFirst : name ∈ (batch first).map Prod.fst :=
        List.mem_map.2 ⟨_, mem_of_latest here, rfl⟩
      have inItem : name ∈ (batch item).map Prod.fst :=
        List.mem_map.2 ⟨_, mem_of_latest there, rfl⟩
      exact alone item mem inFirst inItem

/-- Batches that are apart can be set in any order. -/
theorem insertAll_flatMap_perm (m : NameMap α) (apart : items.Pairwise (Apart batch))
    (perm : items.Perm others) :
    m.insertAll (items.flatMap batch) = m.insertAll (others.flatMap batch) := by
  have rearranged : others.Pairwise (Apart batch) :=
    perm.pairwise apart fun {_ _} disjoint => List.Disjoint.symm disjoint
  refine eq_of_get? fun name => ?_
  rw [get?_insertAll, get?_insertAll]
  congr 1
  refine Option.ext fun value => ?_
  rw [latest_flatMap_eq_some_iff apart, latest_flatMap_eq_some_iff rearranged]
  simp only [perm.mem_iff]

end NameMap

/-! ## Steps that only add -/

/-- An action adds a declaration, without a look at what is there. -/
def Action.IsAddition : Action → Prop
  | .addResource .. | .addParameter .. | .addMapping .. | .addCondition .. | .addOutput ..
  | .addOutputs .. => True
  | .checkCycles | .lookUpEdges _ | .lookUpResource _ | .countOutputs | .fail _ => False

/-- What an addition answers does not depend on what is there. -/
theorem Action.IsAddition.outcome_eq {action : Action} (adds : action.IsAddition) (step : String)
    (w v : Workbench) : (action.run step w).1 = (action.run step v).1 := by
  cases action with
  | addResource id type properties options =>
      unfold run Assembler.addResource
      dsimp only
      cases Assembler.checkedResource id type properties options <;> rfl
  | addParameter | addMapping | addCondition | addOutput | addOutputs => rfl
  | checkCycles | lookUpEdges | lookUpResource | countOutputs | fail => exact adds.elim

namespace ContributionStep

/-- A step only adds declarations. -/
def OnlyAdds (step : ContributionStep) : Prop :=
  ∀ i ∈ step.instructions, i.action.IsAddition

variable {step : ContributionStep} {steps others : List ContributionStep} {w v : Workbench}

/-- Whether a step that only adds is stopped does not depend on what is there. -/
theorem OnlyAdds.passes (adds : step.OnlyAdds) (passes : step.Passes w) (v : Workbench) :
    step.Passes v := by
  intro n
  have passed := passes n
  unfold stopAt? at passed ⊢
  cases found : step.instructions[n]? with
  | none => rfl
  | some i =>
      rw [found, Option.bind_some, Instruction.stop?] at passed
      rw [Option.bind_some, Instruction.stop?,
        (adds i (List.mem_of_getElem? found)).outcome_eq step.name _
          (Action.runAll step.name (step.actions.take n) w).2]
      exact passed

/-- Steps that only add all pass if each of them passes on its own. -/
theorem allPass_iff (adds : ∀ step ∈ steps, step.OnlyAdds) :
    AllPass steps w ↔ ∀ step ∈ steps, step.Passes w := by
  constructor
  · intro passes step mem
    obtain ⟨n, found⟩ := List.mem_iff_getElem?.1 mem
    exact (adds step mem).passes (passes n step found) w
  · intro passes n step found
    have mem := List.mem_of_getElem? found
    exact (adds step mem).passes (passes step mem) _

/-- Steps that leave something are not stopped. -/
theorem allPass_of_runAll {after : Workbench} (ran : (runAll steps w).2 = .ok after) :
    AllPass steps w := by
  refine allPass_of_not_failsAt fun n error fails => ?_
  rw [(runAll_of_failsAt fails).1] at ran
  cases ran

/-- Steps that only add and that all pass do so in every order. -/
theorem AllPass.perm (passes : AllPass steps w) (adds : ∀ step ∈ steps, step.OnlyAdds)
    (perm : steps.Perm others) : AllPass others w := by
  have rearranged : ∀ step ∈ others, step.OnlyAdds :=
    fun step mem => adds step (perm.mem_iff.2 mem)
  rw [allPass_iff rearranged]
  exact fun step mem => (allPass_iff adds).1 passes step (perm.mem_iff.2 mem)

/-- Two steps declare nothing under the same name: no resource that is accepted, no output, and
nothing else. -/
structure Apart (first second : ContributionStep) : Prop where
  parameters : NameMap.Apart (fun step => step.actions.flatMap Action.parameters) first second
  mappings : NameMap.Apart (fun step => step.actions.flatMap Action.mappings) first second
  conditions : NameMap.Apart (fun step => step.actions.flatMap Action.conditions) first second
  resources : NameMap.Apart (fun step => step.actions.flatMap Action.resources) first second
  outputs : NameMap.Apart (fun step => step.actions.flatMap Action.outputs) first second

end ContributionStep

/-! ## What is left in any order -/

/-- Two workbenches hold the same declarations. The nodes of their graphs may stand in different
orders. -/
structure Workbench.HoldsSame (w v : Workbench) : Prop where
  parameters : w.assembler.parameters = v.assembler.parameters
  mappings : w.assembler.mappings = v.assembler.mappings
  conditions : w.assembler.conditions = v.assembler.conditions
  resources : w.assembler.resources = v.assembler.resources
  outputs : w.outputs = v.outputs

namespace ContributionStep

variable {steps others : List ContributionStep}

/-- What steps declare in a section where they are apart can be set in any order. -/
theorem insertAll_allActions_perm {α : Type} {declared : Action → List (String × α)}
    (apart : steps.Pairwise (NameMap.Apart fun step => step.actions.flatMap declared))
    (perm : steps.Perm others) (m : NameMap α) :
    m.insertAll ((allActions steps).flatMap declared) =
      m.insertAll ((allActions others).flatMap declared) := by
  rw [allActions, allActions, List.flatMap_assoc, List.flatMap_assoc]
  exact NameMap.insertAll_flatMap_perm m apart perm

/-- Steps that are apart leave the same declarations in every order. -/
theorem holdsSame_leaveAll (apart : steps.Pairwise Apart) (perm : steps.Perm others)
    (w : Workbench) : (leaveAll steps w).HoldsSame (leaveAll others w) := by
  have gained := gains_leaveAll steps w
  have regained := gains_leaveAll others w
  constructor
  · rw [gained.parameters, regained.parameters,
      insertAll_allActions_perm (apart.imp Apart.parameters) perm]
  · rw [gained.mappings, regained.mappings,
      insertAll_allActions_perm (apart.imp Apart.mappings) perm]
  · rw [gained.conditions, regained.conditions,
      insertAll_allActions_perm (apart.imp Apart.conditions) perm]
  · rw [gained.resources, regained.resources,
      insertAll_allActions_perm (apart.imp Apart.resources) perm]
  · rw [gained.outputs, regained.outputs, insertAll_allActions_perm (apart.imp Apart.outputs) perm]

end ContributionStep

namespace Assembler

/-- Two builds agree: both give the same template, and so the same text, or both fail with a
circular dependency. The cycles that they report may differ. -/
def BuildsAgree (first second : Build) : Prop :=
  (∃ t, first.result = .ok t ∧ second.result = .ok t) ∨
    ∃ cycle other, first.result = .error (.circularDependency cycle) ∧
      second.result = .error (.circularDependency other)

/-- Assemblies with the same declarations are finished alike, because the resources decide whether
there is a cycle. -/
theorem finish_of_holdsSame {w v : Workbench} (same : w.HoldsSame v)
    (recorded : w.assembler.Recorded) (other : v.assembler.Recorded)
    (description : Option String) :
    (∃ t, w.assembler.finish description w.outputs = .ok t ∧
      v.assembler.finish description v.outputs = .ok t) ∨
    ∃ cycle cycle',
      w.assembler.finish description w.outputs = .error (.circularDependency cycle) ∧
        v.assembler.finish description v.outputs = .error (.circularDependency cycle') := by
  unfold finish
  rw [same.parameters, same.mappings, same.conditions, same.resources, same.outputs]
  by_cases cyclic : HasCycle w.assembler.resources
  · obtain ⟨cycle, found⟩ := recorded.checkCycles_eq_error cyclic
    rw [same.resources] at cyclic
    obtain ⟨cycle', found'⟩ := other.checkCycles_eq_error cyclic
    rw [found, found']
    exact .inr ⟨cycle, cycle', rfl, rfl⟩
  · have passed := recorded.checkCycles_eq_ok cyclic
    rw [same.resources] at cyclic
    rw [passed, other.checkCycles_eq_ok cyclic]
    exact .inl ⟨_, rfl, rfl⟩

/-- The order of independent steps does not matter. Whatever was declared directly and whatever the
settings say, if steps that only add are apart from each other and all succeed, then a build with
the steps in any other order gives the same template, or both builds fail with a circular
dependency. -/
theorem independent_steps_commute (label : String) (direct : List Action)
    (settings : TemplateSettings) (steps others : List ContributionStep)
    (adds : ∀ step ∈ steps, step.OnlyAdds) (apart : steps.Pairwise ContributionStep.Apart)
    (succeed : ∃ after, (ContributionStep.runAll steps
      ⟨(Action.runAll label direct ⟨.empty, .empty⟩).2.assembler.withSettings settings,
        .empty⟩).2 = .ok after)
    (perm : steps.Perm others) :
    let a := (Action.runAll label direct ⟨.empty, .empty⟩).2.assembler
    BuildsAgree (a.build settings steps) (a.build settings others) := by
  intro a
  obtain ⟨after, ran⟩ := succeed
  have passes := ContributionStep.allPass_of_runAll ran
  have declared : a.Recorded := Action.recorded_runAll label direct recorded_empty
  have recorded : (a.withSettings settings).Recorded := ⟨declared.listed, declared.edges⟩
  unfold BuildsAgree
  rw [(build_of_allPass passes).1, (build_of_allPass (passes.perm adds perm)).1]
  exact finish_of_holdsSame (ContributionStep.holdsSame_leaveAll apart perm _)
    (ContributionStep.recorded_leaveAll recorded steps)
    (ContributionStep.recorded_leaveAll recorded others) settings.description

/-- A step that adds one resource, with nothing stated about it but its properties. -/
def resourceStep (id type : String) (properties : Value) : ContributionStep :=
  ⟨id, [⟨.addResource id type properties ⟨.empty, none, .delete, none⟩, false⟩]⟩

/-- A step for a network. -/
def networkStep : ContributionStep :=
  resourceStep "Network" "AWS::EC2::VPC" .null

/-- A step for a server in the network. -/
def serverStep : ContributionStep :=
  resourceStep "Server" "AWS::EC2::Instance"
    (.object [("NetworkId", .object [("Ref", .string "Network")])])

/-- A server and the network that it refers to can be declared in either order. -/
theorem server_and_network_commute :
    (∀ step ∈ [serverStep, networkStep], step.OnlyAdds) ∧
    [serverStep, networkStep].Pairwise ContributionStep.Apart ∧
    (∃ after, (ContributionStep.runAll [serverStep, networkStep] ⟨empty, .empty⟩).2 = .ok after) ∧
    BuildsAgree (empty.build .none [serverStep, networkStep])
      (empty.build .none [networkStep, serverStep]) := by
  have adds : ∀ step ∈ [serverStep, networkStep], step.OnlyAdds := by
    simp [ContributionStep.OnlyAdds, serverStep, networkStep, resourceStep, Action.IsAddition]
  have apart : [serverStep, networkStep].Pairwise ContributionStep.Apart := by
    refine List.pairwise_pair.2 ⟨?_, ?_, ?_, ?_, ?_⟩ <;> decide
  have succeed : ∃ after, (ContributionStep.runAll [serverStep, networkStep]
      ⟨empty, .empty⟩).2 = .ok after :=
    ⟨_, rfl⟩
  exact ⟨adds, apart, succeed, independent_steps_commute "main" [] .none _ _ adds apart succeed
    (.swap _ _ _)⟩

/-- The cycle that is reported for two queues that refer to each other tells the order of their
steps. -/
example :
    let queue (id peer : String) :=
      resourceStep id "AWS::SQS::Queue" (.object [("Peer", .object [("Ref", .string peer)])])
    (empty.build .none [queue "First" "Second", queue "Second" "First"]).result =
        .error (.circularDependency ⟨"First", ["First", "Second", "First"]⟩) ∧
      (empty.build .none [queue "Second" "First", queue "First" "Second"]).result =
        .error (.circularDependency ⟨"Second", ["Second", "First", "Second"]⟩) :=
  ⟨rfl, rfl⟩

end Assembler

end StackDeploy
