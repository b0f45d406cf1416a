/-
# What an assembly records

An assembler records the explicit dependencies of a resource beside its definition. The two agree in
every state that actions on an empty assembler lead to, whether the actions succeed or fail. Steps
are sequences of such actions that may stop early, and where they stop is where a build reports its
error from.
-/

import StackDeploy.Proofs.Assembly.Declarations
import StackDeploy.Proofs.Assembly.Search

namespace StackDeploy

open Json (Value)

namespace DependencyGraph

variable {g : DependencyGraph} {node : String}

theorem listed_empty : empty.Listed :=
  fun _ => iff_of_false List.not_mem_nil Bool.false_ne_true

/-- A graph whose edges are set at a node that its order lists from then on. -/
private theorem listed_insert (listed : g.Listed) (targets : NameSet) :
    Listed ⟨g.withNode node, g.edges.insert node targets⟩ := by
  intro other
  have there : (g.edges.insert node targets).contains other = true ↔
      node = other ∨ g.edges.contains other = true := by
    rw [NameMap.contains, NameMap.get?_insert]
    split
    · next same => exact iff_of_true rfl (Or.inl same)
    · next different => exact ⟨Or.inr, fun known => known.resolve_left different⟩
  refine Iff.trans ?_ there.symm
  rw [← listed other]
  show other ∈ g.withNode node ↔ _
  unfold withNode
  split
  · next known =>
      refine ⟨Or.inr, fun mem => mem.elim (fun same => ?_) id⟩
      rw [← same]
      exact (listed node).2 known
  · rw [List.mem_append, List.mem_singleton, or_comm, eq_comm]

theorem Listed.setEdges (listed : g.Listed) (targets : NameSet) :
    (g.setEdges node targets).Listed :=
  listed_insert listed targets

theorem Listed.extendEdges (listed : g.Listed) (targets : NameSet) :
    (g.extendEdges node targets).Listed :=
  listed_insert listed _

theorem edge_extendEdges_iff {names : NameSet} {source target : String} :
    (g.extendEdges node names).Edge source target ↔
      g.Edge source target ∨ source = node ∧ target ∈ names.names := by
  unfold Edge targets extendEdges
  rw [NameMap.get?_insert]
  split
  · next same =>
      rw [Option.getD_some, NameSet.mem_union, same]
      exact or_congr Iff.rfl (and_iff_right rfl).symm
  · next different =>
      exact ⟨Or.inl, fun edge => edge.resolve_right fun ⟨same, _⟩ => different same.symm⟩

variable {entries : List (String × Resource)} {names : Resource → NameSet}

/-- Edges are added for one entry after the other. -/
theorem edge_foldl_extendEdges_iff {source target : String} :
    (entries.foldl (fun graph entry => graph.extendEdges entry.1 (names entry.2)) g).Edge
        source target ↔
      g.Edge source target ∨ ∃ r, (source, r) ∈ entries ∧ target ∈ (names r).names := by
  induction entries generalizing g with
  | nil => simp
  | cons entry rest ih =>
      obtain ⟨name, r⟩ := entry
      rw [List.foldl_cons, ih, edge_extendEdges_iff, or_assoc]
      refine or_congr Iff.rfl ⟨?_, ?_⟩
      · rintro (⟨rfl, mem⟩ | ⟨other, later, mem⟩)
        · exact ⟨r, List.mem_cons_self, mem⟩
        · exact ⟨other, List.mem_cons_of_mem _ later, mem⟩
      · rintro ⟨other, there, mem⟩
        rcases List.mem_cons.1 there with same | later
        · cases same
          exact Or.inl ⟨rfl, mem⟩
        · exact Or.inr ⟨other, later, mem⟩

theorem Listed.foldl_extendEdges (listed : g.Listed) :
    Listed (entries.foldl (fun graph entry => graph.extendEdges entry.1 (names entry.2)) g) := by
  induction entries generalizing g with
  | nil => exact listed
  | cons entry rest ih => exact ih (listed.extendEdges (names entry.2))

theorem contains_foldl_extendEdges {name : String} (known : g.edges.contains name = true) :
    (entries.foldl (fun graph entry => graph.extendEdges entry.1 (names entry.2)) g).edges.contains
      name = true := by
  induction entries generalizing g with
  | nil => exact known
  | cons entry rest ih =>
      refine ih ?_
      show (g.edges.insert entry.1 _).contains name = true
      rw [NameMap.contains, NameMap.get?_insert]
      split
      · rfl
      · exact known

end DependencyGraph

/-- The graph of an assembler lists exactly the declared resources, and its edges are the explicit
dependencies of their definitions. -/
structure Assembler.Recorded (a : Assembler) : Prop where
  listed : a.graph.Listed
  edges : ∀ id, a.graph.edges.get? id = (a.resources.get? id).map Resource.dependsOn

namespace Assembler

variable {a : Assembler}

theorem recorded_empty : empty.Recorded :=
  ⟨DependencyGraph.listed_empty, fun _ => rfl⟩

/-- What is added has the dependencies that were stated. -/
theorem dependsOn_of_checkedResource {id type : String} {properties : Value}
    {options : ResourceOptions} {r : Resource}
    (checked : checkedResource id type properties options = .ok r) :
    r.dependsOn = options.dependsOn := by
  obtain ⟨members, rfl, -⟩ := checkedResource_eq_ok_iff.1 checked
  rfl

/-- A new definition replaces the edges of an old one. -/
theorem Recorded.addResource {id type : String} {properties : Value} {options : ResourceOptions}
    {after : Assembler} (recorded : a.Recorded)
    (added : a.addResource id type properties options = .ok after) : after.Recorded := by
  unfold Assembler.addResource at added
  obtain ⟨r, checked, result⟩ := ok_of_map added
  cases result
  refine ⟨recorded.listed.setEdges options.dependsOn, fun other => ?_⟩
  show (a.graph.edges.insert id options.dependsOn).get? other =
    ((a.resources.insert id r).get? other).map Resource.dependsOn
  rw [NameMap.get?_insert, NameMap.get?_insert]
  split
  · rw [Option.map_some, dependsOn_of_checkedResource checked]
  · exact recorded.edges other

/-- The edges of the combined graph are the explicit dependencies and the references that lead to
declared resources. -/
theorem Recorded.edge_combinedGraph_iff (recorded : a.Recorded) {node target : String} :
    a.combinedGraph.Edge node target ↔
      ∃ r, a.resources.get? node = some r ∧
        (target ∈ r.dependsOn.names ∨
          target ∈ r.implicitReferences.names ∧ a.resources.contains target = true) := by
  have explicit : a.graph.Edge node target ↔
      ∃ r, a.resources.get? node = some r ∧ target ∈ r.dependsOn.names := by
    unfold DependencyGraph.Edge DependencyGraph.targets
    rw [recorded.edges]
    cases a.resources.get? node <;> simp [NameSet.empty]
  unfold combinedGraph
  rw [DependencyGraph.edge_foldl_extendEdges_iff, explicit, ← exists_or]
  refine exists_congr fun r => ?_
  rw [← NameMap.get?_eq_some_iff, ← and_or_left, declaredReferences, NameSet.filter,
    List.mem_filter]

theorem Recorded.listed_combinedGraph (recorded : a.Recorded) : a.combinedGraph.Listed :=
  recorded.listed.foldl_extendEdges

/-- The declared resources are nodes of the combined graph. -/
theorem Recorded.mem_order_combinedGraph (recorded : a.Recorded) {id : String}
    (declared : a.resources.contains id = true) : id ∈ a.combinedGraph.order := by
  rw [recorded.listed_combinedGraph]
  refine DependencyGraph.contains_foldl_extendEdges ?_
  rw [NameMap.contains, recorded.edges, Option.isSome_map]
  exact declared

/-- Whatever circular dependency an addition reports, it is not its own. -/
theorem addResource_ne_circularDependency {id type : String} {properties : Value}
    {options : ResourceOptions} {cycle : DependencyCycle} :
    a.addResource id type properties options ≠ .error (.circularDependency cycle) := by
  unfold Assembler.addResource checkedResource
  dsimp only
  intro failed
  split at failed
  · cases failed
  · split at failed
    · cases failed
    · split at failed
      · cases failed
      · split at failed <;> cases failed

end Assembler

namespace Action

variable {step : String} {w : Workbench}

/-- Every action keeps the record, whether it succeeds or fails. -/
theorem recorded_run (step : String) (action : Action) (recorded : w.assembler.Recorded) :
    (action.run step w).2.assembler.Recorded := by
  cases action with
  | addResource id type properties options =>
      unfold run
      dsimp only
      cases added : w.assembler.addResource id type properties options with
      | error cause => exact recorded
      | ok after => exact recorded.addResource added
  | checkCycles =>
      unfold run
      dsimp only
      cases w.assembler.checkCycles with
      | error cause => exact recorded
      | ok => exact recorded
  | addParameter | addMapping | addCondition => exact ⟨recorded.listed, recorded.edges⟩
  | _ => exact recorded

theorem recorded_runAll (step : String) (actions : List Action) (recorded : w.assembler.Recorded) :
    (runAll step actions w).2.assembler.Recorded := by
  induction actions generalizing w with
  | nil => exact recorded
  | cons action rest ih => exact ih (recorded_run step action recorded)

/-- An action that reports a circular dependency is a check that found it, and changes nothing. -/
theorem checkCycles_of_failed {action : Action} {cycle : DependencyCycle} {after : Workbench}
    (failed : action.run step w = (.failed (.circularDependency cycle), after)) :
    after = w ∧ w.assembler.checkCycles = .error (.circularDependency cycle) := by
  cases action with
  | addResource id type properties options =>
      unfold run at failed
      dsimp only at failed
      cases added : w.assembler.addResource id type properties options with
      | error cause =>
          rw [added] at failed
          cases failed
          exact absurd added Assembler.addResource_ne_circularDependency
      | ok after =>
          rw [added] at failed
          cases failed
  | checkCycles =>
      unfold run at failed
      dsimp only at failed
      cases checked : w.assembler.checkCycles with
      | error cause =>
          rw [checked] at failed
          cases failed
          exact ⟨rfl, rfl⟩
      | ok =>
          rw [checked] at failed
          cases failed
  | _ => cases failed

end Action

namespace ContributionStep

variable {w : Workbench}

/-- The workbench that instructions leave, at their end or where they stop. -/
def leavesInstructions (step : String) : List Instruction → Workbench → Workbench
  | [], w => w
  | instruction :: rest, w =>
    let (outcome, w) := instruction.action.run step w
    match outcome, instruction.ignoresError with
    | .failed _, false => w
    | _, _ => leavesInstructions step rest w

/-- The workbench that steps leave, after the last one or where one of them stops. -/
def leaves : List ContributionStep → Workbench → Workbench
  | [], w => w
  | step :: rest, w =>
    match (step.run w).result with
    | .error _ => leavesInstructions step.name step.instructions w
    | .ok w => leaves rest w

/-- What the result of a run says about the workbench that the run leaves: it is that workbench,
and a circular dependency was reported by a check of its assembler. -/
structure Explains (after : Workbench) (result : Except AssemblyError Workbench) : Prop where
  recorded : after.assembler.Recorded
  ended : ∀ w, result = .ok w → w = after
  stopped : ∀ cycle, result = .error (.circularDependency cycle) →
    after.assembler.checkCycles = .error (.circularDependency cycle)

theorem explains_runInstructions (step : String) (instructions : List Instruction)
    (recorded : w.assembler.Recorded) :
    Explains (leavesInstructions step instructions w)
      (runInstructions step instructions w).result := by
  induction instructions generalizing w with
  | nil =>
      refine ⟨recorded, fun after ended => ?_, fun cycle stopped => nomatch stopped⟩
      cases ended
      rfl
  | cons instruction rest ih =>
      obtain ⟨action, ignoresError⟩ := instruction
      have kept := Action.recorded_run step action recorded
      unfold leavesInstructions runInstructions
      dsimp only
      cases ran : action.run step w with
      | mk outcome after =>
          rw [ran] at kept
          cases outcome with
          | failed error =>
              cases ignoresError with
              | true => exact ih kept
              | false =>
                  refine ⟨kept, fun _ ended => (nomatch ended), fun cycle stopped => ?_⟩
                  cases stopped
                  obtain ⟨unchanged, checked⟩ := Action.checkCycles_of_failed ran
                  rw [unchanged]
                  exact checked
          | _ => exact ih kept

theorem explains_runAll (steps : List ContributionStep) (recorded : w.assembler.Recorded) :
    Explains (leaves steps w) (runAll steps w).2 := by
  induction steps generalizing w with
  | nil =>
      refine ⟨recorded, fun after ended => ?_, fun cycle stopped => nomatch stopped⟩
      cases ended
      rfl
  | cons step rest ih =>
      have explains : Explains (leavesInstructions step.name step.instructions w)
          (step.run w).result := explains_runInstructions step.name step.instructions recorded
      unfold leaves runAll
      cases ran : step.run w with
      | mk outcomes result =>
          rw [ran] at explains
          cases result with
          | error error => exact explains
          | ok after =>
              have reached := explains.recorded
              rw [← explains.ended after rfl] at reached
              exact ih reached

end ContributionStep

end StackDeploy
