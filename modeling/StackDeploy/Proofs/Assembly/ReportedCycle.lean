/-
# Reported cycles

A check that fails names a cycle. The search has cut the cycle out of its path, so it is a closed
chain of edges in the graph of the assembler; here it is seen from the declarations. Every node on
a closed chain has an edge, and only declared resources have edges, so no undeclared name gets into
the report. An edge is a dependency of the definition that is current when the check is made: what
an earlier definition of the same resource depended on is in no report.
-/

import StackDeploy.Proofs.Assembly.Merge

namespace StackDeploy

open Json (Value)

/-- A cycle is one of the declared resources: its path leads from the named resource back to it,
comes by no other resource twice, and goes on from each resource to one that it requires. -/
structure DependencyCycle.IsOf (resources : NameMap Resource) (cycle : DependencyCycle) :
    Prop where
  two_le_length : 2 ≤ cycle.path.length
  starts : cycle.path.head? = some cycle.id
  ends : cycle.path.getLast? = some cycle.id
  nodup : cycle.path.dropLast.Nodup
  declared : ∀ id ∈ cycle.path, resources.contains id = true
  requires : cycle.path.IsChain (Requires resources)

namespace Assembler

variable {a : Assembler}

/-- A closed chain in the graph of an assembler is a cycle of its resources. -/
theorem Recorded.isOf_of_closed (recorded : a.Recorded) {cycle : DependencyCycle}
    (closed : a.combinedGraph.Closed cycle) : cycle.IsOf a.resources := by
  have declared : ∀ id ∈ cycle.path, a.resources.contains id = true := by
    intro id mem
    obtain ⟨target, edge⟩ := closed.exists_edge mem
    obtain ⟨r, current, -⟩ := recorded.edge_combinedGraph_iff.1 edge
    exact NameMap.contains_iff_exists.2 ⟨r, current⟩
  obtain ⟨chain, between, path, nodup⟩ := closed
  rw [recorded.edge_combinedGraph] at chain
  refine ⟨?_, ?_, ?_, ?_, declared, chain⟩
  · rw [path, List.length_append]
    exact Nat.le_add_left 2 between.length
  · rw [path]
    rfl
  · rw [path]
    exact List.getLast?_concat
  · rw [path, List.dropLast_concat]
    exact nodup

/-- Whatever the check reports is a circular dependency, and its cycle is real. -/
theorem Recorded.exists_isOf_of_checkCycles (recorded : a.Recorded) {error : AssemblyError}
    (failed : a.checkCycles = .error error) :
    ∃ cycle, error = .circularDependency cycle ∧ cycle.IsOf a.resources := by
  unfold checkCycles at failed
  cases found : a.combinedGraph.findCycle with
  | none =>
      rw [found] at failed
      cases failed
  | some cycle =>
      rw [found] at failed
      cases failed
      exact ⟨cycle, rfl, recorded.isOf_of_closed
        (DependencyGraph.closed_of_findCycle_eq_some recorded.listed_combinedGraph found)⟩

/-- If the check fails in a state that actions lead to, it reports a cycle of the resources as they
are declared in that state. So does a build, for the resources that are declared where it ends. -/
theorem reported_cycle_is_real (step : String) (actions : List Action) :
    let a := (Action.runAll step actions ⟨.empty, .empty⟩).2.assembler
    (∀ error, a.checkCycles = .error error →
      ∃ cycle, error = .circularDependency cycle ∧ cycle.IsOf a.resources) ∧
      ∀ settings steps cycle,
        (a.build settings steps).result = .error (.circularDependency cycle) →
          cycle.IsOf (a.built settings steps).resources := by
  intro a
  have recorded : a.Recorded := Action.recorded_runAll step actions recorded_empty
  refine ⟨fun _ failed => recorded.exists_isOf_of_checkCycles failed, ?_⟩
  intro settings steps cycle stopped
  obtain ⟨reached, -, fails⟩ := recorded.build_cases settings steps
  obtain ⟨reported, same, real⟩ := reached.exists_isOf_of_checkCycles (fails cycle stopped)
  cases same
  exact real

/-- A queue that depends on another one. -/
def addQueue (id peer : String) : Action :=
  .addResource id "AWS::SQS::Queue" .null ⟨.ofList [peer], none, .delete, none⟩

/-- A queue that refers to another one. -/
def addReferringQueue (id peer : String) : Action :=
  .addResource id "AWS::SQS::Queue" (.object [("Peer", .object [("Ref", .string peer)])])
    ⟨.empty, none, .delete, none⟩

/-- The report follows the second definition of the first queue, and not the dependency on a third
one that the definition before it had. -/
theorem queues_that_wait_for_each_other_are_reported :
    let a := (Action.runAll "main" [addQueue "First" "Third", addReferringQueue "Second" "First",
      addQueue "First" "Second"] ⟨.empty, .empty⟩).2.assembler
    a.checkCycles = .error (.circularDependency ⟨"First", ["First", "Second", "First"]⟩) ∧
      DependencyCycle.IsOf a.resources ⟨"First", ["First", "Second", "First"]⟩ := by
  intro a
  have failed : a.checkCycles =
      .error (.circularDependency ⟨"First", ["First", "Second", "First"]⟩) := rfl
  obtain ⟨cycle, same, real⟩ := (reported_cycle_is_real "main" _).1 _ failed
  cases same
  exact ⟨failed, real⟩

end Assembler

end StackDeploy
