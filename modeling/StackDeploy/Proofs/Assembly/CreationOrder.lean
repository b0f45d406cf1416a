/-
# Creation orders

Resources can be created one after the other if each comes after the declared resources that it
depends on or refers to. The check for cycles decides whether there is such an order. If the search
succeeds, the order in which it left the nodes is one, once the names that are not declared are
dropped from it; if it fails, the positions along the cycle that it found would have to decrease and
come back to where they started.
-/

import Mathlib.Data.List.Basic
import StackDeploy.Proofs.Assembly.State

namespace StackDeploy

open Json (Value)

/-- An order in which declared resources can be created: it holds each of them once, and each comes
strictly after the declared resources that it depends on explicitly or refers to. -/
structure CreationOrder (resources : NameMap Resource) (order : List String) : Prop where
  nodup : order.Nodup
  mem_iff : ∀ id, id ∈ order ↔ resources.contains id = true
  before : ∀ id r, resources.get? id = some r → ∀ target, resources.contains target = true →
    target ∈ r.dependsOn.names ∨ target ∈ r.implicitReferences.names →
    order.idxOf target < order.idxOf id

namespace DependencyGraph

variable {g : DependencyGraph} {order : List String} {keep : String → Bool}

theorem Ordered.nodup (ordered : g.Ordered order) : order.Nodup := by
  induction ordered with
  | nil => exact List.nodup_nil
  | snoc _ fresh _ ih =>
      rw [List.nodup_append]
      refine ⟨ih, List.pairwise_singleton _ _, fun other earlier last mem same => fresh ?_⟩
      rw [← List.mem_singleton.1 mem, ← same]
      exact earlier

/-- What is kept of an ordered list is still in order. -/
theorem Ordered.idxOf_lt_of_edge (ordered : g.Ordered order) {node target : String}
    (listed : node ∈ order.filter keep) (edge : g.Edge node target) (kept : keep target = true) :
    (order.filter keep).idxOf target < (order.filter keep).idxOf node := by
  induction ordered with
  | nil => cases listed
  | @snoc done last _ fresh below ih =>
      rw [List.filter_append] at listed ⊢
      have target_earlier (later : last = node) : target ∈ done.filter keep :=
        List.mem_filter.2 ⟨below target (later ▸ edge), kept⟩
      by_cases earlier : node ∈ done.filter keep
      · have position := ih earlier
        have target_mem : target ∈ done.filter keep :=
          List.idxOf_lt_length_iff.1 (position.trans (List.idxOf_lt_length_of_mem earlier))
        rw [List.idxOf_append_of_mem target_mem, List.idxOf_append_of_mem earlier]
        exact position
      · have is_last : last = node := by
          rcases List.mem_append.1 listed with mem | mem
          · exact absurd mem earlier
          · exact (List.mem_singleton.1 (List.mem_of_mem_filter mem)).symm
        rw [List.idxOf_append_of_mem (target_earlier is_last), List.idxOf_append_of_notMem earlier]
        exact Nat.lt_add_right _ (List.idxOf_lt_length_of_mem (target_earlier is_last))

/-- Every node of a closed chain has an edge. -/
theorem Closed.exists_edge {cycle : DependencyCycle} (closed : g.Closed cycle) {node : String}
    (mem : node ∈ cycle.path) : ∃ target, g.Edge node target := by
  obtain ⟨chain, between, path, -⟩ := closed
  rw [path] at chain mem
  have inside : node ∈ cycle.id :: between := by
    rcases List.mem_append.1 mem with inside | last
    · exact inside
    · rw [List.mem_singleton.1 last]
      exact List.mem_cons_self
  obtain ⟨before, after, split⟩ := List.append_of_mem inside
  rw [split, List.append_assoc] at chain
  have from_node := chain.right_of_append
  cases after with
  | nil => exact ⟨cycle.id, (List.isChain_cons_cons.1 from_node).1⟩
  | cons next rest => exact ⟨next, (List.isChain_cons_cons.1 from_node).1⟩

end DependencyGraph

namespace Assembler

variable {a : Assembler} {order : List String}

/-- A search that finds nothing leaves a creation order behind. -/
theorem Recorded.exists_creationOrder (recorded : a.Recorded)
    (acyclic : a.combinedGraph.findCycle = none) : ∃ order, CreationOrder a.resources order := by
  obtain ⟨order, ordered, all⟩ :=
    DependencyGraph.exists_ordered_of_findCycle_eq_none recorded.listed_combinedGraph acyclic
  have mem_iff (id : String) :
      id ∈ order.filter a.resources.contains ↔ a.resources.contains id = true := by
    rw [List.mem_filter]
    exact and_iff_right_of_imp fun declared => all (recorded.mem_order_combinedGraph declared)
  refine ⟨order.filter a.resources.contains, ordered.nodup.filter _, mem_iff, ?_⟩
  intro id r declared target target_declared depends
  have edge : a.combinedGraph.Edge id target :=
    recorded.edge_combinedGraph_iff.2 ⟨r, declared, depends.imp_right fun mem =>
      ⟨mem, target_declared⟩⟩
  exact ordered.idxOf_lt_of_edge ((mem_iff id).2 (NameMap.contains_iff_exists.2 ⟨r, declared⟩)) edge
    target_declared

/-- No creation order goes along a closed chain of edges. -/
theorem Recorded.not_closed_of_creationOrder (recorded : a.Recorded)
    (creation : CreationOrder a.resources order) (cycle : DependencyCycle) :
    ¬ a.combinedGraph.Closed cycle := by
  intro closed
  have declared (node : String) (mem : node ∈ cycle.path) :
      ∃ r, a.resources.get? node = some r := by
    obtain ⟨target, edge⟩ := closed.exists_edge mem
    obtain ⟨r, known, -⟩ := recorded.edge_combinedGraph_iff.1 edge
    exact ⟨r, known⟩
  have descends : cycle.path.IsChain fun node target =>
      order.idxOf node > order.idxOf target := by
    refine List.IsChain.imp_of_mem_imp (fun node target mem target_mem edge => ?_) closed.1
    obtain ⟨r, known, depends⟩ := recorded.edge_combinedGraph_iff.1 edge
    exact creation.before node r known target
      (NameMap.contains_iff_exists.2 (declared target target_mem)) (depends.imp_right And.left)
  obtain ⟨-, between, path, -⟩ := closed
  have positions := (List.isChain_map order.idxOf).2 descends
  rw [path, List.cons_append, List.map_cons] at positions
  have last : order.idxOf cycle.id ∈ (between ++ [cycle.id]).map order.idxOf :=
    List.mem_map_of_mem (List.mem_append_right _ List.mem_cons_self)
  exact Nat.lt_irrefl _ (positions.rel_cons last)

/-- The check for cycles decides whether the declared resources have a creation order. -/
theorem Recorded.checkCycles_eq_ok_iff (recorded : a.Recorded) :
    a.checkCycles = .ok () ↔ ∃ order, CreationOrder a.resources order := by
  unfold checkCycles
  cases found : a.combinedGraph.findCycle with
  | none => exact iff_of_true rfl (recorded.exists_creationOrder found)
  | some cycle =>
      refine iff_of_false (fun passed => nomatch passed) ?_
      rintro ⟨order, creation⟩
      exact recorded.not_closed_of_creationOrder creation cycle
        (DependencyGraph.closed_of_findCycle_eq_some recorded.listed_combinedGraph found)

/-- The assembler that a build leaves: after its last step, or where a step stops it. -/
def built (settings : TemplateSettings) (steps : List ContributionStep) (a : Assembler) :
    Assembler :=
  (ContributionStep.leaves steps ⟨a.withSettings settings, .empty⟩).assembler

/-- The result of a build, seen from the assembler that it leaves. -/
theorem Recorded.build_cases (recorded : a.Recorded) (settings : TemplateSettings)
    (steps : List ContributionStep) :
    (a.built settings steps).Recorded ∧
      (∀ t, (a.build settings steps).result = .ok t →
        t.resources = (a.built settings steps).resources ∧
          (a.built settings steps).checkCycles = .ok ()) ∧
        ∀ cycle, (a.build settings steps).result = .error (.circularDependency cycle) →
          (a.built settings steps).checkCycles = .error (.circularDependency cycle) := by
  have settled : (a.withSettings settings).Recorded := ⟨recorded.listed, recorded.edges⟩
  have explains := ContributionStep.explains_runAll (w := ⟨a.withSettings settings, .empty⟩) steps
    settled
  refine ⟨explains.recorded, fun t finished => ?_, fun cycle stopped => ?_⟩
  · obtain ⟨after, ended, finished⟩ := ok_of_bind finished
    obtain ⟨_, checked, template⟩ := ok_of_map finished
    rw [explains.ended after ended] at checked template
    cases template
    exact ⟨rfl, checked⟩
  · unfold build at stopped
    dsimp only at stopped
    cases result : (ContributionStep.runAll steps ⟨a.withSettings settings, .empty⟩).2 with
    | error error =>
        rw [result] at stopped
        cases stopped
        exact explains.stopped cycle result
    | ok after =>
        rw [result] at stopped
        change (after.assembler.checkCycles.map _) = _ at stopped
        have same : after.assembler = a.built settings steps :=
          congrArg Workbench.assembler (explains.ended after result)
        rw [same] at stopped
        cases checked : (a.built settings steps).checkCycles with
        | error error =>
            rw [checked] at stopped
            cases stopped
            rfl
        | ok =>
            rw [checked] at stopped
            cases stopped

/-- The check for cycles decides, in every state that actions lead to, whether the declared
resources have a creation order. A build that gives a template has checked that its resources have
one, and it reports a circular dependency only if the resources declared so far have none. -/
theorem checkCycles_decides_creationOrder (step : String) (actions : List Action) :
    let a := (Action.runAll step actions ⟨.empty, .empty⟩).2.assembler
    (a.checkCycles = .ok () ↔ ∃ order, CreationOrder a.resources order) ∧
      ∀ settings steps,
        (∀ t, (a.build settings steps).result = .ok t → ∃ order, CreationOrder t.resources order) ∧
        ∀ cycle, (a.build settings steps).result = .error (.circularDependency cycle) →
          ¬ ∃ order, CreationOrder (a.built settings steps).resources order := by
  intro a
  have recorded : a.Recorded := Action.recorded_runAll step actions recorded_empty
  refine ⟨recorded.checkCycles_eq_ok_iff, fun settings steps => ?_⟩
  obtain ⟨built_recorded, succeeds, fails⟩ := recorded.build_cases settings steps
  constructor
  · intro t finished
    obtain ⟨same, checked⟩ := succeeds t finished
    rw [same]
    exact built_recorded.checkCycles_eq_ok_iff.1 checked
  · intro cycle stopped orderable
    have checked := built_recorded.checkCycles_eq_ok_iff.2 orderable
    rw [fails cycle stopped] at checked
    cases checked

end Assembler

end StackDeploy
