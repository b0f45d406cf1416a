/-
# Dependency graphs

A dependency graph leads from every declared resource to the names it depends on. Resources keep
the order in which they were first declared, so that the same graph always reports the same cycle.
The search for a cycle goes depth first from every resource in that order and along the targets in
the order of their names. A name without edges of its own is a leaf.
-/

import StackDeploy.Names.Map
import StackDeploy.Names.Set

namespace StackDeploy

/-- The edges from each node, and the nodes in the order in which they were added. -/
structure DependencyGraph where
  order : List String
  edges : NameMap NameSet
deriving DecidableEq

/-- A closed chain of dependencies: the node at which it was found to be closed, and the nodes along
it, which start and end with that node. -/
structure DependencyCycle where
  id : String
  path : List String
deriving DecidableEq

namespace DependencyGraph

/-- The graph without nodes. -/
def empty : DependencyGraph := ⟨[], .empty⟩

/-- The graph with a node at the end of the order, unless it is there already. -/
def withNode (node : String) (g : DependencyGraph) : List String :=
  if g.edges.contains node then g.order else g.order ++ [node]

/-- The graph with the edges of a node replaced. -/
def setEdges (node : String) (targets : NameSet) (g : DependencyGraph) : DependencyGraph :=
  ⟨g.withNode node, g.edges.insert node targets⟩

/-- The graph with more edges for a node. -/
def extendEdges (node : String) (targets : NameSet) (g : DependencyGraph) : DependencyGraph :=
  ⟨g.withNode node, g.edges.insert node (((g.edges.get? node).getD .empty).union targets)⟩

/-- The targets of a node, in order. -/
def targets (g : DependencyGraph) (node : String) : List String :=
  ((g.edges.get? node).getD .empty).names

/-- The state of a search: the nodes entered so far, those that have not been left again, and the
latter in the order in which they were entered. -/
structure Walk where
  visited : NameSet
  active : NameSet
  path : List String
deriving DecidableEq

namespace Walk

/-- The state before the search. -/
def start : Walk := ⟨.empty, .empty, []⟩

/-- Enters a node. -/
def enter (node : String) (w : Walk) : Walk :=
  ⟨w.visited.insert node, w.active.insert node, w.path ++ [node]⟩

/-- Leaves a node, which is the last on the path. -/
def leave (node : String) (w : Walk) : Walk :=
  ⟨w.visited, w.active.erase node, w.path.dropLast⟩

/-- The cycle that an edge to a node on the path closes. -/
def cycleAt (node : String) (w : Walk) : DependencyCycle :=
  ⟨node, w.path.drop ((w.path.findIdx? (· == node)).getD 0) ++ [node]⟩

end Walk

/-- Visits a node and everything below it, unless that was done before. The first argument bounds
the nesting; a path holds every node of the graph at most once and one leaf. -/
def visit (g : DependencyGraph) : Nat → String → Walk → Except DependencyCycle Walk
  | 0, _, w => .ok w
  | fuel + 1, node, w =>
    if w.active.contains node then .error (w.cycleAt node)
    else if w.visited.contains node then .ok w
    else do
      let w ← (g.targets node).foldlM (fun w target => g.visit fuel target w) (w.enter node)
      .ok (w.leave node)

/-- Searches the whole graph for a cycle. -/
def search (g : DependencyGraph) : Except DependencyCycle Walk :=
  g.order.foldlM (fun w root => g.visit (g.order.length + 2) root w) Walk.start

/-- The first cycle of the graph, if it has one. -/
def findCycle (g : DependencyGraph) : Option DependencyCycle :=
  match g.search with
  | .ok _ => none
  | .error cycle => some cycle

end DependencyGraph

end StackDeploy
