/-
# The search for a cycle

The search bounds its nesting by a number that is never used up, so its result is that of the plain
depth-first walk, which is given here as a relation without the bound. A walk that succeeds leaves
behind the nodes in the order in which they were left: a node is left after all its targets. A walk
that fails has met a node on its own path, and the path from there on is a closed chain of edges.
Both follow from one invariant, which ties the two sets of the search to its path and to the list of
the nodes that were left.

The search is also given with a record of all that is seen on the way: the state at the start and at
the end of every visit, be it one that fails. Forgetting all but the result of the record gives back
the search. That the bound is not reached is shown of the record, and holds of the search with it.
-/

import Mathlib.Data.List.Chain
import StackDeploy.Assembly.Graph
import StackDeploy.Proofs.Names.Lookup

namespace StackDeploy

namespace DependencyGraph

variable {g : DependencyGraph} {node target : String} {nodes order : List String} {w : Walk}

/-- There is an edge from a node to a target. -/
def Edge (g : DependencyGraph) (node target : String) : Prop :=
  target ∈ g.targets node

/-- The order lists exactly the nodes whose edges are recorded. -/
def Listed (g : DependencyGraph) : Prop :=
  ∀ node, node ∈ g.order ↔ g.edges.contains node = true

/-- A node with an edge is listed. -/
theorem Listed.mem_order (listed : g.Listed) (edge : g.Edge node target) : node ∈ g.order := by
  rw [listed, NameMap.contains_iff_exists]
  unfold Edge targets at edge
  cases recorded : g.edges.get? node with
  | none =>
      rw [recorded] at edge
      cases edge
  | some names => exact ⟨names, rfl⟩

/-- A list of nodes, each of which stands after all its targets. -/
inductive Ordered (g : DependencyGraph) : List String → Prop
  | nil : g.Ordered []
  | snoc {done : List String} {node : String} : g.Ordered done → node ∉ done →
      (∀ target, g.Edge node target → target ∈ done) → g.Ordered (done ++ [node])

/-- A closed chain of edges that passes no node twice. -/
def Closed (g : DependencyGraph) (cycle : DependencyCycle) : Prop :=
  cycle.path.IsChain g.Edge ∧
    ∃ between, cycle.path = cycle.id :: between ++ [cycle.id] ∧ (cycle.id :: between).Nodup

/-- The visits of some nodes one after the other, without a bound on the nesting. -/
inductive Visits (g : DependencyGraph) :
    List String → Walk → Except DependencyCycle Walk → Prop
  /-- All nodes were visited. -/
  | nil {w : Walk} : g.Visits [] w (.ok w)
  /-- The next node is on the path. -/
  | closes {node : String} {rest : List String} {w : Walk} : node ∈ w.active.names →
      g.Visits (node :: rest) w (.error (w.cycleAt node))
  /-- The next node was left before. -/
  | skips {node : String} {rest : List String} {w : Walk} {result : Except DependencyCycle Walk} :
      node ∉ w.active.names → node ∈ w.visited.names → g.Visits rest w result →
      g.Visits (node :: rest) w result
  /-- There is a cycle below the next node. -/
  | fails {node : String} {rest : List String} {w : Walk} {cycle : DependencyCycle} :
      node ∉ w.active.names → node ∉ w.visited.names →
      g.Visits (g.targets node) (w.enter node) (.error cycle) →
      g.Visits (node :: rest) w (.error cycle)
  /-- The next node is entered and left. -/
  | leaves {node : String} {rest : List String} {w inner : Walk}
      {result : Except DependencyCycle Walk} :
      node ∉ w.active.names → node ∉ w.visited.names →
      g.Visits (g.targets node) (w.enter node) (.ok inner) →
      g.Visits rest (inner.leave node) result → g.Visits (node :: rest) w result

/-- The invariant of the search. The nodes entered so far are those on the path and those that were
left; the latter stand after their targets. -/
structure Consistent (g : DependencyGraph) (w : Walk) (done : List String) : Prop where
  ordered : g.Ordered done
  nodup : w.path.Nodup
  active : ∀ node, node ∈ w.active.names ↔ node ∈ w.path
  visited : ∀ node, node ∈ w.visited.names ↔ node ∈ done ∨ node ∈ w.path
  apart : ∀ node ∈ w.path, node ∉ done

theorem consistent_start : g.Consistent Walk.start [] where
  ordered := .nil
  nodup := List.nodup_nil
  active := fun _ => Iff.rfl
  visited := fun _ => ⟨Or.inr, fun mem => mem.elim id id⟩
  apart := fun _ mem => nomatch mem

namespace Consistent

variable {done : List String}

theorem enter (consistent : g.Consistent w done) (fresh : node ∉ w.visited.names) :
    g.Consistent (w.enter node) done := by
  rw [consistent.visited, not_or] at fresh
  refine ⟨consistent.ordered, ?_, fun other => ?_, fun other => ?_, fun other mem => ?_⟩
  · rw [Walk.enter, List.nodup_append]
    refine ⟨consistent.nodup, List.pairwise_singleton _ _, fun other onPath entered mem same => ?_⟩
    rw [same, List.mem_singleton.1 mem] at onPath
    exact fresh.2 onPath
  · rw [Walk.enter, NameSet.mem_insert, consistent.active, List.mem_append, List.mem_singleton,
      or_comm]
  · rw [Walk.enter, NameSet.mem_insert, consistent.visited, List.mem_append, List.mem_singleton]
    tauto
  · rcases List.mem_append.1 mem with onPath | entered
    · exact consistent.apart other onPath
    · rw [List.mem_singleton.1 entered]
      exact fresh.1

/-- A node is left once all its targets were. -/
theorem leave {path : List String} (consistent : g.Consistent w done)
    (last : w.path = path ++ [node]) (below : ∀ target, g.Edge node target → target ∈ done) :
    g.Consistent (w.leave node) (done ++ [node]) := by
  have nodup := consistent.nodup
  rw [last, List.nodup_append] at nodup
  have off_path : node ∉ path := fun mem => nodup.2.2 node mem node (List.mem_singleton.2 rfl) rfl
  have kept : (w.leave node).path = path := by rw [Walk.leave, last, List.dropLast_concat]
  have on_path (other : String) : other ∈ w.path ↔ other ∈ path ∨ other = node := by
    rw [last, List.mem_append, List.mem_singleton]
  refine ⟨.snoc consistent.ordered ?_ below, ?_, fun other => ?_, fun other => ?_,
    fun other mem => ?_⟩
  · exact consistent.apart node ((on_path node).2 (Or.inr rfl))
  · rw [kept]
    exact nodup.1
  · rw [kept]
    show other ∈ w.active.names.filter _ ↔ _
    rw [List.mem_filter, consistent.active, on_path, decide_eq_true_eq]
    constructor
    · rintro ⟨mem | same, different⟩
      · exact mem
      · exact absurd same different
    · intro mem
      refine ⟨Or.inl mem, ?_⟩
      rintro rfl
      exact off_path mem
  · rw [kept]
    show other ∈ w.visited.names ↔ _
    rw [consistent.visited, on_path, List.mem_append, List.mem_singleton]
    tauto
  · rw [kept] at mem
    rw [List.mem_append, List.mem_singleton, not_or]
    refine ⟨consistent.apart other ((on_path other).2 (Or.inl mem)), ?_⟩
    rintro rfl
    exact off_path mem

end Consistent

/-- To leave the node that was entered last leads back to the path before it. -/
theorem path_leave {inner : Walk} (entered : inner.path = (w.enter node).path) :
    (inner.leave node).path = w.path := by
  rw [Walk.leave, entered, Walk.enter, List.dropLast_concat]

/-- A walk that succeeds comes back to its path and has left all its nodes. -/
theorem Visits.consistent_of_ok {result : Except DependencyCycle Walk} {after : Walk}
    (visits : g.Visits nodes w result) (succeeds : result = .ok after) :
    ∀ {done : List String}, g.Consistent w done →
      ∃ later, g.Consistent after later ∧ after.path = w.path ∧ done ⊆ later ∧ nodes ⊆ later := by
  induction visits generalizing after with
  | nil =>
      intro done consistent
      cases succeeds
      exact ⟨done, consistent, rfl, List.Subset.refl done, List.nil_subset done⟩
  | closes onPath => cases succeeds
  | fails fresh unvisited below => cases succeeds
  | skips offPath visited rest ih =>
      intro done consistent
      obtain ⟨later, after_consistent, path, subset, visited_rest⟩ := ih succeeds consistent
      refine ⟨later, after_consistent, path, subset, List.cons_subset.2 ⟨subset ?_, visited_rest⟩⟩
      rw [consistent.active] at offPath
      exact ((consistent.visited _).1 visited).resolve_right offPath
  | leaves offPath unvisited below rest ihBelow ihRest =>
      intro done consistent
      obtain ⟨inside, inner_consistent, inner_path, subset_inside, targets_inside⟩ :=
        ihBelow rfl (consistent.enter unvisited)
      have left := inner_consistent.leave inner_path targets_inside
      obtain ⟨later, after_consistent, path, subset, visited_rest⟩ := ihRest succeeds left
      rw [List.append_subset, List.cons_subset] at subset
      refine ⟨later, after_consistent, ?_, fun _ mem => subset.1 (subset_inside mem),
        List.cons_subset.2 ⟨subset.2.1, visited_rest⟩⟩
      rw [path, path_leave inner_path]

/-- An edge back to a node on the path closes the part of the path that starts there. -/
theorem closed_cycleAt (nodup : w.path.Nodup) (onPath : node ∈ w.path)
    (chain : (w.path ++ [node]).IsChain g.Edge) : g.Closed (w.cycleAt node) := by
  obtain ⟨before, after, split, off_before⟩ := List.eq_append_cons_of_mem onPath
  have not_before : before.findIdx? (· == node) = none := by
    rw [List.findIdx?_eq_none_iff]
    intro other mem
    rw [beq_eq_false_iff_ne]
    rintro rfl
    exact off_before mem
  have position : w.path.findIdx? (· == node) = some before.length := by
    rw [split, List.findIdx?_append, not_before, List.findIdx?_cons, beq_self_eq_true]
    simp
  have path : (w.cycleAt node).path = node :: after ++ [node] := by
    rw [Walk.cycleAt, position, Option.getD_some, split, List.drop_left]
  rw [split, List.nodup_append] at nodup
  rw [split, List.append_assoc] at chain
  refine ⟨?_, after, path, nodup.2.1⟩
  rw [path]
  exact chain.right_of_append

/-- A path goes on along the edges of its last node. -/
theorem chain_enter (chain : (w.path ++ [node]).IsChain g.Edge)
    (edge : g.Edge node target) :
    ((w.enter node).path ++ [target]).IsChain g.Edge := by
  rw [Walk.enter, List.append_assoc]
  exact List.isChain_split.2 ⟨chain, List.isChain_pair.2 edge⟩

/-- A walk that fails reports a closed chain of edges. -/
theorem Visits.closed_of_error {result : Except DependencyCycle Walk} {cycle : DependencyCycle}
    (visits : g.Visits nodes w result) (fails : result = .error cycle) :
    ∀ {done : List String}, g.Consistent w done →
      (∀ next ∈ nodes, (w.path ++ [next]).IsChain g.Edge) → g.Closed cycle := by
  induction visits with
  | nil => cases fails
  | closes onPath =>
      intro done consistent chain
      cases fails
      exact closed_cycleAt consistent.nodup ((consistent.active _).1 onPath)
        (chain _ List.mem_cons_self)
  | skips offPath visited rest ih =>
      intro done consistent chain
      exact ih fails consistent fun next mem => chain next (List.mem_cons_of_mem _ mem)
  | fails offPath unvisited below ih =>
      intro done consistent chain
      exact ih fails (consistent.enter unvisited) fun _ =>
        chain_enter (chain _ List.mem_cons_self)
  | leaves offPath unvisited below rest _ ih =>
      intro done consistent chain
      obtain ⟨inside, inner_consistent, inner_path, -, targets_inside⟩ :=
        below.consistent_of_ok rfl (consistent.enter unvisited)
      refine ih fails (inner_consistent.leave inner_path targets_inside) fun next mem => ?_
      rw [path_leave inner_path]
      exact chain next (List.mem_cons_of_mem _ mem)

/-! ## Records -/

/-- A visit starts, or it ends, in a state of the search. -/
inductive Moment where
  | starts (node : String) (walk : Walk)
  | ends (node : String) (walk : Walk)
deriving DecidableEq

/-- The state of the search at a moment. -/
def Moment.walk : Moment → Walk
  | starts _ w => w
  | ends _ w => w

/-- What is seen of some visits: their starts and ends in order, with those of the visits inside
them, the state in which they stop, and the cycle that stops them if there is one. -/
structure Record where
  moments : List Moment
  walk : Walk
  cycle : Option DependencyCycle
deriving DecidableEq

namespace Record

/-- What the visits give. -/
def result (r : Record) : Except DependencyCycle Walk :=
  match r.cycle with
  | none => .ok r.walk
  | some cycle => .error cycle

/-- A visit that does not enter its node. -/
def idle (node : String) (w : Walk) (cycle : Option DependencyCycle) : Record :=
  ⟨[.starts node w, .ends node w], w, cycle⟩

/-- A visit that enters its node, by the record of the visits inside it. The node is left unless a
cycle stops them. -/
def around (node : String) (w : Walk) (inner : Record) : Record :=
  let stop := match inner.cycle with
    | none => inner.walk.leave node
    | some _ => inner.walk
  ⟨.starts node w :: (inner.moments ++ [.ends node stop]), stop, inner.cycle⟩

/-- Visits after other ones, unless a cycle stops those. -/
def andThen (first : Record) (next : Walk → Record) : Record :=
  match first.cycle with
  | none =>
    let later := next first.walk
    ⟨first.moments ++ later.moments, later.walk, later.cycle⟩
  | some _ => first

/-- The visits of some nodes one after the other, by the record of each. -/
def ofVisits (visit : String → Walk → Record) : List String → Walk → Record
  | [], w => ⟨[], w, none⟩
  | node :: rest, w => (visit node w).andThen (ofVisits visit rest)

/-- Forgetting the moments of each visit is forgetting them of all. -/
theorem result_ofVisits {recorded : String → Walk → Record}
    {plain : Walk → String → Except DependencyCycle Walk}
    (same : ∀ node w, (recorded node w).result = plain w node) (nodes : List String) (w : Walk) :
    (ofVisits recorded nodes w).result = nodes.foldlM plain w := by
  induction nodes generalizing w with
  | nil => rfl
  | cons node rest ih =>
      rw [ofVisits, List.foldlM_cons, ← same]
      obtain ⟨moments, stop, cycle⟩ := recorded node w
      cases cycle with
      | none => exact ih stop
      | some cycle => rfl

end Record

/-- The record of a visit and of everything below it. -/
def record (g : DependencyGraph) : Nat → String → Walk → Record
  | 0, node, w => .idle node w none
  | bound + 1, node, w =>
    if w.active.contains node then .idle node w (some (w.cycleAt node))
    else if w.visited.contains node then .idle node w none
    else .around node w (Record.ofVisits (g.record bound) (g.targets node) (w.enter node))

/-- Without its moments the record of a visit is what the visit gives. -/
theorem result_record (bound : Nat) : ∀ (node : String) (w : Walk),
    (g.record bound node w).result = g.visit bound node w := by
  induction bound with
  | zero => exact fun _ _ => rfl
  | succ bound ih =>
      intro node w
      rw [record, visit]
      split
      · rfl
      · split
        · rfl
        · have inside : (Record.ofVisits (g.record bound) (g.targets node) (w.enter node)).result =
              (g.targets node).foldlM (fun w node => g.visit bound node w) (w.enter node) :=
            Record.result_ofVisits ih (g.targets node) (w.enter node)
          rw [← inside]
          obtain ⟨moments, stop, cycle⟩ :=
            Record.ofVisits (g.record bound) (g.targets node) (w.enter node)
          cases cycle <;> rfl

/-- The search from some roots in their order, with some bound on the nesting. -/
def searchFrom (g : DependencyGraph) (bound : Nat) (roots : List String) :
    Except DependencyCycle Walk :=
  roots.foldlM (fun w root => g.visit bound root w) Walk.start

/-- The record of the search from some roots. -/
def recordFrom (g : DependencyGraph) (bound : Nat) (roots : List String) : Record :=
  Record.ofVisits (g.record bound) roots Walk.start

theorem search_eq_searchFrom (g : DependencyGraph) :
    g.search = g.searchFrom (g.order.length + 2) g.order :=
  rfl

theorem result_recordFrom (g : DependencyGraph) (bound : Nat) (roots : List String) :
    (g.recordFrom bound roots).result = g.searchFrom bound roots :=
  Record.result_ofVisits (result_record bound) roots Walk.start

/-- The visits of some nodes one after the other have a record. There is no bound on the nesting. -/
inductive Records (g : DependencyGraph) : List String → Walk → Record → Prop
  /-- All nodes were visited. -/
  | nil {w : Walk} : g.Records [] w ⟨[], w, none⟩
  /-- The next node is on the path. -/
  | closes {node : String} {rest : List String} {w : Walk} : node ∈ w.active.names →
      g.Records (node :: rest) w ⟨[.starts node w, .ends node w], w, some (w.cycleAt node)⟩
  /-- The next node was left before. -/
  | skips {node : String} {rest : List String} {w : Walk} {r : Record} :
      node ∉ w.active.names → node ∈ w.visited.names → g.Records rest w r →
      g.Records (node :: rest) w
        ⟨.starts node w :: .ends node w :: r.moments, r.walk, r.cycle⟩
  /-- There is a cycle below the next node, which is not left. -/
  | fails {node : String} {rest : List String} {w stop : Walk} {inside : List Moment}
      {cycle : DependencyCycle} : node ∉ w.active.names → node ∉ w.visited.names →
      g.Records (g.targets node) (w.enter node) ⟨inside, stop, some cycle⟩ →
      g.Records (node :: rest) w
        ⟨.starts node w :: (inside ++ [.ends node stop]), stop, some cycle⟩
  /-- The next node is entered and left. -/
  | leaves {node : String} {rest : List String} {w inner : Walk} {inside : List Moment}
      {r : Record} : node ∉ w.active.names → node ∉ w.visited.names →
      g.Records (g.targets node) (w.enter node) ⟨inside, inner, none⟩ →
      g.Records rest (inner.leave node) r →
      g.Records (node :: rest) w
        ⟨.starts node w :: (inside ++ .ends node (inner.leave node) :: r.moments), r.walk, r.cycle⟩

/-- Without its moments a record is a walk. -/
theorem Records.visits {r : Record} (records : g.Records nodes w r) :
    g.Visits nodes w r.result := by
  induction records with
  | nil => exact .nil
  | closes onPath => exact .closes onPath
  | skips offPath visited _ ih => exact .skips offPath visited ih
  | fails offPath unvisited _ ih => exact .fails offPath unvisited ih
  | leaves offPath unvisited _ _ ihBelow ihRest => exact .leaves offPath unvisited ihBelow ihRest

/-! ## The bound on the nesting -/

private theorem enter_subset_order (listed : g.Listed) (onOrder : w.path ⊆ g.order)
    (more : g.targets node ≠ []) : (w.enter node).path ⊆ g.order := by
  obtain ⟨target, edge⟩ := List.exists_mem_of_ne_nil _ more
  exact List.append_subset.2
    ⟨onOrder, List.cons_subset.2 ⟨listed.mem_order edge, List.nil_subset _⟩⟩

/-- The bound on the nesting is not reached: all nodes on a path that goes on have an edge, so the
path is no longer than the order. -/
theorem records_of_bound (listed : g.Listed) (bound : Nat) :
    ∀ {nodes : List String} {w : Walk} {done : List String}, g.Consistent w done →
      (nodes ≠ [] → w.path ⊆ g.order) → g.order.length + 2 ≤ w.path.length + bound →
      g.Records nodes w (Record.ofVisits (g.record bound) nodes w) := by
  induction bound with
  | zero =>
      intro nodes w done consistent onOrder enough
      cases nodes with
      | nil => exact .nil
      | cons node rest =>
          have short := consistent.nodup.length_le_of_subset (onOrder (List.cons_ne_nil _ _))
          omega
  | succ bound ihBound =>
      intro nodes
      induction nodes with
      | nil =>
          intro w done consistent onOrder enough
          exact .nil
      | cons node rest ihRest =>
          intro w done consistent onOrder enough
          rw [Record.ofVisits, record]
          split
          · next onPath => exact .closes (NameSet.contains_iff.1 onPath)
          · next offPath =>
              rw [NameSet.contains_iff] at offPath
              split
              · next visited =>
                  exact .skips offPath (NameSet.contains_iff.1 visited)
                    (ihRest consistent (fun _ => onOrder (List.cons_ne_nil _ _)) enough)
              · next unvisited =>
                  rw [NameSet.contains_iff] at unvisited
                  have entered := consistent.enter unvisited
                  have below := ihBound entered
                    (fun more => enter_subset_order listed (onOrder (List.cons_ne_nil _ _)) more)
                    (by rw [Walk.enter, List.length_append, List.length_singleton]; omega)
                  generalize Record.ofVisits (g.record bound) (g.targets node) (w.enter node) =
                    inner at below
                  obtain ⟨inside, stop, cycle⟩ := inner
                  cases cycle with
                  | some cycle => exact .fails offPath unvisited below
                  | none =>
                      obtain ⟨passed, stop_consistent, stop_path, -, targets_passed⟩ :=
                        below.visits.consistent_of_ok rfl entered
                      have path := path_leave stop_path
                      have later := ihRest (stop_consistent.leave stop_path targets_passed)
                        (fun _ => path ▸ onOrder (List.cons_ne_nil _ _)) (path ▸ enough)
                      have whole := Records.leaves offPath unvisited below later
                      rw [List.append_cons, ← List.cons_append] at whole
                      exact whole

/-- The record of the search is that of the walk, with every bound from that of the search on. -/
theorem records_recordFrom (listed : g.Listed) (roots : List String) {bound : Nat}
    (enough : g.order.length + 2 ≤ bound) :
    g.Records roots Walk.start (g.recordFrom bound roots) := by
  refine records_of_bound listed bound consistent_start (fun _ => List.nil_subset _) ?_
  exact Nat.le_add_left_of_le enough

/-- The search goes like the walk over all nodes. -/
theorem search_visits (listed : g.Listed) : g.Visits g.order Walk.start g.search := by
  rw [search_eq_searchFrom, ← result_recordFrom]
  exact (records_recordFrom listed g.order (Nat.le_refl _)).visits

/-- A search that finds nothing has put all nodes in order. -/
theorem exists_ordered_of_findCycle_eq_none (listed : g.Listed) (acyclic : g.findCycle = none) :
    ∃ order, g.Ordered order ∧ g.order ⊆ order := by
  unfold findCycle at acyclic
  cases result : g.search with
  | error cycle =>
      rw [result] at acyclic
      cases acyclic
  | ok after =>
      obtain ⟨order, consistent, -, -, all⟩ :=
        (search_visits listed).consistent_of_ok result consistent_start
      exact ⟨order, consistent.ordered, all⟩

/-- What the search finds is a closed chain of edges. -/
theorem closed_of_findCycle_eq_some {cycle : DependencyCycle} (listed : g.Listed)
    (found : g.findCycle = some cycle) : g.Closed cycle := by
  unfold findCycle at found
  cases result : g.search with
  | error reported =>
      rw [result] at found
      cases found
      exact (search_visits listed).closed_of_error result consistent_start
        fun next _ => List.isChain_singleton next
  | ok after =>
      rw [result] at found
      cases found

end DependencyGraph

end StackDeploy
