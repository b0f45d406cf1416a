/-
# The walk, moment by moment

The record of the search holds the state at the start and at the end of every visit, of a visit that
fails as well. Here the invariant of the search is followed through it, and so is what the search
enters: a node that was entered is visited from then on, and no visited node is entered. The
recursion without a bound on the nesting has at most one record. As the record with a bound is one
of it, no bound has cut the search off, and the recursion ends on every graph.
-/

import StackDeploy.Proofs.Assembly.State

namespace StackDeploy

/-- A name that is no member is dropped again. -/
theorem NameSet.erase_insert {s : NameSet} {name : String} (fresh : name ∉ s.names) :
    (s.insert name).erase name = s := by
  obtain ⟨names, sorted⟩ := s
  suffices kept : (insertName name names).filter (fun other => other ≠ name) = names by
    simp only [erase, insert, kept]
  induction names with
  | nil => simp [insertName]
  | cons first rest ih =>
      obtain ⟨different, later⟩ := not_or.1 (List.mem_cons.not.1 fresh)
      have rest_kept : rest.filter (fun other => other ≠ name) = rest := by
        rw [List.filter_eq_self]
        exact fun other mem => decide_eq_true fun same => later (same ▸ mem)
      rw [insertName]
      split
      · rw [List.filter_cons, if_neg (by simp), List.filter_cons,
          if_pos (decide_eq_true (Ne.symm different)), rest_kept]
      · rw [List.filter_cons, if_pos (decide_eq_true (Ne.symm different)),
          ih sorted.of_cons later]

namespace DependencyGraph

/-- A graph that was made from the one without nodes by setting and adding edges. -/
inductive Built : DependencyGraph → Prop
  | empty : Built .empty
  | setEdges {g : DependencyGraph} (node : String) (targets : NameSet) :
      Built g → Built (g.setEdges node targets)
  | extendEdges {g : DependencyGraph} (node : String) (targets : NameSet) :
      Built g → Built (g.extendEdges node targets)

theorem Built.listed {g : DependencyGraph} (built : g.Built) : g.Listed := by
  induction built with
  | empty => exact listed_empty
  | setEdges node targets _ ih => exact ih.setEdges targets
  | extendEdges node targets _ ih => exact ih.extendEdges targets

variable {g : DependencyGraph} {node : String} {nodes done : List String} {w : Walk} {r : Record}

/-- There is only one record. -/
theorem Records.unique (records : g.Records nodes w r) :
    ∀ {other : Record}, g.Records nodes w other → other = r := by
  induction records with
  | nil =>
      intro other again
      cases again
      rfl
  | closes onPath =>
      intro other again
      cases again with
      | closes => rfl
      | skips offPath => exact absurd onPath offPath
      | fails offPath => exact absurd onPath offPath
      | leaves offPath => exact absurd onPath offPath
  | skips offPath visited _ ih =>
      intro other again
      cases again with
      | closes onPath => exact absurd onPath offPath
      | skips _ _ rest => rw [ih rest]
      | fails _ unvisited => exact absurd visited unvisited
      | leaves _ unvisited => exact absurd visited unvisited
  | fails offPath unvisited _ ih =>
      intro other again
      cases again with
      | closes onPath => exact absurd onPath offPath
      | skips _ visited => exact absurd visited unvisited
      | fails _ _ below =>
          cases ih below
          rfl
      | leaves _ _ below => cases ih below
  | leaves offPath unvisited _ _ ihBelow ihRest =>
      intro other again
      cases again with
      | closes onPath => exact absurd onPath offPath
      | skips _ visited => exact absurd visited unvisited
      | fails _ _ below => cases ihBelow below
      | leaves _ _ below rest =>
          cases ihBelow below
          rw [ihRest rest]

/-! ## The invariant -/

/-- The invariant of the search, seen from its state alone. -/
structure Invariant (g : DependencyGraph) (w : Walk) : Prop where
  nodup : w.path.Nodup
  active : ∀ node, node ∈ w.active.names ↔ node ∈ w.path
  visited : w.path ⊆ w.visited.names
  chain : w.path.IsChain g.Edge
  left : ∀ node ∈ w.visited.names, node ∉ w.active.names → ∀ target, g.Edge node target →
    target ∈ w.visited.names ∧ target ∉ w.active.names

theorem Ordered.target_mem {order : List String} (ordered : g.Ordered order)
    (mem : node ∈ order) {target : String} (edge : g.Edge node target) : target ∈ order := by
  induction ordered with
  | nil => cases mem
  | snoc _ _ below ih =>
      refine List.mem_append_left _ ?_
      rcases List.mem_append.1 mem with earlier | last
      · exact ih earlier
      · rw [List.mem_singleton.1 last] at edge
        exact below target edge

theorem Consistent.invariant (consistent : g.Consistent w done) (chain : w.path.IsChain g.Edge) :
    g.Invariant w where
  nodup := consistent.nodup
  active := consistent.active
  visited := fun node mem => (consistent.visited node).2 (Or.inr mem)
  chain := chain
  left := by
    intro node visited offPath target edge
    rw [consistent.active] at offPath
    have left := ((consistent.visited node).1 visited).resolve_right offPath
    have target_left := consistent.ordered.target_mem left edge
    rw [consistent.visited, consistent.active]
    exact ⟨Or.inl target_left, fun onPath => consistent.apart target onPath target_left⟩

/-- The invariant holds at every moment of a record and where it stops, if it holds at first and
every node is reached from the end of the path. -/
theorem Records.invariant (records : g.Records nodes w r) :
    ∀ {done : List String}, g.Consistent w done → w.path.IsChain g.Edge →
      (∀ next ∈ nodes, (w.path ++ [next]).IsChain g.Edge) →
      (∀ moment ∈ r.moments, g.Invariant moment.walk) ∧ g.Invariant r.walk := by
  induction records with
  | nil =>
      intro done consistent chain next
      exact ⟨List.forall_mem_nil _, consistent.invariant chain⟩
  | closes onPath =>
      intro done consistent chain next
      have holds := consistent.invariant chain
      exact ⟨List.forall_mem_cons.2 ⟨holds, List.forall_mem_singleton.2 holds⟩, holds⟩
  | skips offPath visited _ ih =>
      intro done consistent chain next
      have holds := consistent.invariant chain
      obtain ⟨later, stops⟩ :=
        ih consistent chain fun other mem => next other (List.mem_cons_of_mem _ mem)
      exact ⟨List.forall_mem_cons.2 ⟨holds, List.forall_mem_cons.2 ⟨holds, later⟩⟩, stops⟩
  | fails offPath unvisited _ ih =>
      intro done consistent chain next
      have extended := next _ List.mem_cons_self
      obtain ⟨inside, stops⟩ :=
        ih (consistent.enter unvisited) extended fun _ edge => chain_enter extended edge
      exact ⟨List.forall_mem_cons.2 ⟨consistent.invariant chain,
        List.forall_mem_append.2 ⟨inside, List.forall_mem_singleton.2 stops⟩⟩, stops⟩
  | leaves offPath unvisited below _ ihBelow ihRest =>
      intro done consistent chain next
      have extended := next _ List.mem_cons_self
      have entered := consistent.enter unvisited
      obtain ⟨inside, -⟩ := ihBelow entered extended fun _ edge => chain_enter extended edge
      obtain ⟨passed, inner_consistent, inner_path, -, targets_passed⟩ :=
        below.visits.consistent_of_ok rfl entered
      have left := inner_consistent.leave inner_path targets_passed
      have path := path_leave inner_path
      obtain ⟨later, stops⟩ := ihRest left (path ▸ chain) fun other mem =>
        path ▸ next other (List.mem_cons_of_mem _ mem)
      exact ⟨List.forall_mem_cons.2 ⟨consistent.invariant chain, List.forall_mem_append.2
        ⟨inside, List.forall_mem_cons.2 ⟨left.invariant (path ▸ chain), later⟩⟩⟩, stops⟩

/-! ## What is entered -/

/-- Between two states some nodes are entered: they are new, no two of them are the same, and they
are all that is visited in the end besides what was visited before. -/
structure Enters (names : List String) (before after : Walk) : Prop where
  visited : ∀ node, node ∈ after.visited.names ↔ node ∈ before.visited.names ∨ node ∈ names
  fresh : ∀ node ∈ names, node ∉ before.visited.names
  nodup : names.Nodup

theorem enters_nil (w : Walk) : Enters [] w w :=
  ⟨fun _ => (or_iff_left List.not_mem_nil).symm, List.forall_mem_nil _, .nil⟩

theorem enters_enter (unvisited : node ∉ w.visited.names) : Enters [node] w (w.enter node) where
  visited := by
    intro other
    rw [Walk.enter, NameSet.mem_insert, List.mem_singleton, or_comm]
  fresh := List.forall_mem_singleton.2 unvisited
  nodup := List.nodup_singleton node

namespace Enters

variable {before between after : Walk} {names later : List String}

/-- A visited node stays visited, so what is entered later is new to what was entered before. -/
theorem append (first : Enters names before between) (second : Enters later between after) :
    Enters (names ++ later) before after where
  visited := by
    intro node
    rw [second.visited, first.visited, List.mem_append, or_assoc]
  fresh := by
    intro node mem
    rcases List.mem_append.1 mem with early | late
    · exact first.fresh node early
    · exact fun visited => second.fresh node late ((first.visited node).2 (Or.inl visited))
  nodup := by
    rw [List.nodup_append]
    refine ⟨first.nodup, second.nodup, fun node early other late same => ?_⟩
    rw [← same] at late
    exact second.fresh node late ((first.visited node).2 (Or.inr early))

/-- To leave a node does not make it unvisited. -/
theorem leave (enters : Enters names before after) (node : String) :
    Enters names before (after.leave node) :=
  ⟨enters.visited, enters.fresh, enters.nodup⟩

end Enters

/-- The node that is entered now: a visit of it starts, it is not on the path, and it was not left
before. -/
def Moment.entered : Moment → Option String
  | starts node w => if node ∈ w.active.names ∨ node ∈ w.visited.names then none else some node
  | ends _ _ => none

/-- The nodes that are entered in some moments, in order. -/
def enteredIn (moments : List Moment) : List String :=
  moments.filterMap Moment.entered

section

variable {inside more : List Moment} {stop : Walk}

theorem enteredIn_known (known : node ∈ w.active.names ∨ node ∈ w.visited.names) :
    enteredIn (.starts node w :: .ends node w :: more) = enteredIn more := by
  have idle : (Moment.starts node w).entered = none := if_pos known
  rw [enteredIn, List.filterMap_cons, idle]
  rfl

theorem enteredIn_fresh (offPath : node ∉ w.active.names) (unvisited : node ∉ w.visited.names) :
    enteredIn (.starts node w :: (inside ++ .ends node stop :: more)) =
      [node] ++ (enteredIn inside ++ enteredIn more) := by
  have entered : (Moment.starts node w).entered = some node :=
    if_neg (not_or.2 ⟨offPath, unvisited⟩)
  rw [enteredIn, List.filterMap_cons, entered, List.filterMap_append]
  rfl

end

/-- The moments of a record enter what is visited where it stops. -/
theorem Records.enters (records : g.Records nodes w r) : Enters (enteredIn r.moments) w r.walk := by
  induction records with
  | nil => exact enters_nil _
  | closes onPath =>
      rw [enteredIn_known (Or.inl onPath)]
      exact enters_nil _
  | skips offPath visited _ ih =>
      rw [enteredIn_known (Or.inr visited)]
      exact ih
  | fails offPath unvisited _ ih =>
      rw [enteredIn_fresh offPath unvisited]
      exact (enters_enter unvisited).append (ih.append (enters_nil _))
  | leaves offPath unvisited _ _ ihBelow ihRest =>
      rw [enteredIn_fresh offPath unvisited]
      exact (enters_enter unvisited).append ((ihBelow.leave _).append ihRest)

/-! ## What a visit leaves behind -/

/-- A state differs from an earlier one at most by further nodes that were visited. -/
structure Walk.Keeps (before after : Walk) : Prop where
  path : after.path = before.path
  active : after.active = before.active
  visited : before.visited.names ⊆ after.visited.names

namespace Walk.Keeps

variable {before between after : Walk}

theorem refl (w : Walk) : Keeps w w :=
  ⟨rfl, rfl, List.Subset.refl _⟩

theorem trans (first : Keeps before between) (second : Keeps between after) :
    Keeps before after :=
  ⟨second.path.trans first.path, second.active.trans first.active,
    List.Subset.trans first.visited second.visited⟩

/-- A node that was entered and is left again is off the path again. -/
theorem leave (offPath : node ∉ before.active.names) (inside : Keeps (before.enter node) after) :
    Keeps before (after.leave node) where
  path := path_leave inside.path
  active := by
    rw [Walk.leave, inside.active]
    exact NameSet.erase_insert offPath
  visited := fun _ mem => inside.visited (NameSet.mem_insert.2 (Or.inr mem))

end Walk.Keeps

/-- Visits that succeed one after the other keep the state if each of them does. -/
theorem keeps_of_foldlM {visit : Walk → String → Except DependencyCycle Walk}
    (each : ∀ before node after, visit before node = .ok after → before.Keeps after)
    {before after : Walk} (succeeds : nodes.foldlM visit before = .ok after) :
    before.Keeps after := by
  induction nodes generalizing before with
  | nil =>
      cases succeeds
      exact .refl _
  | cons node rest ih =>
      rw [List.foldlM_cons] at succeeds
      obtain ⟨between, first, later⟩ := ok_of_bind succeeds
      exact (each before node between first).trans (ih later)

/-- A visit that succeeds keeps the state, whatever the state and the bound on the nesting. -/
theorem keeps_of_visit (bound : Nat) : ∀ {node : String} {before after : Walk},
    g.visit bound node before = .ok after → before.Keeps after := by
  induction bound with
  | zero =>
      intro node before after succeeds
      cases succeeds
      exact .refl _
  | succ bound ih =>
      intro node before after succeeds
      rw [visit] at succeeds
      split at succeeds
      · cases succeeds
      · next offPath =>
          split at succeeds
          · cases succeeds
            exact .refl _
          · obtain ⟨inner, below, left⟩ := ok_of_bind succeeds
            cases left
            rw [NameSet.contains_iff] at offPath
            exact .leave offPath (keeps_of_foldlM (fun _ _ _ => ih) below)

/-! ## The search -/

/-- The search of a graph from any roots, in any order and with repetitions, is its record without
the moments. No bound on the nesting cuts the record off: it is the same with every bound from that
of the search on, and it is the one record of the recursion that has no bound, which so ends on
every graph. At each moment of the record, where a visit starts or ends, with success or not, the
invariant of the search holds. No node is entered more than once. A visit that succeeds leaves the
path and the nodes on it exactly as they were, and adds at most to the nodes that were visited. -/
theorem search_keeps_invariant {g : DependencyGraph} (built : g.Built) (roots : List String) :
    let r := g.recordFrom (g.order.length + 2) roots
    r.result = g.searchFrom (g.order.length + 2) roots ∧
      (∀ bound, g.order.length + 2 ≤ bound → g.recordFrom bound roots = r) ∧
        (∀ other, g.Records roots Walk.start other ↔ other = r) ∧
          (∀ moment ∈ r.moments, g.Invariant moment.walk) ∧
            (enteredIn r.moments).Nodup ∧
              ∀ bound node before after, g.visit bound node before = .ok after →
                after.path = before.path ∧ after.active = before.active ∧
                  before.visited.names ⊆ after.visited.names := by
  intro r
  have records : g.Records roots Walk.start r :=
    records_recordFrom built.listed roots (Nat.le_refl _)
  refine ⟨result_recordFrom g _ roots, fun bound enough => ?_,
    fun other => ⟨records.unique, fun same => same ▸ records⟩, ?_, records.enters.nodup,
    fun bound node before after succeeds => ?_⟩
  · exact records.unique (records_recordFrom built.listed roots enough)
  · exact (records.invariant consistent_start .nil fun _ _ => List.isChain_singleton _).1
  · obtain ⟨path, active, visited⟩ := keeps_of_visit bound succeeds
    exact ⟨path, active, visited⟩

/-- An interface that needs a cache and a vault, which is no node, and a cache that waits for a
queue, which waits for itself. -/
def selfWaiting : DependencyGraph :=
  let api := empty.setEdges "Api" (.ofList ["Cache", "Vault"])
  (api.setEdges "Queue" (.ofList ["Queue"])).extendEdges "Cache" (.ofList ["Queue"])

/-- The search of the graph ends with the cycle of the queue, before the vault is visited. -/
theorem selfWaiting_search_keeps_invariant :
    let r := selfWaiting.recordFrom (selfWaiting.order.length + 2) selfWaiting.order
    selfWaiting.Built ∧ r.result = selfWaiting.search ∧
      selfWaiting.search = .error ⟨"Queue", ["Queue", "Queue"]⟩ ∧
        enteredIn r.moments = ["Api", "Cache", "Queue"] ∧ (enteredIn r.moments).Nodup ∧
          ∀ moment ∈ r.moments, selfWaiting.Invariant moment.walk := by
  intro r
  have built : selfWaiting.Built := .extendEdges _ _ (.setEdges _ _ (.setEdges _ _ .empty))
  obtain ⟨result, -, -, invariant, nodup, -⟩ := search_keeps_invariant built selfWaiting.order
  refine ⟨built, ?_, rfl, rfl, nodup, invariant⟩
  rw [search_eq_searchFrom]
  exact result

end DependencyGraph

end StackDeploy
