/-
# What additions leave behind

An assembler keeps the dependencies of a resource twice, in its definition and in the graph, and the
graph keeps its nodes twice, as the keys of a map and in the order of their first addition. All of
this agrees after any actions, those that fail included: the invariant of the record is known from
the module on what an assembler records, and this module adds the order of the nodes. Which
definition an id has is then told from the accepted additions under that id alone.
-/

import StackDeploy.Proofs.Assembly.Declarations
import StackDeploy.Proofs.Assembly.State

namespace StackDeploy

open Json (Value)

namespace NameMap

variable {α : Type} {name : String} {entries : List (String × α)}

/-- The last entry for a name is the last of the entries for that name. -/
theorem latest_eq_getLast? :
    latest name entries =
      ((entries.filter fun entry => entry.1 = name).getLast?).map Prod.snd := by
  induction entries using List.reverseRecOn with
  | nil => rfl
  | append_singleton entries entry ih =>
      rw [latest_append, List.filter_append]
      by_cases here : entry.1 = name
      · simp [latest, lookupEntry, here]
      · have dropped : ([entry].filter fun entry => entry.1 = name) = [] := by simp [here]
        rw [dropped, List.append_nil, ← ih]
        simp [latest, lookupEntry, here]

end NameMap

namespace DependencyGraph

variable {g : DependencyGraph} {ids : List String} {node : String}

/-- A node that is given edges for the first time comes last in the order. -/
theorem order_setEdges (listed : g.Listed) (first : g.order = ids.eraseDups) (targets : NameSet) :
    (g.setEdges node targets).order = (ids ++ [node]).eraseDups := by
  have known_iff : g.edges.contains node = true ↔ node ∈ ids := by
    rw [← listed, first, List.mem_eraseDups]
  rw [eraseDups_concat, ← first]
  show g.withNode node = _
  unfold withNode
  by_cases known : node ∈ ids
  · rw [if_pos known, if_pos (known_iff.2 known)]
  · rw [if_neg known, if_neg (mt known_iff.1 known)]

end DependencyGraph

namespace Action

variable {w : Workbench} {ids : List String}

/-- Whether an action is an addition under an id. -/
def adds (id : String) : Action → Bool
  | .addResource other _ _ _ => other = id
  | _ => false

theorem filter_resources (id : String) (action : Action) :
    (action.resources.filter fun entry => entry.1 = id) =
      if action.adds id then action.resources else [] := by
  cases action with
  | addResource other type properties options =>
      by_cases same : other = id
      · simp [resources, adds, same, List.filter_map, Function.comp_def]
      · simp [resources, adds, same, List.filter_map, Function.comp_def]
  | _ => rfl

/-- Only the additions under an id store entries for it. -/
theorem filter_flatMap_resources (id : String) (actions : List Action) :
    ((actions.flatMap resources).filter fun entry => entry.1 = id) =
      (actions.filter (adds id)).flatMap resources := by
  induction actions with
  | nil => rfl
  | cons action rest ih =>
      rw [List.flatMap_cons, List.filter_append, ih, filter_resources, List.filter_cons]
      split
      · rw [List.flatMap_cons]
      · rw [List.nil_append]

/-- An addition succeeds exactly if it stores the definition that it describes. -/
theorem run_addResource_eq_done_iff {step id type : String} {properties : Value}
    {options : ResourceOptions} :
    ((addResource id type properties options).run step w).1 = .done ↔
      ∃ members, (properties = .object members ∨ properties = .null ∧ members = []) ∧
        (addResource id type properties options).resources =
          [(id, options.definition type members)] := by
  unfold run Assembler.addResource
  dsimp only
  cases checked : Assembler.checkedResource id type properties options with
  | error cause => simp [resources, checked, Except.map, Except.toOption]
  | ok r =>
      obtain ⟨members, rfl, -, given⟩ := Assembler.checkedResource_eq_ok_iff.1 checked
      have stored : (addResource id type properties options).resources =
          [(id, options.definition type members)] := by
        simp [resources, checked, Except.toOption]
      exact iff_of_true rfl ⟨members, given, stored⟩

theorem resources_of_run_failed {step : String} {action : Action} {cause : AssemblyError}
    (failed : (action.run step w).1 = .failed cause) : action.resources = [] := by
  cases action with
  | addResource id type properties options =>
      unfold run Assembler.addResource at failed
      dsimp only at failed
      cases checked : Assembler.checkedResource id type properties options with
      | error => simp [resources, checked, Except.toOption]
      | ok r =>
          rw [checked] at failed
          cases failed
  | _ => rfl

theorem order_run (step : String) (action : Action) (recorded : w.assembler.Recorded)
    (first : w.assembler.graph.order = ids.eraseDups) :
    (action.run step w).2.assembler.graph.order =
      (ids ++ action.resources.map Prod.fst).eraseDups := by
  cases action with
  | addResource id type properties options =>
      unfold run Assembler.addResource
      dsimp only
      cases checked : Assembler.checkedResource id type properties options with
      | error cause =>
          have nothing : (addResource id type properties options).resources = [] := by
            simp [resources, checked, Except.toOption]
          rw [nothing, List.map_nil, List.append_nil]
          exact first
      | ok r =>
          have stored : (addResource id type properties options).resources = [(id, r)] := by
            simp [resources, checked, Except.toOption]
          rw [stored]
          exact DependencyGraph.order_setEdges recorded.listed first options.dependsOn
  | checkCycles =>
      unfold run
      dsimp only
      cases w.assembler.checkCycles <;>
        exact first.trans (congrArg List.eraseDups (List.append_nil ids).symm)
  | _ => exact first.trans (congrArg List.eraseDups (List.append_nil ids).symm)

/-- The order of the graph is that of the first accepted additions. -/
theorem order_runAll (step : String) (actions : List Action) (recorded : w.assembler.Recorded)
    (first : w.assembler.graph.order = ids.eraseDups) :
    (runAll step actions w).2.assembler.graph.order =
      (ids ++ (actions.flatMap resources).map Prod.fst).eraseDups := by
  induction actions generalizing w ids with
  | nil =>
      rw [List.flatMap_nil, List.map_nil, List.append_nil]
      exact first
  | cons action rest ih =>
      rw [List.flatMap_cons, List.map_append, ← List.append_assoc]
      exact ih (recorded_run step action recorded) (order_run step action recorded first)

end Action

namespace Assembler

/-- What an assembler holds after actions on an empty one. -/
structure Consistent (a : Assembler) (actions : List Action) : Prop where
  /-- The edges of a node are the explicit dependencies of the resource under its name. -/
  edges : ∀ id, a.explicitDependencies id = (a.resources.get? id).map Resource.dependsOn
  /-- The nodes are the resources. -/
  listed : ∀ id, id ∈ a.graph.order ↔ ∃ r, a.resources.get? id = some r
  /-- Every node is listed once. -/
  once : a.graph.order.Nodup
  /-- The nodes are listed by their first accepted addition. -/
  order : a.graph.order = ((actions.flatMap Action.resources).map Prod.fst).eraseDups
  /-- Every definition is admissible under its id. -/
  admissible : ∀ id r, a.resources.get? id = some r → r.IsAdmissible id
  /-- The definition of an id is the last one of the accepted additions under it. -/
  latest : ∀ id, a.resources.get? id =
    ((actions.filter (Action.adds id)).flatMap Action.resources).getLast?.map Prod.snd

/-- After any actions on an empty assembler, the definitions, the edges and the order of the nodes
agree, and each definition is that of the last accepted addition under its id. An action that fails
stores nothing and leaves everything as it was; an addition succeeds exactly if it stores the
definition that it describes. -/
theorem additions_leave_consistent_assembler (step : String) (actions : List Action) :
    (Action.runAll step actions ⟨.empty, .empty⟩).2.assembler.Consistent actions ∧
      (∀ (w : Workbench) (action : Action) (cause : AssemblyError),
        (action.run step w).1 = .failed cause →
          (action.run step w).2 = w ∧ action.resources = []) ∧
        ∀ (w : Workbench) (id type : String) (properties : Value) (options : ResourceOptions),
          ((Action.addResource id type properties options).run step w).1 = .done ↔
            ∃ members, (properties = .object members ∨ properties = .null ∧ members = []) ∧
              (Action.addResource id type properties options).resources =
                [(id, options.definition type members)] := by
  have recorded := Action.recorded_runAll step actions (w := ⟨.empty, .empty⟩) recorded_empty
  have order : (Action.runAll step actions ⟨.empty, .empty⟩).2.assembler.graph.order =
      ([] ++ (actions.flatMap Action.resources).map Prod.fst).eraseDups :=
    Action.order_runAll step actions recorded_empty rfl
  have gained := Action.gains_runAll step actions ⟨.empty, .empty⟩
  generalize (Action.runAll step actions ⟨.empty, .empty⟩).2 = w at recorded order gained ⊢
  have stored (id : String) : w.assembler.resources.get? id =
      NameMap.latest id (actions.flatMap Action.resources) := by
    rw [gained.resources, NameMap.get?_insertAll]
    exact Option.or_none
  refine ⟨⟨recorded.edges, fun id => ?_, ?_, order, fun id r declared => ?_, fun id => ?_⟩, ?_, ?_⟩
  · rw [recorded.listed, NameMap.contains, recorded.edges, Option.isSome_map,
      Option.isSome_iff_exists]
  · rw [order]
    exact nodup_eraseDups _
  · rw [stored] at declared
    obtain ⟨action, -, mem⟩ := List.mem_flatMap.1 (NameMap.mem_of_latest declared)
    exact Action.isAdmissible_of_mem_resources mem
  · rw [stored, NameMap.latest_eq_getLast?, Action.filter_flatMap_resources]
  · intro w action cause failed
    exact ⟨Action.eq_of_run_failed (Prod.ext failed rfl), Action.resources_of_run_failed failed⟩
  · intro w id type properties options
    exact Action.run_addResource_eq_done_iff

end Assembler

end StackDeploy
