/-
# Builds as merges

A build either stops with the first error that is not ignored, in the first step that has one, or
runs all actions of all steps. So what its steps leave is described without their interruptions, as
a run of all their actions. The template that is built is then told by look-ups in what was
declared: the steps come before the settings, the settings before the direct actions, and among the
actions the last one decides. Cycles are those of the merged resources.
-/

import Mathlib.Data.Nat.Find
import Mathlib.Logic.Relation
import StackDeploy.Proofs.Assembly.CreationOrder
import StackDeploy.Proofs.Assembly.Declarations

namespace StackDeploy

open Json (Value)
open Relation (TransGen)

/-! ## Cycles of resources -/

/-- A declared resource requires what it depends on explicitly, and the declared resources that it
refers to. -/
def Requires (resources : NameMap Resource) (id target : String) : Prop :=
  ∃ r, resources.get? id = some r ∧
    (target ∈ r.dependsOn.names ∨
      target ∈ r.implicitReferences.names ∧ resources.contains target = true)

/-- Some resource requires itself, possibly by way of others. -/
def HasCycle (resources : NameMap Resource) : Prop :=
  ∃ id, TransGen (Requires resources) id id

theorem transGen_of_isChain {α : Type} {r : α → α → Prop} {first last : α} {between : List α}
    (chain : (first :: between ++ [last]).IsChain r) : TransGen r first last := by
  induction between generalizing first with
  | nil => exact .single (List.isChain_cons_cons.1 chain).1
  | cons next rest ih =>
      obtain ⟨edge, later⟩ := List.isChain_cons_cons.1 chain
      exact .head edge (ih later)

namespace DependencyGraph

variable {g : DependencyGraph}

/-- In an ordered list every chain of edges goes to the front. -/
theorem Ordered.idxOf_lt_of_transGen {order : List String} (ordered : g.Ordered order)
    {node target : String} (chain : TransGen g.Edge node target) (listed : node ∈ order) :
    order.idxOf target < order.idxOf node := by
  have step {node target : String} (listed : node ∈ order) (edge : g.Edge node target) :
      order.idxOf target < order.idxOf node := by
    have kept : (order.filter fun _ => true).idxOf target <
        (order.filter fun _ => true).idxOf node :=
      ordered.idxOf_lt_of_edge (List.mem_filter.2 ⟨listed, rfl⟩) edge rfl
    rwa [List.filter_true] at kept
  induction chain with
  | single edge => exact step listed edge
  | tail _ edge ih =>
      have passed := List.idxOf_lt_length_iff.1 (ih.trans (List.idxOf_lt_length_of_mem listed))
      exact (step passed edge).trans ih

/-- The search finds a cycle exactly if there is a chain of edges from a node to itself. -/
theorem findCycle_eq_none_iff (listed : g.Listed) :
    g.findCycle = none ↔ ∀ node, ¬ TransGen g.Edge node node := by
  constructor
  · intro acyclic node chain
    obtain ⟨order, ordered, all⟩ := exists_ordered_of_findCycle_eq_none listed acyclic
    obtain ⟨target, edge, -⟩ := TransGen.head'_iff.1 chain
    exact Nat.lt_irrefl _ (ordered.idxOf_lt_of_transGen chain (all (listed.mem_order edge)))
  · intro acyclic
    cases found : g.findCycle with
    | none => rfl
    | some cycle =>
        obtain ⟨chain, between, path, -⟩ := closed_of_findCycle_eq_some listed found
        rw [path] at chain
        exact absurd (transGen_of_isChain chain) (acyclic cycle.id)

end DependencyGraph

namespace Assembler

variable {a : Assembler}

theorem Recorded.edge_combinedGraph (recorded : a.Recorded) :
    a.combinedGraph.Edge = Requires a.resources := by
  funext id target
  exact propext recorded.edge_combinedGraph_iff

theorem Recorded.checkCycles_eq_ok (recorded : a.Recorded) (acyclic : ¬ HasCycle a.resources) :
    a.checkCycles = .ok () := by
  have unfound : a.combinedGraph.findCycle = none := by
    rw [DependencyGraph.findCycle_eq_none_iff recorded.listed_combinedGraph,
      recorded.edge_combinedGraph]
    exact not_exists.1 acyclic
  rw [checkCycles, unfound]

theorem Recorded.checkCycles_eq_error (recorded : a.Recorded) (cyclic : HasCycle a.resources) :
    ∃ cycle, a.checkCycles = .error (.circularDependency cycle) := by
  unfold checkCycles
  cases found : a.combinedGraph.findCycle with
  | some cycle => exact ⟨cycle, rfl⟩
  | none =>
      rw [DependencyGraph.findCycle_eq_none_iff recorded.listed_combinedGraph,
        recorded.edge_combinedGraph] at found
      exact absurd cyclic (not_exists.2 found)

end Assembler

/-! ## Where steps stop -/

/-- The error with which an instruction stops its step on a workbench: an error of its action that
is not to be ignored. -/
def Instruction.stop? (step : String) (w : Workbench) (i : Instruction) : Option AssemblyError :=
  match (i.action.run step w).1, i.ignoresError with
  | .failed error, false => some error
  | _, _ => none

namespace ContributionStep

/-- The actions of a step. -/
def actions (step : ContributionStep) : List Action :=
  step.instructions.map Instruction.action

/-- What the actions of a step leave, whatever they answer. -/
def leave (step : ContributionStep) (w : Workbench) : Workbench :=
  (Action.runAll step.name step.actions w).2

/-- The error with which the instruction at a position would stop a step if those before it were
run, whatever they answer. -/
def stopAt? (step : ContributionStep) (w : Workbench) (n : Nat) : Option AssemblyError :=
  step.instructions[n]?.bind fun i =>
    i.stop? step.name (Action.runAll step.name (step.actions.take n) w).2

/-- No instruction stops the step. -/
def Passes (step : ContributionStep) (w : Workbench) : Prop :=
  ∀ n, step.stopAt? w n = none

/-- The first instruction that stops the step stands at a position, and it does so with an error. -/
structure StopsAt (step : ContributionStep) (w : Workbench) (n : Nat) (error : AssemblyError) :
    Prop where
  earlier : ∀ m < n, step.stopAt? w m = none
  here : step.stopAt? w n = some error

/-- What the actions of steps leave, whatever they answer. -/
def leaveAll (steps : List ContributionStep) (w : Workbench) : Workbench :=
  steps.foldl (fun w step => step.leave w) w

/-- The first step that is stopped stands at a position, and its first error is the given one. -/
structure FailsAt (steps : List ContributionStep) (w : Workbench) (n : Nat)
    (error : AssemblyError) : Prop where
  earlier : ∀ m < n, ∀ step, steps[m]? = some step → step.Passes (leaveAll (steps.take m) w)
  here : ∃ step position, steps[n]? = some step ∧
    step.StopsAt (leaveAll (steps.take n) w) position error

/-- No step is stopped. -/
def AllPass (steps : List ContributionStep) (w : Workbench) : Prop :=
  ∀ (n : Nat) (step : ContributionStep), steps[n]? = some step →
    step.Passes (leaveAll (steps.take n) w)

variable {name : String} {i : Instruction} {rest : List Instruction} {step : ContributionStep}
  {steps : List ContributionStep} {w : Workbench} {n : Nat} {error : AssemblyError}

theorem passes_or_stopsAt (step : ContributionStep) (w : Workbench) :
    step.Passes w ∨ ∃ n error, step.StopsAt w n error := by
  classical
  by_cases stopped : ∃ n, step.stopAt? w n ≠ none
  · obtain ⟨error, here⟩ := Option.ne_none_iff_exists'.1 (Nat.find_spec stopped)
    refine .inr ⟨Nat.find stopped, error, fun m lt => ?_, here⟩
    exact not_not.1 (Nat.find_min stopped lt)
  · exact .inl fun n => not_not.1 fun here => stopped ⟨n, here⟩

/-- An instruction that stops its step is the last one that is run. -/
theorem runInstructions_cons (name : String) (i : Instruction) (rest : List Instruction)
    (w : Workbench) :
    runInstructions name (i :: rest) w =
      match i.stop? name w with
      | some error => ⟨[(i.action.run name w).1], .error error⟩
      | none =>
        ⟨(i.action.run name w).1 :: (runInstructions name rest (i.action.run name w).2).outcomes,
          (runInstructions name rest (i.action.run name w).2).result⟩ := by
  rw [runInstructions, Instruction.stop?]
  dsimp only
  cases (i.action.run name w).1 <;> cases i.ignoresError <;> rfl

theorem runInstructions_of_pass (passed : i.stop? name w = none) :
    runInstructions name (i :: rest) w =
      ⟨(i.action.run name w).1 :: (runInstructions name rest (i.action.run name w).2).outcomes,
        (runInstructions name rest (i.action.run name w).2).result⟩ := by
  rw [runInstructions_cons, passed]

/-- A step that is not stopped leaves what its actions leave. -/
theorem run_of_passes (passes : step.Passes w) : (step.run w).result = .ok (step.leave w) := by
  obtain ⟨name, instructions⟩ := step
  unfold run
  dsimp only
  induction instructions generalizing w with
  | nil => rfl
  | cons i rest ih =>
      have passed : i.stop? name w = none := passes 0
      rw [runInstructions_of_pass passed]
      exact ih fun n => passes (n + 1)

/-- A step that is stopped answers with the error that stops it, as the last of its answers. -/
theorem run_of_stopsAt (stops : step.StopsAt w n error) :
    (step.run w).result = .error error ∧ (step.run w).outcomes.length = n + 1 := by
  obtain ⟨name, instructions⟩ := step
  unfold run
  dsimp only
  induction instructions generalizing w n with
  | nil => cases stops.here
  | cons i rest ih =>
      cases n with
      | zero =>
          have stopped : i.stop? name w = some error := stops.here
          rw [runInstructions_cons, stopped]
          exact ⟨rfl, rfl⟩
      | succ n =>
          have passed : i.stop? name w = none := stops.earlier 0 n.succ_pos
          rw [runInstructions_of_pass passed]
          have later := ih (w := (i.action.run name w).2) (n := n)
            ⟨fun m lt => stops.earlier (m + 1) (Nat.succ_lt_succ lt), stops.here⟩
          exact ⟨later.1, congrArg Nat.succ later.2⟩

/-- Steps that are not stopped all run. -/
theorem runAll_of_allPass (passes : AllPass steps w) :
    (runAll steps w).2 = .ok (leaveAll steps w) ∧ (runAll steps w).1.length = steps.length := by
  induction steps generalizing w with
  | nil => exact ⟨rfl, rfl⟩
  | cons step rest ih =>
      have ended : (step.run w).result = .ok (step.leave w) := run_of_passes (passes 0 step rfl)
      have later := ih (w := step.leave w) fun n => passes (n + 1)
      unfold runAll
      cases ran : step.run w with
      | mk outcomes result =>
          rw [ran] at ended
          cases ended
          exact ⟨later.1, congrArg Nat.succ later.2⟩

/-- The first step that is stopped is the last one that is run. -/
theorem runAll_of_failsAt (fails : FailsAt steps w n error) :
    (runAll steps w).2 = .error error ∧ (runAll steps w).1.length = n + 1 := by
  induction steps generalizing w n with
  | nil =>
      obtain ⟨step, position, found, -⟩ := fails.here
      cases found
  | cons step rest ih =>
      unfold runAll
      cases n with
      | zero =>
          obtain ⟨_, position, found, stops⟩ := fails.here
          cases found
          have ended : (step.run w).result = .error error := (run_of_stopsAt stops).1
          cases ran : step.run w with
          | mk outcomes result =>
              rw [ran] at ended
              cases ended
              exact ⟨rfl, rfl⟩
      | succ n =>
          have ended : (step.run w).result = .ok (step.leave w) :=
            run_of_passes (fails.earlier 0 n.succ_pos step rfl)
          have later := ih (w := step.leave w) (n := n)
            ⟨fun m lt => fails.earlier (m + 1) (Nat.succ_lt_succ lt), fails.here⟩
          cases ran : step.run w with
          | mk outcomes result =>
              rw [ran] at ended
              cases ended
              exact ⟨later.1, congrArg Nat.succ later.2⟩

/-- Where no step is the first to be stopped, none is stopped. -/
theorem allPass_of_not_failsAt (unfailing : ∀ n error, ¬ FailsAt steps w n error) :
    AllPass steps w := by
  intro n
  induction n using Nat.strongRecOn with
  | ind n earlier =>
      intro step found
      refine (passes_or_stopsAt step _).resolve_right ?_
      rintro ⟨position, error, stops⟩
      exact unfailing n error ⟨earlier, step, position, found, stops⟩

/-- The actions of steps in the order in which they are run. -/
def allActions (steps : List ContributionStep) : List Action :=
  steps.flatMap actions

theorem gains_leaveAll (steps : List ContributionStep) (w : Workbench) :
    w.Gains (allActions steps) (leaveAll steps w) := by
  induction steps generalizing w with
  | nil => exact .refl w
  | cons step rest ih =>
      exact (Action.gains_runAll step.name step.actions w).append (ih (step.leave w))

theorem recorded_leaveAll (recorded : w.assembler.Recorded) (steps : List ContributionStep) :
    (leaveAll steps w).assembler.Recorded := by
  induction steps generalizing w with
  | nil => exact recorded
  | cons step rest ih => exact ih (Action.recorded_runAll step.name step.actions recorded)

end ContributionStep

/-! ## The merged template -/

namespace NameMap

variable {α : Type} {name : String}

theorem latest_entries (m : NameMap α) : latest name m.entries = m.get? name := by
  have same : (ofList m.entries).get? name = (latest name m.entries).or none :=
    get?_insertAll empty
  rw [ofList_entries, Option.or_none] at same
  exact same.symm

theorem get?_override (m later : NameMap α) :
    (m.override later).get? name = (later.get? name).or (m.get? name) := by
  rw [override, get?_insertAll, latest_entries]

/-- Settings are laid over what was declared directly, and the steps declare on top of both. -/
theorem get?_of_layers {m after settings : NameMap α} {direct brought : List (String × α)}
    (below : m = empty.insertAll direct) (above : after = (m.override settings).insertAll brought)
    (name : String) :
    after.get? name = (latest name brought).or ((settings.get? name).or (latest name direct)) := by
  rw [above, get?_insertAll, get?_override, below, get?_insertAll]
  congr 2
  exact Option.or_none

end NameMap

open NameMap (latest)

/-- A template is what direct actions, settings, and the actions of steps declare, and nothing else.
Under each name the steps come first, then the settings, then the direct actions; among actions the
last one counts, and an addition of a resource counts if it is accepted. -/
structure Template.IsMerge (t : Template) (direct : List Action) (settings : TemplateSettings)
    (brought : List Action) : Prop where
  formatVersion : t.formatVersion = Template.defaultFormatVersion
  description : t.description = settings.description
  parameters : ∀ name, t.parameters.get? name =
    (latest name (brought.flatMap Action.parameters)).or
      ((settings.parameters.get? name).or (latest name (direct.flatMap Action.parameters)))
  mappings : ∀ name, t.mappings.get? name =
    (latest name (brought.flatMap Action.mappings)).or
      ((settings.mappings.get? name).or (latest name (direct.flatMap Action.mappings)))
  conditions : ∀ name, t.conditions.get? name =
    (latest name (brought.flatMap Action.conditions)).or
      ((settings.conditions.get? name).or (latest name (direct.flatMap Action.conditions)))
  resources : ∀ id, t.resources.get? id =
    latest id ((direct ++ brought).flatMap Action.resources)
  outputs : ∀ name, t.outputs.get? name = latest name (brought.flatMap Action.outputs)

namespace Assembler

variable {label : String} {direct : List Action} {settings : TemplateSettings}
  {steps : List ContributionStep}

/-- A build answers for the first step that is stopped, and for its check if there is none. -/
theorem build_of_failsAt {a : Assembler} {n : Nat} {error : AssemblyError}
    (fails : ContributionStep.FailsAt steps ⟨a.withSettings settings, .empty⟩ n error) :
    (a.build settings steps).result = .error error ∧
      (a.build settings steps).steps.length = n + 1 := by
  obtain ⟨stopped, length⟩ := ContributionStep.runAll_of_failsAt fails
  unfold build
  refine ⟨?_, length⟩
  dsimp only
  rw [stopped]
  rfl

theorem build_of_allPass {a : Assembler}
    (passes : ContributionStep.AllPass steps ⟨a.withSettings settings, .empty⟩) :
    let w := ContributionStep.leaveAll steps ⟨a.withSettings settings, .empty⟩
    (a.build settings steps).result = w.assembler.finish settings.description w.outputs ∧
      (a.build settings steps).steps.length = steps.length := by
  obtain ⟨ended, length⟩ := ContributionStep.runAll_of_allPass passes
  unfold build
  refine ⟨?_, length⟩
  dsimp only
  rw [ended]
  rfl

/-- What is finished without a cycle has the sections of the assembler. -/
theorem Recorded.finish_eq_ok {a : Assembler} (recorded : a.Recorded)
    (acyclic : ¬ HasCycle a.resources) (description : Option String) (outputs : NameMap Output) :
    ∃ t, a.finish description outputs = .ok t ∧
      t.formatVersion = Template.defaultFormatVersion ∧ t.description = description ∧
        t.parameters = a.parameters ∧ t.mappings = a.mappings ∧ t.conditions = a.conditions ∧
          t.resources = a.resources ∧ t.outputs = outputs := by
  refine ⟨⟨Template.defaultFormatVersion, description, a.parameters, a.mappings, a.conditions,
    a.resources, outputs⟩, ?_, rfl, rfl, rfl, rfl, rfl, rfl, rfl⟩
  rw [finish, recorded.checkCycles_eq_ok acyclic]
  rfl

/-- A build on what direct actions leave. It fails with the first error that is not ignored, of the
first step that has one, and no later step is run. If there is no such error, every step is run, and
the build fails with a circular dependency if the merged resources have a cycle; otherwise it gives
the merge of what was declared. -/
theorem build_is_merge (label : String) (direct : List Action) (settings : TemplateSettings)
    (steps : List ContributionStep) :
    let a := (Action.runAll label direct ⟨.empty, .empty⟩).2.assembler
    let start : Workbench := ⟨a.withSettings settings, .empty⟩
    let brought := ContributionStep.allActions steps
    let resources := NameMap.ofList ((direct ++ brought).flatMap Action.resources)
    let build := a.build settings steps
    (∀ n error, ContributionStep.FailsAt steps start n error →
      build.result = .error error ∧ build.steps.length = n + 1) ∧
    ((∀ n error, ¬ ContributionStep.FailsAt steps start n error) →
      build.steps.length = steps.length ∧
        (HasCycle resources → ∃ cycle, build.result = .error (.circularDependency cycle)) ∧
          (¬ HasCycle resources →
            ∃ t, build.result = .ok t ∧ t.IsMerge direct settings brought)) := by
  intro a start brought resources build
  refine ⟨fun n error fails => build_of_failsAt fails, fun unfailing => ?_⟩
  obtain ⟨finished, length⟩ :=
    build_of_allPass (ContributionStep.allPass_of_not_failsAt unfailing)
  have before := Action.gains_runAll label direct ⟨.empty, .empty⟩
  have recorded : a.Recorded := Action.recorded_runAll label direct recorded_empty
  have settled : start.assembler.Recorded := ⟨recorded.listed, recorded.edges⟩
  have reached := ContributionStep.recorded_leaveAll settled steps
  have gained := ContributionStep.gains_leaveAll steps start
  generalize ContributionStep.leaveAll steps start = w at finished reached gained
  have merged : w.assembler.resources = resources := by
    calc w.assembler.resources
        = (NameMap.empty.insertAll (direct.flatMap Action.resources)).insertAll
            (brought.flatMap Action.resources) := by
          rw [gained.resources, show start.assembler.resources = _ from before.resources]
          rfl
      _ = NameMap.empty.insertAll
            (direct.flatMap Action.resources ++ brought.flatMap Action.resources) :=
          (NameMap.insertAll_append _).symm
      _ = resources := by
          rw [← List.flatMap_append]
          rfl
  refine ⟨length, fun cyclic => ?_, fun acyclic => ?_⟩
  · rw [← merged] at cyclic
    obtain ⟨cycle, checked⟩ := reached.checkCycles_eq_error cyclic
    refine ⟨cycle, finished.trans ?_⟩
    rw [finish, checked]
    rfl
  · rw [← merged] at acyclic
    obtain ⟨t, made, formatVersion, description, parameters, mappings, conditions, declared,
      outputs⟩ := reached.finish_eq_ok acyclic settings.description w.outputs
    refine ⟨t, finished.trans made, formatVersion, description, fun name => ?_, fun name => ?_,
      fun name => ?_, fun id => ?_, fun name => ?_⟩
    · rw [parameters]
      exact NameMap.get?_of_layers before.parameters gained.parameters name
    · rw [mappings]
      exact NameMap.get?_of_layers before.mappings gained.mappings name
    · rw [conditions]
      exact NameMap.get?_of_layers before.conditions gained.conditions name
    · rw [declared, merged]
      exact (NameMap.get?_insertAll _).trans Option.or_none
    · rw [outputs, gained.outputs]
      exact (NameMap.get?_insertAll _).trans Option.or_none

end Assembler

end StackDeploy
