/-
# Deploying again what is deployed

Over a stack whose deployed body says the same as what is proposed, a deployment without parameters
and tags has nothing to do: it submits nothing, whatever the answers are, and once it gets to its
plan it reports that nothing has changed. In particular the order of keys does not show, from the
text of a template up to the calls of its deployment: a text whose keys stand in another order is
accepted like the first one, says the same, and does not update what the first one deployed.
-/

import StackDeploy.Proofs.Deployment.Submission
import StackDeploy.Proofs.Json.Written
import StackDeploy.Proofs.Template.Reordering

namespace StackDeploy

open Json

variable {options : DeployOptions} {script : Script} {baseline proposed : Template}

/-- Nothing is asked for over a baseline that says the same. -/
theorem DeployOptions.not_asks_of_saysSame (same : baseline.SaysSame proposed)
    (parameters : options.parameters = []) (tags : options.tags = []) :
    ¬ options.Asks baseline proposed := by
  have skips : (baseline.diff proposed).strategy = .skip :=
    TemplateDiff.strategy_eq_skip_iff.2 fun changed =>
      Bool.false_ne_true (same.diff.symm.trans (TemplateDiff.hasChanges_iff.2 changed))
  rw [← isUpToDate_iff, isUpToDate, skips, same.sections, parameters, tags]
  rfl

namespace DeployRun

variable {policy : WaitPolicy} {stack : String} {seen : Stack}
  {result : Except DeployError DeployReport} {calls : List PlaneCall}

/-- A deployment over an existing stack submits nothing if nothing is asked for. -/
theorem quiet_of_idle (looked : script.firstLook = .ok (some seen))
    (idle : ¬ options.Asks (script.baseline options) proposed)
    (run : DeployRun policy script stack proposed options result calls) :
    ∀ call ∈ calls, ¬ call.IsSubmission := by
  intro call mem submits
  obtain ⟨existing, request, reached, planned⟩ :=
    run.reaches_plan_of_submission ⟨call, mem, submits⟩
  cases reached.seen.symm.trans looked
  cases planned.symm.trans ((DeployOptions.plan_eq_keep_iff stack).2 idle)

/-- If it gets to its plan, it reports that nothing has changed and calls nothing more. -/
theorem unchanged_of_idle (reached : ReachesPlan script proposed options (some seen))
    (idle : ¬ options.Asks (script.baseline options) proposed)
    (run : DeployRun policy script stack proposed options result calls) :
    result = .ok ⟨.unchanged, .skip, (script.baseline options).diff proposed, some seen⟩ ∧
      calls = openingCalls stack (some seen) options := by
  have planned := (DeployOptions.plan_eq_keep_iff stack).2 idle
  have skips : ((script.baseline options).diff proposed).strategy = .skip :=
    TemplateDiff.strategy_eq_skip_iff.2 fun changed => idle (.diff changed)
  rcases run.of_reachesPlan reached with ⟨_, refused, _⟩ | ⟨_, kept, opening⟩ | ⟨_, submits, _⟩
  · cases refused.symm.trans planned
  · refine ⟨?_, opening⟩
    rw [kept, DeployReport.of, skips]
  · cases submits.symm.trans planned

end DeployRun

/-- A deployment gets to its plan over a stack that was created. -/
theorem ReachesPlan.of_usable {seen : Stack} (valid : proposed.validateReferences = .ok ())
    (looked : script.firstLook = .ok (some seen)) (usable : seen.status ∉ failedCreationStatuses)
    (fetched : options.previous = none → ∃ body, script.firstTemplate = .ok body) :
    ReachesPlan script proposed options (some seen) := by
  refine ⟨valid, looked, ?_, fun unset _ _ => fetched unset⟩
  rw [failedCreation?, Option.map_some, Option.filter_eq_none_iff]
  intro status is_status
  cases is_status
  rwa [List.contains_iff_mem]

/-- The baseline is the template of the deployed body, unless another one is given. -/
theorem Script.baseline_of_body {seen : Stack} {body : String} {t : Template}
    (unset : options.previous = none) (looked : script.firstLook = .ok (some seen))
    (fetched : script.firstTemplate = .ok (some body)) (read : Template.ofText body = .ok t) :
    script.baseline options = t := by
  rw [Script.baseline, unset, looked, fetched]
  dsimp only
  rw [deployedTemplate, Option.bind_some, read]
  rfl

/-- Over a stack whose deployed body says the same as what is proposed, a deployment submits
nothing, and it reports that nothing has changed if the references are valid and the stack was
created. -/
theorem redeployment_is_skipped {body : String} {t : Template} (policy : WaitPolicy)
    (cancelled : Bool) (stack : String) {seen : Stack} (read : Template.ofText body = .ok t)
    (same : t.SaysSame proposed) (looked : script.firstLook = .ok (some seen))
    (fetched : script.firstTemplate = .ok (some body)) (unset : options.previous = none)
    (parameters : options.parameters = []) (tags : options.tags = []) :
    let run := (Rehearsal.deployer policy).deploy stack proposed options
      (Rehearsal.start script cancelled)
    (∀ call ∈ run.2.calls, ¬ call.IsSubmission) ∧
      (proposed.validateReferences = .ok () → seen.status ∉ failedCreationStatuses →
        run.1 = .ok ⟨.unchanged, .skip, t.diff proposed, some seen⟩) := by
  intro run
  have based : script.baseline options = t := Script.baseline_of_body unset looked fetched read
  have idle : ¬ options.Asks (script.baseline options) proposed :=
    DeployOptions.not_asks_of_saysSame (based ▸ same) parameters tags
  have ways := deploy_run policy script cancelled stack proposed options
  refine ⟨ways.quiet_of_idle looked idle, fun valid usable => ?_⟩
  have reached : ReachesPlan script proposed options (some seen) :=
    .of_usable valid looked usable fun _ => ⟨_, fetched⟩
  rw [← based]
  exact (ways.unchanged_of_idle reached idle).1

/-- The order of keys is invisible from the document to the deployment. If a document is accepted in
which no object repeats a key, every document with the same members in another order, at any depth,
is accepted too. Its template says the same in either direction, with every id unchanged, and over a
stack whose deployed body is the first document its deployment submits nothing. -/
theorem reordered_document_is_not_submitted (document document' : String) (t : Template)
    (read : Template.ofText document = .ok t)
    (once : (Document.ofText document).root.KeysOnce)
    (reordered : (Document.ofText document).Reordered (Document.ofText document')) :
    ∃ t', Template.ofText document' = .ok t' ∧ t.SaysSame t' ∧ t'.SaysSame t ∧
      t.resources.names = t'.resources.names ∧
      (t.diff t').unchanged = t.resources.names ∧ (t'.diff t).unchanged = t.resources.names ∧
      ∀ (policy : WaitPolicy) (script : Script) (cancelled : Bool) (stack : String)
        (options : DeployOptions) (seen : Stack), script.firstLook = .ok (some seen) →
        script.firstTemplate = .ok (some document) →
        options.previous = none → options.parameters = [] → options.tags = [] →
        let run := (Rehearsal.deployer policy).deploy stack t' options
          (Rehearsal.start script cancelled)
        (∀ call ∈ run.2.calls, ¬ call.IsSubmission) ∧
          (t'.validateReferences = .ok () → seen.status ∉ failedCreationStatuses →
            run.1 = .ok ⟨.unchanged, .skip, t.diff t', some seen⟩) := by
  obtain ⟨t', read', same⟩ := Template.ofText_of_reordered read once reordered
  have reverse := same.symm (Template.distinct_of_ofText read) (Template.distinct_of_ofText read')
  obtain ⟨ids, ids'⟩ := Template.unchanged_eq_names same.diff
  obtain ⟨-, reverse_ids⟩ := Template.unchanged_eq_names reverse.diff
  refine ⟨t', read', same, reverse, ids.symm.trans ids', ids, reverse_ids, ?_⟩
  intro policy script cancelled stack options seen looked fetched unset parameters tags
  exact redeployment_is_skipped policy cancelled stack read same looked fetched unset parameters
    tags

/-- A server and its network, with two members in every object. -/
def serverDocument : Value :=
  .object [("Description", .string "A server"), ("Resources", .object
    [("Network", .object [("Type", .string "Web::Network"), ("DeletionPolicy", .string "Retain")]),
      ("Server", .object [("Type", .string "Web::Server"),
        ("Properties", .object [("Port", .number (.int 80)), ("Host", .string "a")])])])]

/-- The same with every two members swapped. -/
def swappedServerDocument : Value :=
  .object [("Resources", .object
    [("Server", .object
        [("Properties", .object [("Host", .string "a"), ("Port", .number (.int 80))]),
          ("Type", .string "Web::Server")]),
      ("Network", .object [("DeletionPolicy", .string "Retain"),
        ("Type", .string "Web::Network")])]), ("Description", .string "A server")]

private theorem reordered_of_swapped {ending : Ending} {first second : Except Problem String}
    {a a' b b' : Tree} (firsts : a.Reordered a') (seconds : b.Reordered b') :
    (Tree.object [(first, a), (second, b)] ending).Reordered
      (.object [(second, b'), (first, a')] ending) := by
  refine @Tree.Reordered.object [((first, a), (first, a')), ((second, b), (second, b'))] _ _ ?_ ?_
    (.swap _ _ _)
  · exact List.forall_mem_cons.2 ⟨rfl, List.forall_mem_singleton.2 rfl⟩
  · exact List.forall_mem_cons.2 ⟨firsts, List.forall_mem_singleton.2 seconds⟩

/-- The server is not deployed again because its keys were swapped. -/
theorem swapped_server_is_not_submitted :
    let seen : Stack := ⟨"prod", none, .createComplete, none, []⟩
    let script : Script := { Script.empty with
      describes := [.ok (some seen)], templates := [.ok (some serverDocument.pretty)] }
    serverDocument ≠ swappedServerDocument ∧
      ∃ t t', Template.ofText serverDocument.pretty = .ok t ∧
        Template.ofText swappedServerDocument.compact = .ok t' ∧
        (t.diff t').unchanged = .ofList ["Network", "Server"] ∧
        ((Rehearsal.deployer .default).deploy "prod" t' .none (Rehearsal.start script false)).1 =
          .ok ⟨.unchanged, .skip, t.diff t', some seen⟩ := by
  intro seen script
  have port : ∀ n ∈ [Number.int 80], n.ReadsBack := by
    intro n mem
    rw [List.mem_singleton.1 mem]
    rfl
  have document : Document.ofText serverDocument.pretty = ⟨serverDocument.toTree, false⟩ :=
    Document.ofText_pretty port
  have document' : Document.ofText swappedServerDocument.compact =
      ⟨swappedServerDocument.toTree, false⟩ := Document.ofText_compact port
  have distinct : serverDocument.Distinct := by decide
  have once : (Document.ofText serverDocument.pretty).root.KeysOnce := by
    rw [document]
    exact distinct.keysOnce
  have reordered : (Document.ofText serverDocument.pretty).Reordered
      (Document.ofText swappedServerDocument.compact) := by
    rw [document, document']
    exact ⟨reordered_of_swapped (.string _) (reordered_of_swapped
      (reordered_of_swapped (.string _) (.string _))
      (reordered_of_swapped (.string _) (reordered_of_swapped (.number _) (.string _)))), rfl⟩
  have read : ∃ t, Template.ofText serverDocument.pretty = .ok t ∧
      t.resources.names = .ofList ["Network", "Server"] := by
    rw [Template.ofText, document]
    exact ⟨_, rfl, rfl⟩
  obtain ⟨t, read, ids⟩ := read
  obtain ⟨t', read', -, -, -, unchanged, -, skipped⟩ :=
    reordered_document_is_not_submitted _ _ t read once reordered
  refine ⟨by decide, t, t', read, read', unchanged.trans ids, ?_⟩
  obtain ⟨-, reported⟩ := skipped .default script false "prod" .none seen rfl rfl rfl rfl rfl
  refine reported ?_ (by decide)
  rw [Template.ofText, document'] at read'
  cases read'
  rfl

end StackDeploy
