/-
# What a deployment submits

Two promises about the requests of a deployment are read off the list of its ways. The first is the
guard against loss: unless destructive changes are allowed, nothing is requested that would not keep
every resource of the baseline, and a refusal names exactly the resources that would be lost. The
second is that an update is requested exactly when there is something to do, for which the sections
that the diff compares and those that the planner compares must together cover the template.
-/

import StackDeploy.Proofs.Deployment.Calls
import StackDeploy.Proofs.Diff.Identity

namespace StackDeploy

open Json (Value)

/-- The baseline holds the keys of its objects once if a revision that is given does: one that is
fetched is read from its text. -/
theorem Script.distinct_baseline (script : Script) {options : DeployOptions}
    (given : ∀ previous, options.previous = some previous → previous.Distinct) :
    (script.baseline options).Distinct := by
  unfold Script.baseline
  split
  · next previous is_given => exact given previous is_given
  · next body _ _ _ =>
      cases deployed : deployedTemplate body with
      | none => exact Template.distinct_empty
      | some t =>
          obtain ⟨text, -, kept⟩ := Option.bind_eq_some_iff.1 deployed
          cases read : Template.ofText text with
          | error cause => rw [read] at kept; cases kept
          | ok t' =>
              rw [read] at kept
              cases kept
              exact Template.distinct_of_ofText read
  · exact Template.distinct_empty

namespace TemplateDiff

/-- A diff has a change: a resource that was added, modified or deleted, or a changed section. -/
inductive Changed (d : TemplateDiff) : Prop
  | added : d.added.names ≠ [] → d.Changed
  | modified : d.modified.names ≠ [] → d.Changed
  | deleted : d.deleted.names ≠ [] → d.Changed
  | parameters : d.parametersChanged = true → d.Changed
  | outputs : d.outputsChanged = true → d.Changed

theorem hasChanges_iff {d : TemplateDiff} : d.hasChanges = true ↔ d.Changed := by
  have nonempty (s : NameSet) : (!s.isEmpty) = true ↔ s.names ≠ [] := by
    rw [NameSet.isEmpty, Bool.not_eq_true', List.isEmpty_eq_false_iff]
  rw [hasChanges]
  simp only [Bool.or_eq_true, nonempty]
  constructor
  · rintro ((((added | modified) | deleted) | parameters) | outputs)
    · exact .added added
    · exact .modified modified
    · exact .deleted deleted
    · exact .parameters parameters
    · exact .outputs outputs
  · intro changed
    cases changed <;> simp only [*, ne_eq, not_false_eq_true, true_or, or_true]

theorem strategy_eq_skip_iff {d : TemplateDiff} : d.strategy = .skip ↔ ¬ d.Changed := by
  rw [← hasChanges_iff, strategy]
  cases d.hasChanges with
  | false => exact iff_of_true rfl Bool.false_ne_true
  | true =>
      refine iff_of_false (fun skipped => ?_) (not_not_intro rfl)
      simp only [Bool.not_true, Bool.false_eq_true, if_false] at skipped
      split at skipped <;> cases skipped

end TemplateDiff

/-- The reasons to update a stack from a baseline. -/
inductive DeployOptions.Asks (options : DeployOptions) (baseline proposed : Template) : Prop
  | diff : (baseline.diff proposed).Changed → options.Asks baseline proposed
  | description : baseline.description ≠ proposed.description → options.Asks baseline proposed
  | mappings : ¬ NameMap.SameEntries Value.same baseline.mappings proposed.mappings →
      options.Asks baseline proposed
  | conditions : ¬ NameMap.SameEntries Value.same baseline.conditions proposed.conditions →
      options.Asks baseline proposed
  | parameters : options.parameters ≠ [] → options.Asks baseline proposed
  | tags : options.tags ≠ [] → options.Asks baseline proposed

namespace DeployOptions

variable {options : DeployOptions} {stack : String} {baseline proposed : Template}

theorem isUpToDate_iff :
    options.isUpToDate baseline proposed = true ↔ ¬ options.Asks baseline proposed := by
  simp only [isUpToDate, Template.sectionsMatch, Bool.and_eq_true, beq_iff_eq,
    TemplateDiff.strategy_eq_skip_iff, List.isEmpty_iff, NameMap.sameBy_iff_sameEntries]
  constructor
  · rintro ⟨⟨⟨unchanged, parameters⟩, tags⟩, ⟨description, mappings⟩, conditions⟩ asks
    cases asks with
    | diff changed => exact unchanged changed
    | description differ => exact differ description
    | mappings differ => exact differ mappings
    | conditions differ => exact differ conditions
    | parameters given => exact given parameters
    | tags given => exact given tags
  · intro idle
    refine ⟨⟨⟨fun changed => idle (.diff changed), ?_⟩, ?_⟩, ⟨?_, ?_⟩, ?_⟩
    · exact not_not.1 fun given => idle (.parameters given)
    · exact not_not.1 fun given => idle (.tags given)
    · exact not_not.1 fun differ => idle (.description differ)
    · exact not_not.1 fun differ => idle (.mappings differ)
    · exact not_not.1 fun differ => idle (.conditions differ)

theorem plan_eq_keep_iff (stack : String) :
    options.plan stack true baseline proposed = .ok .keep ↔ ¬ options.Asks baseline proposed := by
  rw [← isUpToDate_iff, plan, Bool.true_and]
  split
  · next idle => exact iff_of_true rfl idle
  · next asks =>
      refine iff_of_false (fun kept => ?_) asks
      split at kept <;> cases kept

/-- What is submitted is not refused: either nothing is lost or losses are allowed. -/
theorem safe_of_plan_eq_submit {request : StackRequest} {stackExists : Bool}
    (planned : options.plan stack stackExists baseline proposed = .ok (.submit request)) :
    baseline.isDestructive proposed = true → options.allowDestructive = true := by
  intro destructive
  by_contra guarded
  rw [Bool.not_eq_true] at guarded
  rw [plan, destructive, guarded] at planned
  split at planned <;> cases planned

/-- What is submitted is the request that deploys the proposed template. -/
theorem request_of_plan_eq_submit {request : StackRequest} {stackExists : Bool}
    (planned : options.plan stack stackExists baseline proposed = .ok (.submit request)) :
    request = .ofTemplate stack proposed options.parameters options.tags := by
  unfold plan at planned
  split at planned
  · cases planned
  · split at planned
    · cases planned
    · cases planned
      rfl

theorem submits_iff (stack : String) :
    (∃ request, options.plan stack true baseline proposed = .ok (.submit request)) ↔
      ¬ (baseline.isDestructive proposed = true ∧ options.allowDestructive = false) ∧
        options.Asks baseline proposed := by
  constructor
  · rintro ⟨request, planned⟩
    refine ⟨fun ⟨destructive, guarded⟩ => ?_, not_not.1 fun idle => ?_⟩
    · rw [safe_of_plan_eq_submit planned destructive] at guarded
      cases guarded
    · rw [(plan_eq_keep_iff stack).2 idle] at planned
      cases planned
  · rintro ⟨safe, asks⟩
    refine ⟨.ofTemplate stack proposed options.parameters options.tags, ?_⟩
    have busy : ¬ (true && options.isUpToDate baseline proposed) = true :=
      fun idle => isUpToDate_iff.1 idle asks
    rw [plan, if_neg busy, if_neg]
    intro refused
    rw [Bool.and_eq_true, Bool.not_eq_true'] at refused
    exact safe refused

theorem refusal_of_plan_eq_error {stackExists : Bool} {cause : DeployError}
    (planned : options.plan stack stackExists baseline proposed = .error cause) :
    baseline.isDestructive proposed = true ∧
      cause = .destructiveChange stack (baseline.affected proposed).names := by
  rw [plan] at planned
  split at planned
  · cases planned
  · split at planned
    · next refused =>
        cases planned
        rw [Bool.and_eq_true] at refused
        exact ⟨refused.1, rfl⟩
    · cases planned

end DeployOptions

namespace DeployRun

variable {policy : WaitPolicy} {script : Script} {stack : String} {proposed : Template}
  {options : DeployOptions} {result : Except DeployError DeployReport} {calls : List PlaneCall}

theorem not_submission_of_mem_opening {existing : Option Stack} {call : PlaneCall}
    (mem : call ∈ openingCalls stack existing options) : ¬ call.IsSubmission := by
  unfold openingCalls at mem
  split at mem
  · rcases List.mem_pair.1 mem with rfl | rfl <;> exact not_false
  · rcases List.mem_singleton.1 mem with rfl
    exact not_false

private theorem eq_of_mem_closing {existing : Option Stack} {submission call : PlaneCall}
    (looks : Nat) (submits : call.IsSubmission)
    (mem : call ∈ openingCalls stack existing options ++ submission ::
      List.replicate looks (.describe stack)) : call = submission := by
  rcases List.mem_append.1 mem with opening | closing
  · exact absurd submits (not_submission_of_mem_opening opening)
  · rcases List.mem_cons.1 closing with same | look
    · exact same
    · cases List.eq_of_mem_replicate look
      exact submits.elim

/-- A submission is the one of a plan that is reached. -/
theorem planned_of_submission
    (run : DeployRun policy script stack proposed options result calls) {call : PlaneCall}
    (mem : call ∈ calls) (submits : call.IsSubmission) :
    ∃ existing request, ReachesPlan script proposed options existing ∧
      options.plan stack existing.isSome (script.baseline options) proposed =
        .ok (.submit request) ∧ (call = .create request ∨ call = .update request) := by
  cases run with
  | invalid valid => cases mem
  | unseen valid seen =>
      rcases List.mem_singleton.1 mem with rfl
      exact submits.elim
  | unusable valid seen usable =>
      rcases List.mem_singleton.1 mem with rfl
      exact submits.elim
  | unfetched valid seen usable given fetched =>
      rcases List.mem_pair.1 mem with rfl | rfl <;> exact submits.elim
  | refused reached planned => exact absurd submits (not_submission_of_mem_opening mem)
  | kept reached planned => exact absurd submits (not_submission_of_mem_opening mem)
  | @notUpdated seen request _ reached planned =>
      exact ⟨_, request, reached, planned, Or.inr (eq_of_mem_closing 0 submits mem)⟩
  | @notChanged seen request reached planned =>
      exact ⟨_, request, reached, planned, Or.inr (eq_of_mem_closing 0 submits mem)⟩
  | @updated seen request _ _ reached planned =>
      exact ⟨_, request, reached, planned, Or.inr (eq_of_mem_closing _ submits mem)⟩
  | @notCreated request _ reached planned =>
      exact ⟨_, request, reached, planned, Or.inl (eq_of_mem_closing 0 submits mem)⟩
  | @created request _ _ _ reached planned =>
      exact ⟨_, request, reached, planned, Or.inl (eq_of_mem_closing _ submits mem)⟩

/-- Only a plan to submit that is reached leads to a submission. -/
theorem reaches_plan_of_submission
    (run : DeployRun policy script stack proposed options result calls)
    (submitted : ∃ call ∈ calls, call.IsSubmission) :
    ∃ existing request, ReachesPlan script proposed options existing ∧
      options.plan stack existing.isSome (script.baseline options) proposed =
        .ok (.submit request) := by
  obtain ⟨call, mem, submits⟩ := submitted
  obtain ⟨existing, request, reached, planned, -⟩ := run.planned_of_submission mem submits
  exact ⟨existing, request, reached, planned⟩

theorem plan_of_submission (run : DeployRun policy script stack proposed options result calls)
    (submitted : ∃ call ∈ calls, call.IsSubmission) :
    ∃ stackExists request, options.plan stack stackExists (script.baseline options) proposed =
      .ok (.submit request) := by
  obtain ⟨existing, request, -, planned⟩ := run.reaches_plan_of_submission submitted
  exact ⟨existing.isSome, request, planned⟩

/-- A refusal comes from the plan and ends the run. -/
theorem plan_of_destructiveChange {name : String} {resources : List String}
    (run : DeployRun policy script stack proposed options result calls)
    (refused : result = .error (.destructiveChange name resources)) :
    ∃ existing : Option Stack, calls = openingCalls stack existing options ∧
      options.plan stack existing.isSome (script.baseline options) proposed =
        .error (.destructiveChange name resources) := by
  cases run with
  | refused reached planned =>
      cases refused
      exact ⟨_, rfl, planned⟩
  | updated _ _ _ _ settled => cases settled <;> cases refused
  | created _ _ _ _ settled => cases settled <;> cases refused
  | _ => cases refused

/-- A deployment that gets to the plan over an existing stack follows it. -/
theorem of_reachesPlan {seen : Stack} (reached : ReachesPlan script proposed options (some seen))
    (run : DeployRun policy script stack proposed options result calls) :
    (∃ cause, options.plan stack true (script.baseline options) proposed = .error cause ∧
      calls = openingCalls stack (some seen) options) ∨
    (options.plan stack true (script.baseline options) proposed = .ok .keep ∧
      result = .ok (.of .unchanged (script.baseline options) proposed (some seen)) ∧
      calls = openingCalls stack (some seen) options) ∨
    ∃ request, options.plan stack true (script.baseline options) proposed = .ok (.submit request) ∧
      .update request ∈ calls := by
  have same_look {existing : Option Stack}
      (other : ReachesPlan script proposed options existing) : existing = some seen := by
    have answers := other.seen.symm.trans reached.seen
    cases answers
    rfl
  cases run with
  | invalid valid => cases valid.symm.trans reached.valid
  | unseen valid looked => cases looked.symm.trans reached.seen
  | unusable valid looked usable =>
      cases looked.symm.trans reached.seen
      cases usable.symm.trans reached.usable
  | unfetched valid looked usable given fetched =>
      obtain ⟨body, answered⟩ := reached.fetched given seen rfl
      cases fetched.symm.trans answered
  | refused other planned =>
      cases same_look other
      exact Or.inl ⟨_, planned, rfl⟩
  | kept other planned =>
      cases same_look other
      exact Or.inr (Or.inl ⟨planned, rfl, rfl⟩)
  | notUpdated other planned =>
      cases same_look other
      exact Or.inr (Or.inr ⟨_, planned, List.mem_append_right _ (List.mem_singleton.2 rfl)⟩)
  | notChanged other planned =>
      cases same_look other
      exact Or.inr (Or.inr ⟨_, planned, List.mem_append_right _ (List.mem_singleton.2 rfl)⟩)
  | updated other planned =>
      cases same_look other
      exact Or.inr (Or.inr ⟨_, planned, List.mem_append_right _ List.mem_cons_self⟩)
  | notCreated other planned => cases same_look other
  | created other planned => cases same_look other

end DeployRun

/-- The guard against loss. Unless destructive changes are allowed, a deployment submits a request
only if it keeps every resource of the baseline; and when it is refused, it has submitted nothing
and names, in increasing order, exactly the resources that would be lost. The objects of the
revisions hold every key once, as they do in all that is read from a text. -/
theorem submits_only_what_keeps (policy : WaitPolicy) (script : Script) (cancelled : Bool)
    (stack : String) (proposed : Template) (options : DeployOptions)
    (guarded : options.allowDestructive = false) (hproposed : proposed.Distinct)
    (hprevious : ∀ previous, options.previous = some previous → previous.Distinct) :
    let run := (Rehearsal.deployer policy).deploy stack proposed options
      (Rehearsal.start script cancelled)
    ((∃ call ∈ run.2.calls, call.IsSubmission) →
      ∀ id, (script.baseline options).Keeps proposed id) ∧
    ∀ name resources, run.1 = .error (.destructiveChange name resources) →
      name = stack ∧ (∀ call ∈ run.2.calls, ¬ call.IsSubmission) ∧
        resources ≠ [] ∧ resources.Pairwise (· < ·) ∧
          ∀ id, id ∈ resources ↔ ¬ (script.baseline options).Keeps proposed id := by
  intro run
  have ways := deploy_run policy script cancelled stack proposed options
  have hbaseline := script.distinct_baseline hprevious
  constructor
  · intro submitted id
    obtain ⟨stackExists, request, planned⟩ := ways.plan_of_submission submitted
    refine Template.keeps_of_not_destructive hbaseline hproposed ?_ id
    by_contra destructive
    rw [Bool.not_eq_false] at destructive
    rw [DeployOptions.safe_of_plan_eq_submit planned destructive] at guarded
    cases guarded
  · intro name resources refused
    obtain ⟨existing, calls, planned⟩ := ways.plan_of_destructiveChange refused
    obtain ⟨destructive, same⟩ := DeployOptions.refusal_of_plan_eq_error planned
    cases same
    refine ⟨rfl, fun call mem => ?_, Template.isDestructive_iff.1 destructive,
      (Template.affected _ _).sorted, fun id => Template.mem_affected_iff hbaseline hproposed⟩
    rw [calls] at mem
    exact DeployRun.not_submission_of_mem_opening mem

/-- The template of one bucket with a name of its own. -/
def bucketNamed (name : String) : Template :=
  { Template.empty with
    resources := NameMap.empty.insert "Bucket"
      ⟨"AWS::S3::Bucket", [("BucketName", .string name)], .empty, none, .delete, none⟩ }

private theorem distinct_bucketNamed (name : String) : (bucketNamed name).Distinct := by
  refine ⟨?_, ?_, ?_, ?_, ?_⟩ <;> intro id declaration declared
  case refine_4 =>
    rw [bucketNamed, NameMap.get?_insert] at declared
    split at declared
    · cases declared
      refine Value.distinct_object_iff.2 ⟨List.pairwise_singleton _ _, fun entry mem => ?_⟩
      rcases List.mem_singleton.1 mem with rfl
      exact .string name
    · cases declared
  all_goals cases declared

/-- To rename a bucket is to lose it, so this is refused. -/
theorem renamed_bucket_is_refused :
    let options : DeployOptions := ⟨some (bucketNamed "logs"), [], [], false⟩
    let run := (Rehearsal.deployer .default).deploy "prod" (bucketNamed "audit") options
      (Rehearsal.start { Script.empty with describes := [.ok none] } false)
    run.1 = .error (.destructiveChange "prod" ["Bucket"]) ∧
      (∀ call ∈ run.2.calls, ¬ call.IsSubmission) ∧
        ¬ (bucketNamed "logs").Keeps (bucketNamed "audit") "Bucket" := by
  intro options run
  have refused : run.1 = .error (.destructiveChange "prod" ["Bucket"]) := rfl
  have guard := submits_only_what_keeps .default { Script.empty with describes := [.ok none] } false
    "prod" (bucketNamed "audit") options rfl (distinct_bucketNamed _)
    (fun previous given => by cases given; exact distinct_bucketNamed _)
  obtain ⟨-, quiet, -, -, lost⟩ := guard.2 "prod" ["Bucket"] refused
  exact ⟨refused, quiet, (lost "Bucket").1 List.mem_cons_self⟩

/-- An update is requested exactly when there is something to do and it is not refused. When there
is nothing to do, the deployment reports so with the snapshot of the first look, and no call follows
the question for the baseline. -/
theorem updates_iff_asked (policy : WaitPolicy) (script : Script) (cancelled : Bool)
    (stack : String) (proposed : Template) (options : DeployOptions) (seen : Stack)
    (valid : proposed.validateReferences = .ok ()) (looked : script.firstLook = .ok (some seen))
    (usable : seen.status ≠ .rollbackComplete ∧ seen.status ≠ .rollbackFailed)
    (fetched : options.previous = none → ∃ body, script.firstTemplate = .ok body) :
    let run := (Rehearsal.deployer policy).deploy stack proposed options
      (Rehearsal.start script cancelled)
    let baseline := script.baseline options
    ((∃ request, .update request ∈ run.2.calls) ↔
      ¬ (baseline.isDestructive proposed = true ∧ options.allowDestructive = false) ∧
        options.Asks baseline proposed) ∧
    (¬ options.Asks baseline proposed →
      run.1 = .ok ⟨.unchanged, .skip, baseline.diff proposed, some seen⟩ ∧
        run.2.calls = openingCalls stack (some seen) options) := by
  intro run baseline
  have reached : ReachesPlan script proposed options (some seen) := by
    refine ⟨valid, looked, ?_, fun given _ _ => fetched given⟩
    rw [failedCreation?, Option.map_some, Option.filter_eq_none_iff]
    intro status same
    cases same
    simp [failedCreationStatuses, usable.1, usable.2]
  have ways := (deploy_run policy script cancelled stack proposed options).of_reachesPlan reached
  constructor
  · rw [← DeployOptions.submits_iff stack]
    constructor
    · rintro ⟨request, mem⟩
      have submits : PlaneCall.IsSubmission (.update request) := trivial
      rcases ways with ⟨_, _, calls⟩ | ⟨_, _, calls⟩ | ⟨request', planned, _⟩
      · exact absurd submits (DeployRun.not_submission_of_mem_opening (calls ▸ mem))
      · exact absurd submits (DeployRun.not_submission_of_mem_opening (calls ▸ mem))
      · exact ⟨request', planned⟩
    · rintro ⟨request, planned⟩
      rcases ways with ⟨_, refused, _⟩ | ⟨kept, _, _⟩ | ⟨request', _, mem⟩
      · cases refused.symm.trans planned
      · cases kept.symm.trans planned
      · exact ⟨request', mem⟩
  · intro idle
    have planned := (DeployOptions.plan_eq_keep_iff stack).2 idle
    rcases ways with ⟨_, refused, _⟩ | ⟨_, result, calls⟩ | ⟨_, submits, _⟩
    · cases refused.symm.trans planned
    · have skips : (baseline.diff proposed).strategy = .skip :=
        TemplateDiff.strategy_eq_skip_iff.2 fun changed => idle (.diff changed)
      refine ⟨result.trans ?_, calls⟩
      rw [DeployReport.of, skips]
    · cases submits.symm.trans planned

/-- Over a stack that was created before, a new bucket asks for an update, and the same bucket as
before asks for nothing. -/
theorem bucket_is_updated_only_if_new :
    let seen : Stack := ⟨"prod", none, .createComplete, none, []⟩
    let script : Script := { Script.empty with describes := [.ok (some seen)] }
    let run (previous : Template) := (Rehearsal.deployer .default).deploy "prod"
      (bucketNamed "logs") ⟨some previous, [], [], false⟩ (Rehearsal.start script false)
    (∃ request, .update request ∈ (run .empty).2.calls) ∧
      (run (bucketNamed "logs")).1 = .ok ⟨.unchanged, .skip,
        (bucketNamed "logs").diff (bucketNamed "logs"), some seen⟩ ∧
      (run (bucketNamed "logs")).2.calls = [.describe "prod"] := by
  intro seen script run
  have decides (previous : Template) := updates_iff_asked .default script false "prod"
    (bucketNamed "logs") ⟨some previous, [], [], false⟩ seen rfl rfl (by decide)
    (fun given => by cases given)
  constructor
  · refine (decides .empty).1.2 ⟨?_, .diff (.added ?_)⟩
    · rintro ⟨destructive, -⟩
      cases destructive
    · intro none_added
      cases none_added
  · exact (decides (bucketNamed "logs")).2 (DeployOptions.isUpToDate_iff.1 rfl)

end StackDeploy
