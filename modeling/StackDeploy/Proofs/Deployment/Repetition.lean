/-
# Deploying a document twice

What a deployment submits is the text of its template, and a template that was read from a document
is read again from its own text. So once a document has been submitted, deploying it again over its
own body changes nothing: the second deployment looks at the stack, asks for the template, and
reports that it skips. This holds for every document that is read, whatever else the provider
answers.
-/

import StackDeploy.Proofs.Deployment.Redeployment
import StackDeploy.Proofs.Template.RoundTrip

namespace StackDeploy

open Json (Value)

/-- A template that was read from a document is read again from its own text, if its numbers are
read back by themselves. -/
theorem Template.read_again_of_read {document : String} {t : Template}
    (read : Template.ofText document = .ok t) (readsBack : ∀ n ∈ t.toValue.numbers, n.ReadsBack) :
    Template.ofText t.text = .ok t := by
  rw [ofText_text (every_sound_of_ofText read) readsBack, asRead_eq_self]
  exact fun name p declared => default_ne_null_of_ofText read declared

/-- A deployment submits the text of its template, which has valid references. -/
theorem DeployRun.body_of_submission {policy : WaitPolicy} {script : Script} {stack : String}
    {proposed : Template} {options : DeployOptions} {result : Except DeployError DeployReport}
    {calls : List PlaneCall} {request : StackRequest}
    (run : DeployRun policy script stack proposed options result calls)
    (submitted : .create request ∈ calls ∨ .update request ∈ calls) :
    request.templateBody = proposed.text ∧ proposed.validateReferences = .ok () := by
  obtain ⟨call, mem, submits, asks⟩ : ∃ call ∈ calls, call.IsSubmission ∧
      (call = .create request ∨ call = .update request) := by
    rcases submitted with mem | mem
    · exact ⟨_, mem, trivial, Or.inl rfl⟩
    · exact ⟨_, mem, trivial, Or.inr rfl⟩
  obtain ⟨_, made, reached, planned, same⟩ := run.planned_of_submission mem submits
  have request_same : request = made := by
    rcases asks with rfl | rfl <;> rcases same with same | same <;> cases same <;> rfl
  rw [request_same, DeployOptions.request_of_plan_eq_submit planned]
  exact ⟨rfl, reached.valid⟩

/-- Deploying a document again changes nothing. If a first deployment of its template submits a
body, however it ends, then every deployment of the template without parameters, tags and a revision
to compare with, which finds a stack whose creation did not fail and that body in it, reports that
it skips, and looks at the stack and asks for its template only. The numbers of the template are
assumed to read back by themselves. -/
theorem submitted_document_is_skipped (document body : String) (t : Template)
    (read : Template.ofText document = .ok t) (readsBack : ∀ n ∈ t.toValue.numbers, n.ReadsBack)
    (policy again : WaitPolicy) (script later : Script) (cancelled cancelledAgain : Bool)
    (stack : String) (options repeated : DeployOptions) (seen : Stack)
    (unset : repeated.previous = none) (parameters : repeated.parameters = [])
    (tags : repeated.tags = []) (looked : later.firstLook = .ok (some seen))
    (created : seen.status ≠ .rollbackComplete) (kept : seen.status ≠ .rollbackFailed)
    (fetched : later.firstTemplate = .ok (some body)) :
    let first := (Rehearsal.deployer policy).deploy stack t options (.start script cancelled)
    let second := (Rehearsal.deployer again).deploy stack t repeated (.start later cancelledAgain)
    (∃ request, (.create request ∈ first.2.calls ∨ .update request ∈ first.2.calls) ∧
      request.templateBody = body) →
      second.1 = .ok ⟨.unchanged, .skip, t.diff t, some seen⟩ ∧
        second.2.calls = [.describe stack, .getTemplate stack] := by
  rintro first second ⟨request, submitted, rfl⟩
  obtain ⟨body, valid⟩ := (deploy_run policy script cancelled stack t options).body_of_submission
    submitted
  have based : later.baseline repeated = t :=
    Script.baseline_of_body unset looked fetched (body ▸ Template.read_again_of_read read readsBack)
  have idle : ¬ repeated.Asks (later.baseline repeated) t := by
    rw [based]
    exact DeployOptions.not_asks_of_saysSame (.refl (Template.distinct_of_ofText read)) parameters
      tags
  have usable : seen.status ∉ failedCreationStatuses := by
    simp [failedCreationStatuses, created, kept]
  obtain ⟨reported, calls⟩ :=
    (deploy_run again later cancelledAgain stack t repeated).unchanged_of_idle
      (.of_usable valid looked usable fun _ => ⟨_, fetched⟩) idle
  rw [based] at reported
  refine ⟨reported, calls.trans ?_⟩
  unfold openingCalls
  rw [unset]

/-- A document with a bucket. -/
def bucketDocument : Value :=
  .object [("Resources", .object [("Bucket", .object
    [("Type", .string "AWS::S3::Bucket"),
      ("Properties", .object [("BucketName", .string "logs")])])])]

/-- A bucket that was just created is not deployed again. -/
theorem created_bucket_is_skipped :
    let t := bucketNamed "logs"
    let seen : Stack := ⟨"prod", none, .createComplete, none, []⟩
    let script : Script := { Script.empty with describes := [.ok none, .ok (some seen)] }
    let later : Script := { Script.empty with
      describes := [.ok (some seen)], templates := [.ok (some t.text)] }
    let first := (Rehearsal.deployer .default).deploy "prod" t .none (.start script false)
    let second := (Rehearsal.deployer .default).deploy "prod" t .none (.start later false)
    Template.ofText bucketDocument.pretty = .ok t ∧
      first.1 = .ok (.of .created .empty t (some seen)) ∧
      (∃ request, (.create request ∈ first.2.calls ∨ .update request ∈ first.2.calls) ∧
        request.templateBody = t.text) ∧
      second.1 = .ok ⟨.unchanged, .skip, t.diff t, some seen⟩ ∧
      second.2.calls = [.describe "prod", .getTemplate "prod"] := by
  intro t seen script later
  have numberless : ∀ n ∈ ([] : List Json.Number), n.ReadsBack := List.forall_mem_nil _
  have read : Template.ofText bucketDocument.pretty = .ok t := by
    rw [Template.ofText, Json.Document.ofText_pretty (v := bucketDocument) numberless]
    rfl
  have calls : ((Rehearsal.deployer .default).deploy "prod" t .none
      (.start script false)).2.calls =
        [.describe "prod", .create (.ofTemplate "prod" t [] []), .describe "prod"] := rfl
  have submitted : ∃ request, (.create request ∈ ((Rehearsal.deployer .default).deploy "prod" t
        .none (.start script false)).2.calls ∨
      .update request ∈ ((Rehearsal.deployer .default).deploy "prod" t .none
        (.start script false)).2.calls) ∧ request.templateBody = t.text := by
    rw [calls]
    exact ⟨.ofTemplate "prod" t [] [], Or.inl (List.mem_cons_of_mem _ List.mem_cons_self), rfl⟩
  exact ⟨read, rfl, submitted, submitted_document_is_skipped bucketDocument.pretty t.text t read
    numberless .default .default script later false false "prod" .none .none seen rfl rfl rfl rfl
    (by decide) (by decide) rfl submitted⟩

end StackDeploy
