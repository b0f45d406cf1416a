/-
# The truth of reports

A deployment ends with a report in four ways, with values that it came by at different times: the
snapshot of the first look, the baseline, and the snapshot at the end of a wait. What the report
says holds of the calls that were made and of their answers. In particular a creation and an update
are reported only with the snapshot that shows their success, so a wait that ends with the absence
of its stack leaves no report.
-/

import StackDeploy.Proofs.Deployment.Protocol
import StackDeploy.Proofs.Deployment.Submission

namespace StackDeploy

/-- The answer to the last look among some calls. -/
def Script.lastLook (s : Script) (calls : List PlaneCall) : LookAnswer :=
  s.lookAt (calls.countP PlaneCall.isLook - 1)

/-- A stack was created: its creation was accepted, and the last look shows it complete. -/
structure Created (script : Script) (calls : List PlaneCall) (seen : Stack) : Prop where
  accepted : ∃ request, .create request ∈ calls ∧ script.Accepts (.create request)
  last : script.lastLook calls = .ok (some seen)
  complete : seen.status = .createComplete

/-- A stack was updated: its update was started, and the last look shows it complete. -/
structure Updated (script : Script) (calls : List PlaneCall) (seen : Stack) : Prop where
  accepted : ∃ request, .update request ∈ calls ∧ script.Accepts (.update request)
  last : script.lastLook calls = .ok (some seen)
  complete : seen.status = .updateComplete

/-- A stack was left as it is: nothing was created, an update found nothing to change, and the only
look shows the stack. -/
structure Unchanged (script : Script) (calls : List PlaneCall) (seen : Stack) : Prop where
  uncreated : ∀ request, .create request ∉ calls
  nothing : ∀ request, .update request ∈ calls → script.firstUpdate = .ok .noChanges
  once : calls.countP PlaneCall.isLook = 1
  first : script.firstLook = .ok (some seen)

/-- What an action says of the calls of its deployment, their answers, and the reported stack. -/
def DeployAction.Holds : DeployAction → Script → List PlaneCall → Stack → Prop
  | created => Created
  | updated => Updated
  | unchanged => Unchanged

/-- A report on a deployment tells the truth. It has a stack, and its action holds of that stack;
its diff leads from the baseline to the proposed template, and its strategy is that of the diff. -/
structure DeployReport.IsTrue (report : DeployReport) (script : Script) (proposed : Template)
    (options : DeployOptions) (calls : List PlaneCall) : Prop where
  action : ∃ seen, report.stack = some seen ∧ report.action.Holds script calls seen
  diff : report.diff = (script.baseline options).diff proposed
  strategy : report.strategy = report.diff.strategy

section

variable {policy : WaitPolicy} {script : Script} {stack : String} {proposed : Template}
  {options : DeployOptions} {calls : List PlaneCall}

theorem countP_isLook_openingCalls (stack : String) (existing : Option Stack)
    (options : DeployOptions) :
    (openingCalls stack existing options).countP PlaneCall.isLook = 1 := by
  obtain ⟨fetches, fetched, opening⟩ := exists_openingCalls stack existing options
  rw [opening]
  rcases fetched with rfl | rfl <;> rfl

/-- The last of the looks that follow a submission has their number. -/
theorem Script.lastLook_of_submission (script : Script) {existing : Option Stack}
    {submission : PlaneCall} {looks : Nat} (submits : submission.isLook = false) :
    script.lastLook (openingCalls stack existing options ++ submission ::
      List.replicate looks (.describe stack)) = script.lookAt looks := by
  rw [lastLook, List.countP_append, countP_isLook_openingCalls,
    List.countP_cons_of_neg (Bool.eq_false_iff.1 submits), List.countP_replicate,
    if_pos (PlaneCall.isLook_describe stack), Nat.add_sub_cancel_left]

/-- Nothing is kept of a stack that is not there. -/
theorem DeployOptions.exists_of_plan_eq_keep {stackExists : Bool} {baseline : Template}
    (planned : options.plan stack stackExists baseline proposed = .ok .keep) :
    stackExists = true := by
  cases stackExists with
  | true => rfl
  | false =>
      rw [plan, Bool.false_and, if_neg Bool.false_ne_true] at planned
      split at planned <;> cases planned

/-- A report on a stack is true if its action holds. -/
theorem DeployReport.IsTrue.of_holds {action : DeployAction} {seen : Stack}
    (holds : action.Holds script calls seen) :
    (DeployReport.of action (script.baseline options) proposed (some seen)).IsTrue script proposed
      options calls :=
  ⟨⟨seen, rfl, holds⟩, rfl, rfl⟩

/-- The opening calls alone change nothing, whether or not an update finds nothing to change. -/
theorem ReachesPlan.unchanged {seen : Stack} {submissions : List PlaneCall}
    (reached : ReachesPlan script proposed options (some seen))
    (nothing : submissions = [] ∨
      ∃ request, submissions = [.update request] ∧ script.firstUpdate = .ok .noChanges) :
    Unchanged script (openingCalls stack (some seen) options ++ submissions) seen where
  uncreated request created := by
    rcases List.mem_append.1 created with opening | submission
    · exact DeployRun.not_submission_of_mem_opening opening trivial
    · rcases nothing with rfl | ⟨_, rfl, -⟩
      · cases submission
      · cases List.mem_singleton.1 submission
  nothing request updated := by
    rcases List.mem_append.1 updated with opening | submission
    · exact absurd trivial (DeployRun.not_submission_of_mem_opening opening)
    · rcases nothing with rfl | ⟨_, -, answered⟩
      · cases submission
      · exact answered
  once := by
    rw [List.countP_append, countP_isLook_openingCalls]
    rcases nothing with rfl | ⟨_, rfl, -⟩ <;> rfl
  first := reached.seen

/-- In every way in which a deployment ends with a report, the report is true. -/
theorem DeployRun.isTrue {report : DeployReport}
    (run : DeployRun policy script stack proposed options (.ok report) calls) :
    report.IsTrue script proposed options calls := by
  cases run with
  | @kept existing reached planned =>
      obtain ⟨seen, rfl⟩ := Option.isSome_iff_exists.1
        (DeployOptions.exists_of_plan_eq_keep planned)
      have unchanged : Unchanged script (openingCalls stack (some seen) options ++ []) seen :=
        reached.unchanged (Or.inl rfl)
      rw [List.append_nil] at unchanged
      exact .of_holds unchanged
  | notChanged reached planned answered =>
      exact .of_holds (reached.unchanged (Or.inr ⟨_, rfl, answered⟩))
  | updated reached planned started allowed settled =>
      cases settled with
      | succeeded positive answer success =>
          exact .of_holds
            ⟨⟨_, List.mem_append_right _ List.mem_cons_self, .update started⟩,
              (script.lastLook_of_submission rfl).trans answer, success⟩
  | created reached planned started allowed settled =>
      cases settled with
      | succeeded positive answer success =>
          exact .of_holds
            ⟨⟨_, List.mem_append_right _ List.mem_cons_self, .create started⟩,
              (script.lastLook_of_submission rfl).trans answer, success⟩

end

/-- Whatever the script answers and whenever it cancels the wait, a deployment that ends with a
report tells the truth. -/
theorem reports_are_true (policy : WaitPolicy) (script : Script) (cancelled : Bool)
    (stack : String) (proposed : Template) (options : DeployOptions) (report : DeployReport) :
    let run := (Rehearsal.deployer policy).deploy stack proposed options
      (Rehearsal.start script cancelled)
    run.1 = .ok report → report.IsTrue script proposed options run.2.calls := by
  intro run reported
  have way := deploy_run policy script cancelled stack proposed options
  exact (reported ▸ way : DeployRun policy script stack proposed options (.ok report) _).isTrue

/-- A bucket that is not seen at first is reported as created with the snapshot that shows it. -/
theorem new_bucket_is_reported :
    let seen : Stack := ⟨"prod", none, .createComplete, none, []⟩
    let script : Script := { Script.empty with describes := [.ok none, .ok none, .ok (some seen)] }
    let run := (Rehearsal.deployer .default).deploy "prod" (bucketNamed "logs") .none
      (Rehearsal.start script false)
    let report := DeployReport.of .created .empty (bucketNamed "logs") (some seen)
    run.1 = .ok report ∧ report.IsTrue script (bucketNamed "logs") .none run.2.calls := by
  intro seen script run report
  have reported : run.1 = .ok report := rfl
  exact ⟨reported, reports_are_true .default script false "prod" (bucketNamed "logs") .none report
    reported⟩

end StackDeploy
