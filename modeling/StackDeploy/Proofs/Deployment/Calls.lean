/-
# The calls of a deployment

A rehearsal records every call, so the calls of a run can be read off its final state. This module
says once and completely how a deployment can go: a list of the ways in which it ends, each with
the answers of the script that lead there, the calls that were made and the result. What a wait
does is kept apart, as only two things about it matter to its deployment: it looks at its stack and
calls nothing else, until a look fails at the latest, and its failures are failures of the stack.
Later results about the calls of a deployment are read off the list and do not go back to the
program.
-/

import StackDeploy.Proofs.Waiting.Rehearsed

namespace StackDeploy

/-- A call that creates or updates a stack. -/
def PlaneCall.IsSubmission : PlaneCall → Prop
  | .create _ | .update _ => True
  | _ => False

namespace Script

/-- The answer to the first look. -/
def firstLook (s : Script) : Except StackError (Option Stack) :=
  (Rehearsal.next Rehearsal.noAnswer s.describes).1

theorem lookAt_zero (s : Script) : s.lookAt 0 = s.firstLook := by
  unfold lookAt firstLook
  cases s.describes <;> rfl

/-- So many looks can follow the first one in a wait: not more than it may make, and only the last
one is not answered with a snapshot or with the absence of the stack. -/
structure AllowsLooks (s : Script) (policy : WaitPolicy) (looks : Nat) : Prop where
  bound : looks ≤ policy.attempts
  answered : ∀ number, 0 < number → number < looks → ∃ observed, s.lookAt number = .ok observed

/-- The answer to the first question for a template. -/
def firstTemplate (s : Script) : Except StackError (Option String) :=
  (Rehearsal.next (.ok none) s.templates).1

/-- The answer to the first update. -/
def firstUpdate (s : Script) : Except StackError UpdateOutcome :=
  (Rehearsal.next (.ok .started) s.updates).1

/-- The answer to the creation of a stack, if it is the first one. -/
def firstCreate (s : Script) (request : StackRequest) : Except StackError String :=
  (Rehearsal.next (.ok ("scripted/" ++ request.stack)) s.creates).1

/-- The baseline of the first deployment by a script: the revision that is given; else, if the stack
is there, the deployed body, if there is one and it is a template; else the empty template. -/
def baseline (s : Script) (options : DeployOptions) : Template :=
  match options.previous, s.firstLook, s.firstTemplate with
  | some previous, _, _ => previous
  | none, .ok (some _), .ok body => (deployedTemplate body).getD .empty
  | none, _, _ => .empty

end Script

/-- The calls that find the baseline: a look, and the question for the template of a stack that is
there unless a revision to compare with is given. -/
def openingCalls (stack : String) (existing : Option Stack) (options : DeployOptions) :
    List PlaneCall :=
  match options.previous, existing with
  | none, some _ => [.describe stack, .getTemplate stack]
  | _, _ => [.describe stack]

/-- A deployment gets as far as its plan: the template is valid, the first look succeeds and shows
no failed creation, and the template of an existing stack is there or not asked for. -/
structure ReachesPlan (script : Script) (proposed : Template) (options : DeployOptions)
    (existing : Option Stack) : Prop where
  valid : proposed.validateReferences = .ok ()
  seen : script.firstLook = .ok existing
  usable : failedCreation? existing = none
  fetched : options.previous = none → ∀ stack, existing = some stack →
    ∃ body, script.firstTemplate = .ok body

/-- What a wait for a creation or an update leaves of a report: a failure of the stack, or the
report with the answer to its last look, which shows the success of the operation. -/
inductive Settled (script : Script) (kind : OperationKind) (looks : Nat)
    (report : Option Stack → DeployReport) : Except DeployError DeployReport → Prop
  | failed {cause : StackError} : Settled script kind looks report (.error (.stack cause))
  | succeeded {seen : Stack} : 0 < looks → script.lookAt looks = .ok (some seen) →
      seen.status = kind.successStatus → Settled script kind looks report (.ok (report (some seen)))

/-- The ways in which a deployment can go, with its result and its calls. -/
inductive DeployRun (policy : WaitPolicy) (script : Script) (stack : String) (proposed : Template)
    (options : DeployOptions) : Except DeployError DeployReport → List PlaneCall → Prop
  /-- The template is refused before anything is called. -/
  | invalid {cause : TemplateError} : proposed.validateReferences = .error cause →
      DeployRun policy script stack proposed options (.error (.template cause)) []
  /-- The first look fails. -/
  | unseen {cause : StackError} : proposed.validateReferences = .ok () →
      script.firstLook = .error cause →
      DeployRun policy script stack proposed options (.error (.stack cause)) [.describe stack]
  /-- The stack was never created completely. -/
  | unusable {existing : Option Stack} {status : StackStatus} :
      proposed.validateReferences = .ok () → script.firstLook = .ok existing →
      failedCreation? existing = some status →
      DeployRun policy script stack proposed options (.error (.failedCreation stack status))
        [.describe stack]
  /-- The deployed template cannot be fetched. -/
  | unfetched {seen : Stack} {cause : StackError} : proposed.validateReferences = .ok () →
      script.firstLook = .ok (some seen) → failedCreation? (some seen) = none →
      options.previous = none → script.firstTemplate = .error cause →
      DeployRun policy script stack proposed options (.error (.stack cause))
        [.describe stack, .getTemplate stack]
  /-- The change is refused. -/
  | refused {existing : Option Stack} {cause : DeployError} :
      ReachesPlan script proposed options existing →
      options.plan stack existing.isSome (script.baseline options) proposed = .error cause →
      DeployRun policy script stack proposed options (.error cause)
        (openingCalls stack existing options)
  /-- There is nothing to do. -/
  | kept {existing : Option Stack} : ReachesPlan script proposed options existing →
      options.plan stack existing.isSome (script.baseline options) proposed = .ok .keep →
      DeployRun policy script stack proposed options
        (.ok (.of .unchanged (script.baseline options) proposed existing))
        (openingCalls stack existing options)
  /-- The update is not accepted. -/
  | notUpdated {seen : Stack} {request : StackRequest} {cause : StackError} :
      ReachesPlan script proposed options (some seen) →
      options.plan stack true (script.baseline options) proposed = .ok (.submit request) →
      script.firstUpdate = .error cause →
      DeployRun policy script stack proposed options (.error (.stack cause))
        (openingCalls stack (some seen) options ++ [.update request])
  /-- The provider finds nothing to update. -/
  | notChanged {seen : Stack} {request : StackRequest} :
      ReachesPlan script proposed options (some seen) →
      options.plan stack true (script.baseline options) proposed = .ok (.submit request) →
      script.firstUpdate = .ok .noChanges →
      DeployRun policy script stack proposed options
        (.ok (.of .unchanged (script.baseline options) proposed (some seen)))
        (openingCalls stack (some seen) options ++ [.update request])
  /-- The update is started and waited for. -/
  | updated {seen : Stack} {request : StackRequest} {looks : Nat}
      {result : Except DeployError DeployReport} :
      ReachesPlan script proposed options (some seen) →
      options.plan stack true (script.baseline options) proposed = .ok (.submit request) →
      script.firstUpdate = .ok .started → script.AllowsLooks policy looks →
      Settled script .update looks (.of .updated (script.baseline options) proposed) result →
      DeployRun policy script stack proposed options result
        (openingCalls stack (some seen) options ++ .update request ::
          List.replicate looks (.describe stack))
  /-- The creation is not accepted. -/
  | notCreated {request : StackRequest} {cause : StackError} :
      ReachesPlan script proposed options none →
      options.plan stack false (script.baseline options) proposed = .ok (.submit request) →
      script.firstCreate request = .error cause →
      DeployRun policy script stack proposed options (.error (.stack cause))
        (openingCalls stack none options ++ [.create request])
  /-- The creation is started and waited for. -/
  | created {request : StackRequest} {stackId : String} {looks : Nat}
      {result : Except DeployError DeployReport} :
      ReachesPlan script proposed options none →
      options.plan stack false (script.baseline options) proposed = .ok (.submit request) →
      script.firstCreate request = .ok stackId → script.AllowsLooks policy looks →
      Settled script .create looks (.of .created (script.baseline options) proposed) result →
      DeployRun policy script stack proposed options result
        (openingCalls stack none options ++ .create request ::
          List.replicate looks (.describe stack))

section

variable {policy : WaitPolicy} {script : Script} {stack : String} {proposed : Template}
  {options : DeployOptions}

/-- Waiting for an operation after the first look only looks at its stack and settles the report. -/
theorem settle_run (policy : WaitPolicy) (stack : String) (kind : OperationKind)
    (kept : kind ≠ .delete) (report : Option Stack → DeployReport) {r : Rehearsal}
    (describes : r.script.describes = script.describes.tail) :
    ∃ looks, script.AllowsLooks policy looks ∧
      ((Rehearsal.deployer policy).settle stack kind report r).2.calls =
        r.calls ++ List.replicate looks (.describe stack) ∧
      Settled script kind looks report
        ((Rehearsal.deployer policy).settle stack kind report r).1 := by
  have later (number : Nat) : r.script.lookAt number = script.lookAt (number + 1) := by
    rw [Script.lookAt, Script.lookAt, describes, List.getElem?_tail]
  obtain ⟨h, plays, run⟩ := r.waitFor_run policy stack kind
  obtain ⟨looks, bound, calls, answered, ended⟩ := run.calls_eq_replicate
  refine ⟨looks, ⟨bound, fun number positive less => ?_⟩, ?_⟩
  · obtain ⟨i, rfl⟩ := Nat.exists_eq_succ_of_ne_zero (Nat.ne_of_gt positive)
    exact later i ▸ answered i less
  · have waited : ((Rehearsal.deployer policy).watch.waitFor (Rehearsal.deployer policy).policy
        stack kind r).2.calls = r.calls ++ List.replicate looks (.describe stack) :=
      calls ▸ plays.calls
    change ∀ outcome, ((Rehearsal.deployer policy).watch.waitFor (Rehearsal.deployer policy).policy
      stack kind r).1 = .ok outcome → _ at ended
    rw [Deployer.settle, stateM_bind]
    generalize (Rehearsal.deployer policy).watch.waitFor _ stack kind r = run at waited ended ⊢
    obtain ⟨cause | outcome, after⟩ := run
    · exact ⟨waited, .failed⟩
    · obtain ⟨last, rfl, judged⟩ := ended outcome rfl
      rw [later] at judged
      obtain ⟨seen, answer, success, rfl⟩ := exists_reached_of_verdict kept judged
      exact ⟨waited, .succeeded last.succ_pos answer success⟩

/-- The state of a rehearsal in which the baseline of its deployment is found: the calls that find
it were made, and the answers to later looks, to updates and to creations are still to come. -/
structure Opened (script : Script) (stack : String) (existing : Option Stack)
    (options : DeployOptions) (r : Rehearsal) : Prop where
  calls : r.calls = openingCalls stack existing options
  describes : r.script.describes = script.describes.tail
  updates : r.script.updates = script.updates
  creates : r.script.creates = script.creates

/-- Carrying out a request over an existing stack goes in one of the ways of the list. -/
private theorem change_run {seen : Stack} {request : StackRequest} {r : Rehearsal}
    (reached : ReachesPlan script proposed options (some seen))
    (planned : options.plan stack true (script.baseline options) proposed = .ok (.submit request))
    (opened : Opened script stack (some seen) options r) :
    let run := (Rehearsal.deployer policy).change stack seen (.submit request)
      (fun action snapshot => .of action (script.baseline options) proposed snapshot) r
    DeployRun policy script stack proposed options run.1 run.2.calls := by
  have answer : ((Rehearsal.deployer policy).plane.update request r).1 = script.firstUpdate := by
    rw [Script.firstUpdate, ← opened.updates]
    rfl
  have called : ((Rehearsal.deployer policy).plane.update request r).2.calls =
      openingCalls stack (some seen) options ++ [.update request] := by
    rw [← opened.calls]
    rfl
  have describes : ((Rehearsal.deployer policy).plane.update request r).2.script.describes =
      script.describes.tail := opened.describes
  dsimp only [Deployer.change]
  rw [stateM_bind]
  generalize (Rehearsal.deployer policy).plane.update request r = run at answer called describes ⊢
  obtain ⟨cause | _ | _, after⟩ := run
  · exact called ▸ .notUpdated reached planned answer.symm
  · obtain ⟨looks, allowed, looked, settled⟩ := settle_run policy stack .update
      nofun (.of .updated (script.baseline options) proposed) describes
    have all_calls : ((Rehearsal.deployer policy).settle stack .update
        (.of .updated (script.baseline options) proposed) after).2.calls =
          openingCalls stack (some seen) options ++ .update request ::
            List.replicate looks (.describe stack) := by
      rw [looked, called, List.append_assoc]
      rfl
    exact all_calls ▸ .updated reached planned answer.symm allowed settled
  · exact called ▸ .notChanged reached planned answer.symm

/-- Carrying out a request for a new stack goes in one of the ways of the list. -/
private theorem bring_run {request : StackRequest} {r : Rehearsal}
    (reached : ReachesPlan script proposed options none)
    (planned : options.plan stack false (script.baseline options) proposed = .ok (.submit request))
    (opened : Opened script stack none options r) :
    let run := (Rehearsal.deployer policy).bring stack (.submit request)
      (fun action snapshot => .of action (script.baseline options) proposed snapshot) r
    DeployRun policy script stack proposed options run.1 run.2.calls := by
  have answer : ((Rehearsal.deployer policy).plane.create request r).1 =
      script.firstCreate request := by
    rw [Script.firstCreate, ← opened.creates]
    rfl
  have called : ((Rehearsal.deployer policy).plane.create request r).2.calls =
      openingCalls stack none options ++ [.create request] := by
    rw [← opened.calls]
    rfl
  have describes : ((Rehearsal.deployer policy).plane.create request r).2.script.describes =
      script.describes.tail := opened.describes
  dsimp only [Deployer.bring]
  rw [stateM_bind]
  generalize (Rehearsal.deployer policy).plane.create request r = run at answer called describes ⊢
  obtain ⟨cause | stackId, after⟩ := run
  · exact called ▸ .notCreated reached planned answer.symm
  · obtain ⟨looks, allowed, looked, settled⟩ := settle_run policy stack .create
      nofun (.of .created (script.baseline options) proposed) describes
    have all_calls : ((Rehearsal.deployer policy).settle stack .create
        (.of .created (script.baseline options) proposed) after).2.calls =
          openingCalls stack none options ++ .create request ::
            List.replicate looks (.describe stack) := by
      rw [looked, called, List.append_assoc]
      rfl
    exact all_calls ▸ .created reached planned answer.symm allowed settled

/-- From the plan on, a deployment goes in one of the ways of the list. -/
private theorem deployOver_run {existing : Option Stack} {r : Rehearsal}
    (reached : ReachesPlan script proposed options existing)
    (opened : Opened script stack existing options r) :
    let run := (Rehearsal.deployer policy).deployOver stack existing (script.baseline options)
      proposed options r
    DeployRun policy script stack proposed options run.1 run.2.calls := by
  dsimp only [Deployer.deployOver]
  cases planned : options.plan stack existing.isSome (script.baseline options) proposed with
  | error cause => exact opened.calls ▸ .refused reached planned
  | ok plan =>
      cases existing with
      | none =>
          cases plan with
          | keep => exact opened.calls ▸ .kept reached planned
          | submit request => exact bring_run reached planned opened
      | some seen =>
          cases plan with
          | keep => exact opened.calls ▸ .kept reached planned
          | submit request => exact change_run reached planned opened

/-- The baseline is found: it is the one that the answers determine. -/
structure Based (script : Script) (stack : String) (proposed : Template) (options : DeployOptions)
    (existing : Option Stack) (run : Except StackError Template × Rehearsal) : Prop where
  found : run.1 = .ok (script.baseline options)
  reached : ReachesPlan script proposed options existing
  opened : Opened script stack existing options run.2

/-- The template of an existing stack is the baseline, unless it cannot be fetched. -/
private theorem fetch_run (policy : WaitPolicy) {seen : Stack} {r : Rehearsal}
    (valid : proposed.validateReferences = .ok ()) (looked : script.firstLook = .ok (some seen))
    (usable : failedCreation? (some seen) = none) (missing : options.previous = none)
    (calls : r.calls = [.describe stack])
    (rest : r.script = { script with describes := script.describes.tail }) :
    let run := (Rehearsal.deployer policy).baseline stack (some seen) options r
    (∃ cause, run.1 = .error cause ∧ DeployRun policy script stack proposed options
      (.error (.stack cause)) run.2.calls) ∨
    Based script stack proposed options (some seen) run := by
  have answer : ((Rehearsal.deployer policy).plane.getTemplate stack r).1 =
      script.firstTemplate := by
    rw [Script.firstTemplate, show script.templates = r.script.templates by rw [rest]]
    rfl
  have called : ((Rehearsal.deployer policy).plane.getTemplate stack r).2.calls =
      [.describe stack, .getTemplate stack] := by
    show r.calls ++ [PlaneCall.getTemplate stack] = _
    rw [calls]
    rfl
  have later : ((Rehearsal.deployer policy).plane.getTemplate stack r).2.script =
      { r.script with templates := r.script.templates.tail } := by
    rw [← Rehearsal.next_snd (.ok none)]
    rfl
  rw [rest] at later
  dsimp only [Deployer.baseline]
  rw [missing]
  dsimp only
  rw [stateM_bind]
  generalize (Rehearsal.deployer policy).plane.getTemplate stack r = run at answer called later ⊢
  obtain ⟨cause | body, after⟩ := run
  · exact Or.inl ⟨cause, rfl, called ▸ .unfetched valid looked usable missing answer.symm⟩
  · refine Or.inr ⟨?_, ⟨valid, looked, usable, ?_⟩, ?_, ?_, ?_, ?_⟩
    · rw [Script.baseline, missing, looked, ← answer]
      rfl
    · intro _ _ _
      exact ⟨body, answer.symm⟩
    · unfold openingCalls
      rw [missing]
      exact called
    · exact (congrArg Script.describes later).trans rfl
    · exact (congrArg Script.updates later).trans rfl
    · exact (congrArg Script.creates later).trans rfl

/-- The baseline is the one that the answers determine, unless its template cannot be fetched. -/
private theorem baseline_run (policy : WaitPolicy) (options : DeployOptions)
    {existing : Option Stack} {r : Rehearsal}
    (valid : proposed.validateReferences = .ok ()) (looked : script.firstLook = .ok existing)
    (usable : failedCreation? existing = none) (calls : r.calls = [.describe stack])
    (rest : r.script = { script with describes := script.describes.tail }) :
    let run := (Rehearsal.deployer policy).baseline stack existing options r
    (∃ cause, run.1 = .error cause ∧ DeployRun policy script stack proposed options
      (.error (.stack cause)) run.2.calls) ∨
    Based script stack proposed options existing run := by
  have opened (unfetched : openingCalls stack existing options = [.describe stack]) :
      Opened script stack existing options r :=
    ⟨calls.trans unfetched.symm, by rw [rest], by rw [rest], by rw [rest]⟩
  cases given : options.previous with
  | some previous =>
      have known : (Rehearsal.deployer policy).baseline stack existing options r =
          (.ok previous, r) := by
        dsimp only [Deployer.baseline]
        rw [given]
        rfl
      rw [known]
      refine Or.inr ⟨?_, ⟨valid, looked, usable, ?_⟩, opened ?_⟩
      · rw [Script.baseline, given]
      · intro missing
        rw [given] at missing
        cases missing
      · unfold openingCalls
        rw [given]
  | none =>
      cases existing with
      | some seen => exact fetch_run policy valid looked usable given calls rest
      | none =>
          have known : (Rehearsal.deployer policy).baseline stack none options r =
              (.ok .empty, r) := by
            dsimp only [Deployer.baseline]
            rw [given]
            rfl
          rw [known]
          refine Or.inr ⟨?_, ⟨valid, looked, usable, ?_⟩, opened ?_⟩
          · rw [Script.baseline, given, looked]
          · intro _ stack there
            cases there
          · unfold openingCalls
            rw [given]

/-- Every deployment goes in one of the ways of the list. -/
theorem deploy_run (policy : WaitPolicy) (script : Script) (cancelled : Bool) (stack : String)
    (proposed : Template) (options : DeployOptions) :
    let run := (Rehearsal.deployer policy).deploy stack proposed options
      (Rehearsal.start script cancelled)
    DeployRun policy script stack proposed options run.1 run.2.calls := by
  dsimp only [Deployer.deploy]
  cases valid : proposed.validateReferences with
  | error cause => exact .invalid valid
  | ok =>
      dsimp only
      rw [stateM_bind]
      have answer : ((Rehearsal.deployer policy).plane.describe stack
          (Rehearsal.start script cancelled)).1 = script.firstLook := rfl
      have called : ((Rehearsal.deployer policy).plane.describe stack
          (Rehearsal.start script cancelled)).2.calls = [.describe stack] := rfl
      have rest : ((Rehearsal.deployer policy).plane.describe stack
          (Rehearsal.start script cancelled)).2.script =
            { script with describes := script.describes.tail } :=
        congrArg (fun describes => { script with describes }) (Rehearsal.next_snd _ _)
      generalize (Rehearsal.deployer policy).plane.describe stack
        (Rehearsal.start script cancelled) = run at answer called rest ⊢
      obtain ⟨cause | existing, after⟩ := run
      · exact called ▸ .unseen valid answer.symm
      · dsimp only
        cases usable : failedCreation? existing with
        | some status => exact called ▸ .unusable valid answer.symm usable
        | none =>
            dsimp only
            rw [stateM_bind]
            have based := baseline_run policy options valid answer.symm usable called rest
            dsimp only at based
            generalize (Rehearsal.deployer policy).baseline stack existing options after = run
              at based ⊢
            obtain ⟨outcome, later⟩ := run
            rcases based with ⟨cause, rfl, unfetched⟩ | ⟨found, reached, opened⟩
            · exact unfetched
            · cases found
              exact deployOver_run reached opened

end

end StackDeploy
