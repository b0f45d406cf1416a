/-
# The protocol of a destruction

Absence means two things here. Before the deletion it means that there is nothing to do, and the
first look settles that; after it, absence is the success that is waited for, just as the status of
a deletion that is complete. So the result tells the two apart: it is `false` only if nothing was
deleted.

The ways in which a destruction can go are listed once, with what the wait leaves behind. Which
answer ends the wait well is a property of waits in general; the clauses of the protocol are then
read off the list.
-/

import StackDeploy.Proofs.Deployment.Protocol

namespace StackDeploy

/-! ## Answers to the looks of a deletion -/

/-- The stack is still there, and its status is neither that of success nor one of failure. -/
def IsPending (answer : LookAnswer) : Prop :=
  ∃ seen, answer = .ok (some seen) ∧ seen.status ≠ .deleteComplete ∧ seen.status.isFailure = false

/-- The stack is gone, or its deletion is complete. -/
def ShowsDeletion (answer : LookAnswer) : Prop :=
  answer = .ok none ∨ ∃ seen, answer = .ok (some seen) ∧ seen.status = .deleteComplete

section

variable {stack : String} {answer : LookAnswer} {seen : Stack}

/-- A deletion that left something behind is reported with its reason. -/
theorem verdict_of_deleteFailed (remains : seen.status = .deleteFailed) :
    verdict stack .delete (.ok (some seen)) =
      some (.error (.deleteFailed stack seen.statusReason)) := by
  have failed : OperationKind.delete.isSuccess seen.status = false := by
    rw [remains]
    rfl
  rw [verdict, classify, if_neg (ne_true_of_eq_false failed), if_pos remains]

theorem verdict_delete_eq_none_iff : verdict stack .delete answer = none ↔ IsPending answer := by
  rcases answer with cause | _ | seen
  · simp [verdict, IsPending]
  · simp [verdict, classify, IsPending]
  · by_cases complete : seen.status = .deleteComplete
    · simp [verdict, classify, IsPending, OperationKind.isSuccess, OperationKind.successStatus,
        complete]
    · by_cases remains : seen.status = .deleteFailed
      · have failure : StackStatus.deleteFailed.isFailure = true := by decide
        simp [verdict_of_deleteFailed remains, IsPending, remains, failure]
      · cases failure : seen.status.isFailure
        all_goals simp [verdict, classify, IsPending, OperationKind.isSuccess,
          OperationKind.isFailure, OperationKind.successStatus, complete, remains, failure]

theorem exists_verdict_delete_eq_ok_iff :
    (∃ outcome, verdict stack .delete answer = some (.ok outcome)) ↔ ShowsDeletion answer := by
  rcases answer with cause | _ | seen
  · simp [verdict, ShowsDeletion]
  · simp [verdict, classify, ShowsDeletion]
  · by_cases complete : seen.status = .deleteComplete
    · simp [verdict, classify, ShowsDeletion, OperationKind.isSuccess, OperationKind.successStatus,
        complete]
    · by_cases remains : seen.status = .deleteFailed
      · simp [verdict_of_deleteFailed remains, ShowsDeletion, remains]
      · cases failure : seen.status.isFailure
        all_goals simp [verdict, classify, ShowsDeletion, OperationKind.isSuccess,
          OperationKind.isFailure, OperationKind.successStatus, complete, remains, failure]

end

/-! ## Waits that an answer ends -/

namespace WaitRun

variable {c : Course} {policy : WaitPolicy} {stack : String} {kind : OperationKind}
  {cancelled : Bool} {result decision : Except StackError WaitOutcome} {h : WaitHistory}

/-- An answer with a verdict is the last one of its wait and settles it. -/
theorem ends_of_verdict (run : WaitRun c policy stack kind cancelled result h) {number : Nat}
    {answer : LookAnswer} (made : number < h.looks)
    (answered : (c.look number).answer? = some answer)
    (judged : verdict stack kind answer = some decision) :
    result = decision ∧ h.looks = number + 1 := by
  have last {stop : Nat} (stops : c.Stops policy stack kind stop) (within : number < stop + 1) :
      number = stop := by
    rcases Nat.lt_or_eq_of_le (Nat.le_of_lt_succ within) with before | same
    · cases judged.symm.trans ((stops.passed number before).verdict_eq_none answered)
    · exact same
  cases run with
  | unstarted => simp at made
  | abandoned stops look =>
      cases last stops (by simpa using made)
      rw [look] at answered
      cases answered
  | decided stops answered' judged' =>
      cases last stops (by simpa using made)
      cases answered.symm.trans answered'
      exact ⟨Option.some.inj (judged'.symm.trans judged), by simp⟩
  | exhausted stops answered' undecided =>
      cases last stops (by simpa using made)
      cases answered.symm.trans answered'
      cases judged.symm.trans undecided
  | paused stops answered' undecided =>
      cases last stops (by simpa using made)
      cases answered.symm.trans answered'
      cases judged.symm.trans undecided

/-- A wait ends well exactly if it passes some rounds and the next answer says so. -/
theorem eq_ok_iff (run : WaitRun c policy stack kind cancelled result h) {outcome : WaitOutcome} :
    result = .ok outcome ↔ cancelled = false ∧ ∃ number < policy.attempts,
      (∀ i < number, c.Passes stack kind i) ∧ ∃ answer, (c.look number).answer? = some answer ∧
        verdict stack kind answer = some (.ok outcome) := by
  constructor
  · rintro rfl
    cases run with
    | decided stops answered judged =>
        exact ⟨rfl, _, stops.within, stops.passed, _, answered, judged⟩
  · rintro ⟨rfl, number, within, passed, answer, answered, judged⟩
    have stops : c.Stops policy stack kind number :=
      ⟨within, passed, fun passes => by cases judged.symm.trans (passes.verdict_eq_none answered)⟩
    exact (run.eq_of_verdict stops answered judged).1

end WaitRun

/-! ## What a script says about a deletion -/

namespace Script

/-- The answer to the first deletion. -/
def firstDelete (s : Script) : Except StackError Unit :=
  (Rehearsal.next (.ok ()) s.deletes).1

/-- The course of a wait that comes after the first look. -/
def laterCourse (s : Script) : Course where
  look number :=
    if s.stallAt = some (number + 2) then .abandoned else .answered (s.lookAt (number + 1))
  cancelsPause number := s.cancelAfter.any (· ≤ number + 1) || s.stallsPauses

/-- A wait after the first look gets the answer that comes after so many others: it is not cancelled
before. -/
structure Reaches (s : Script) (cancelled : Bool) (number : Nat) : Prop where
  started : cancelled = false
  looks : ∀ i ≤ number, s.stallAt ≠ some (i + 2)
  pauses : ∀ i < number, s.stallsPauses = false ∧ ∀ pause ∈ s.cancelAfter, i + 1 < pause

variable {s : Script} {stack : String} {kind : OperationKind} {number : Nat}

theorem answer?_laterCourse {answer : LookAnswer} :
    (s.laterCourse.look number).answer? = some answer ↔
      s.stallAt ≠ some (number + 2) ∧ s.lookAt (number + 1) = answer := by
  dsimp only [laterCourse]
  split <;> simp [LookCourse.answer?, *]

theorem passes_laterCourse_iff :
    s.laterCourse.Passes stack kind number ↔ s.stallAt ≠ some (number + 2) ∧
      (s.stallsPauses = false ∧ ∀ pause ∈ s.cancelAfter, number + 1 < pause) ∧
        verdict stack kind (s.lookAt (number + 1)) = none := by
  unfold Course.Passes
  dsimp only [laterCourse]
  by_cases stalls : s.stallAt = some (number + 2)
  · simp [stalls]
  · cases s.cancelAfter <;> simp [stalls, and_comm, and_assoc]

/-- A wait for a deletion that comes after the first look ends well exactly if it is not cancelled
before an answer within its budget that shows the deletion, after answers that say nothing. -/
theorem waits_well_iff {policy : WaitPolicy} {cancelled : Bool}
    {result : Except StackError WaitOutcome} {h : WaitHistory}
    (run : WaitRun s.laterCourse policy stack .delete cancelled result h) :
    (∃ outcome, result = .ok outcome) ↔ ∃ number < policy.attempts, s.Reaches cancelled number ∧
      (∀ i < number, IsPending (s.lookAt (i + 1))) ∧ ShowsDeletion (s.lookAt (number + 1)) := by
  constructor
  · rintro ⟨outcome, well⟩
    obtain ⟨started, number, within, passed, answer, answered, judged⟩ := run.eq_ok_iff.1 well
    obtain ⟨quiet, rfl⟩ := answer?_laterCourse.1 answered
    have rounds (i : Nat) (before : i < number) := passes_laterCourse_iff.1 (passed i before)
    refine ⟨number, within, ⟨started, fun i upto => ?_, fun i before => (rounds i before).2.1⟩,
      fun i before => verdict_delete_eq_none_iff.1 (rounds i before).2.2,
      exists_verdict_delete_eq_ok_iff.1 ⟨outcome, judged⟩⟩
    rcases Nat.lt_or_eq_of_le upto with before | rfl
    · exact (rounds i before).1
    · exact quiet
  · rintro ⟨number, within, reaches, pending, shown⟩
    obtain ⟨outcome, judged⟩ := exists_verdict_delete_eq_ok_iff.2 shown
    refine ⟨outcome, run.eq_ok_iff.2 ⟨reaches.started, number, within, fun i before => ?_, _,
      answer?_laterCourse.2 ⟨reaches.looks number (Nat.le_refl _), rfl⟩, judged⟩⟩
    exact passes_laterCourse_iff.2 ⟨reaches.looks i (Nat.le_of_lt before), reaches.pauses i before,
      verdict_delete_eq_none_iff.2 (pending i before)⟩

end Script

/-! ## The ways of a destruction -/

/-- What a destruction reports about its wait. -/
def destroyed : Except StackError WaitOutcome → Except DeployError Bool
  | .error cause => .error (.stack cause)
  | .ok _ => .ok true

/-- The ways in which a destruction can go, with its result and its calls. -/
inductive DestroyRun (policy : WaitPolicy) (script : Script) (cancelled : Bool) (stack : String)
    (retain : List String) : Except DeployError Bool → List PlaneCall → Prop
  /-- The first look fails. -/
  | unseen {cause : StackError} : script.firstLook = .error cause →
      DestroyRun policy script cancelled stack retain (.error (.stack cause)) [.describe stack]
  /-- There is no stack. -/
  | absent : script.firstLook = .ok none →
      DestroyRun policy script cancelled stack retain (.ok false) [.describe stack]
  /-- The deletion is not accepted. -/
  | refused {seen : Stack} {cause : StackError} : script.firstLook = .ok (some seen) →
      script.firstDelete = .error cause →
      DestroyRun policy script cancelled stack retain (.error (.stack cause))
        [.describe stack, .delete stack retain]
  /-- The deletion is accepted and waited for. -/
  | waited {seen : Stack} {result : Except StackError WaitOutcome} {h : WaitHistory} :
      script.firstLook = .ok (some seen) → script.firstDelete = .ok () →
      WaitRun script.laterCourse policy stack .delete cancelled result h →
      DestroyRun policy script cancelled stack retain (destroyed result)
        (.describe stack :: .delete stack retain :: h.calls)

namespace Rehearsal

variable (script : Script) (cancelled : Bool) (stack : String) (retain : List String)

/-- A rehearsal after its first look. -/
def looked : Rehearsal where
  script := { script with describes := script.describes.tail }
  calls := [.describe stack]
  pauses := []
  looks := 1
  cancelled := cancelled

/-- A rehearsal after its first look and a deletion. -/
def deleted : Rehearsal where
  script := { script with describes := script.describes.tail, deletes := script.deletes.tail }
  calls := [.describe stack, .delete stack retain]
  pauses := []
  looks := 1
  cancelled := cancelled

theorem describe_start :
    plane.describe stack (start script cancelled) =
      (script.firstLook, looked script cancelled stack) := by
  rw [looked, ← next_snd noAnswer]
  rfl

theorem delete_looked :
    plane.delete stack retain (looked script cancelled stack) =
      (script.firstDelete, deleted script cancelled stack retain) := by
  have rest : (next (.ok ()) script.deletes).2 = script.deletes.tail := next_snd _ _
  rw [deleted, ← rest]
  rfl

/-- What is left for the wait is the course after the first look. -/
theorem course_deleted :
    (deleted script cancelled stack retain).course = script.laterCourse := by
  unfold course Script.laterCourse
  simp [deleted, Script.lookAt, Nat.add_comm, Nat.add_left_comm]

end Rehearsal

/-- Every destruction goes in one of the ways of the list. -/
theorem destroy_run (policy : WaitPolicy) (script : Script) (cancelled : Bool) (stack : String)
    (retain : List String) :
    let run := (Rehearsal.deployer policy).destroy stack retain (Rehearsal.start script cancelled)
    DestroyRun policy script cancelled stack retain run.1 run.2.calls := by
  dsimp only [Deployer.destroy, Rehearsal.deployer]
  rw [stateM_bind, Rehearsal.describe_start]
  cases look : script.firstLook with
  | error cause => exact .unseen look
  | ok existing =>
      cases existing with
      | none => exact .absent look
      | some seen =>
          dsimp only
          rw [stateM_bind, Rehearsal.delete_looked]
          cases deletion : script.firstDelete with
          | error cause => exact .refused look deletion
          | ok =>
              obtain ⟨h, plays, run⟩ :=
                (Rehearsal.deleted script cancelled stack retain).waitFor_run policy stack .delete
              rw [Rehearsal.course_deleted] at run
              have calls := plays.calls
              dsimp only
              rw [stateM_bind]
              generalize Rehearsal.watch.waitFor policy stack .delete
                (Rehearsal.deleted script cancelled stack retain) = waiting at run calls ⊢
              obtain ⟨cause | outcome, after⟩ := waiting
              · exact calls ▸ .waited look deletion run
              · exact calls ▸ .waited look deletion run

/-- A destruction keeps to its protocol, as far as its result and its calls tell. -/
structure KeepsDestruction (policy : WaitPolicy) (script : Script) (cancelled : Bool)
    (stack : String) (retain : List String) (result : Except DeployError Bool)
    (calls : List PlaneCall) : Prop where
  /-- The calls are a look, at most one deletion, which names what is to be retained, and the looks
  of a wait within the budget after a deletion that was accepted. -/
  order : ∃ deletions looks,
    calls = .describe stack :: (deletions ++ List.replicate looks (.describe stack)) ∧
      (deletions = [] ∨ deletions = [.delete stack retain]) ∧ looks ≤ max 1 policy.maxAttempts ∧
        (0 < looks → deletions ≠ [] ∧ script.firstDelete = .ok ())
  /-- There is a deletion exactly if the first look shows a stack. -/
  deletes_iff : .delete stack retain ∈ calls ↔ ∃ seen, script.firstLook = .ok (some seen)
  /-- Nothing is found to delete exactly if the first look shows no stack. -/
  absent_iff : result = .ok false ↔ script.firstLook = .ok none
  absent_calls : result = .ok false → calls = [.describe stack]
  /-- The stack is reported as deleted exactly if there was one, its deletion was accepted, and the
  first answer that is not pending shows the deletion, within the budget and before a
  cancellation. -/
  deleted_iff : result = .ok true ↔ (∃ seen, script.firstLook = .ok (some seen)) ∧
    script.firstDelete = .ok () ∧ ∃ number < max 1 policy.maxAttempts,
      script.Reaches cancelled number ∧ (∀ i < number, IsPending (script.lookAt (i + 1))) ∧
        ShowsDeletion (script.lookAt (number + 1))
  /-- A first look that fails is the only call. -/
  failed_look : ∀ cause, script.firstLook = .error cause →
    result = .error (.stack cause) ∧ calls = [.describe stack]
  /-- Nothing follows a deletion that fails. -/
  failed_deletion : ∀ seen cause, script.firstLook = .ok (some seen) →
    script.firstDelete = .error cause →
      result = .error (.stack cause) ∧ calls = [.describe stack, .delete stack retain]
  /-- An answer after the first look that shows a failed deletion is the last one, and its reason is
  reported. -/
  remains : ∀ number seen, 0 < number → number < calls.countP PlaneCall.isLook →
    script.stallAt ≠ some (number + 1) → script.lookAt number = .ok (some seen) →
      seen.status = .deleteFailed →
        result = .error (.stack (.deleteFailed stack seen.statusReason)) ∧
          calls.countP PlaneCall.isLook = number + 1

namespace DestroyRun

variable {policy : WaitPolicy} {script : Script} {cancelled : Bool} {stack : String}
  {retain : List String} {result : Except DeployError Bool} {calls : List PlaneCall}

theorem order (run : DestroyRun policy script cancelled stack retain result calls) :
    ∃ deletions looks,
      calls = .describe stack :: (deletions ++ List.replicate looks (.describe stack)) ∧
        (deletions = [] ∨ deletions = [.delete stack retain]) ∧ looks ≤ policy.attempts ∧
          (0 < looks → deletions ≠ [] ∧ script.firstDelete = .ok ()) := by
  cases run with
  | unseen => exact ⟨[], 0, rfl, Or.inl rfl, Nat.zero_le _, nofun⟩
  | absent => exact ⟨[], 0, rfl, Or.inl rfl, Nat.zero_le _, nofun⟩
  | refused => exact ⟨[.delete stack retain], 0, rfl, Or.inr rfl, Nat.zero_le _, nofun⟩
  | @waited _ _ h look accepted wait =>
      obtain ⟨bound, replicate⟩ := wait.calls_eq_replicate_looks
      exact ⟨[.delete stack retain], h.looks, by rw [replicate]; rfl, Or.inr rfl, bound,
        fun _ => ⟨List.cons_ne_nil _ _, accepted⟩⟩

theorem deletes_iff (run : DestroyRun policy script cancelled stack retain result calls) :
    .delete stack retain ∈ calls ↔ ∃ seen, script.firstLook = .ok (some seen) := by
  cases run with
  | unseen look => simp [look]
  | absent look => simp [look]
  | refused look => simp [look]
  | waited look => simp [look]

theorem absent_iff (run : DestroyRun policy script cancelled stack retain result calls) :
    result = .ok false ↔ script.firstLook = .ok none := by
  cases run with
  | unseen look => simp [look]
  | absent look => simp [look]
  | refused look => simp [look]
  | @waited _ result _ look => cases result <;> simp [look, destroyed]

theorem deleted_iff (run : DestroyRun policy script cancelled stack retain result calls) :
    result = .ok true ↔ (∃ seen, script.firstLook = .ok (some seen)) ∧
      script.firstDelete = .ok () ∧ ∃ number < policy.attempts,
        script.Reaches cancelled number ∧ (∀ i < number, IsPending (script.lookAt (i + 1))) ∧
          ShowsDeletion (script.lookAt (number + 1)) := by
  cases run with
  | unseen look => simp [look]
  | absent look => simp [look]
  | refused look deletion => simp [deletion]
  | @waited seen waited _ look accepted wait =>
      have well : destroyed waited = .ok true ↔ ∃ outcome, waited = .ok outcome := by
        cases waited <;> simp [destroyed]
      rw [well, Script.waits_well_iff wait]
      simp [look, accepted]

theorem countP_isLook_waited {h : WaitHistory} {number : Nat}
    (replicate : h.calls = List.replicate number (.describe stack)) :
    (PlaneCall.describe stack :: .delete stack retain :: h.calls).countP PlaneCall.isLook =
      number + 1 := by
  rw [replicate]
  simp only [List.countP_cons, List.countP_replicate, PlaneCall.isLook]
  rfl

theorem remains (run : DestroyRun policy script cancelled stack retain result calls) {number : Nat}
    {seen : Stack} (later : 0 < number) (made : number < calls.countP PlaneCall.isLook)
    (unstalled : script.stallAt ≠ some (number + 1))
    (answer : script.lookAt number = .ok (some seen)) (failed : seen.status = .deleteFailed) :
    result = .error (.stack (.deleteFailed stack seen.statusReason)) ∧
      calls.countP PlaneCall.isLook = number + 1 := by
  have first : ¬number < 1 := Nat.not_lt.2 later
  cases run with
  | unseen => exact absurd made first
  | absent => exact absurd made first
  | refused => exact absurd made first
  | waited look accepted wait =>
      obtain ⟨i, rfl⟩ := Nat.exists_eq_succ_of_ne_zero (Nat.ne_of_gt later)
      obtain ⟨-, replicate⟩ := wait.calls_eq_replicate_looks
      rw [countP_isLook_waited replicate] at made ⊢
      obtain ⟨rfl, last⟩ := wait.ends_of_verdict (Nat.lt_of_succ_lt_succ made)
        (Script.answer?_laterCourse.2 ⟨unstalled, answer⟩) (verdict_of_deleteFailed failed)
      exact ⟨rfl, by rw [last]⟩

/-- Without a stack, the first look is the only call. -/
theorem of_absent (run : DestroyRun policy script cancelled stack retain result calls)
    (absent : script.firstLook = .ok none) : calls = [.describe stack] := by
  cases run with
  | unseen look => rfl
  | absent look => rfl
  | refused look => cases absent.symm.trans look
  | waited look => cases absent.symm.trans look

theorem of_failed_look (run : DestroyRun policy script cancelled stack retain result calls)
    {cause : StackError} (failed : script.firstLook = .error cause) :
    result = .error (.stack cause) ∧ calls = [.describe stack] := by
  cases run with
  | unseen look =>
      cases failed.symm.trans look
      exact ⟨rfl, rfl⟩
  | absent look => cases failed.symm.trans look
  | refused look => cases failed.symm.trans look
  | waited look => cases failed.symm.trans look

theorem of_failed_deletion (run : DestroyRun policy script cancelled stack retain result calls)
    {seen : Stack} {cause : StackError} (there : script.firstLook = .ok (some seen))
    (failed : script.firstDelete = .error cause) :
    result = .error (.stack cause) ∧ calls = [.describe stack, .delete stack retain] := by
  cases run with
  | unseen look => cases there.symm.trans look
  | absent look => cases there.symm.trans look
  | refused look deletion =>
      cases failed.symm.trans deletion
      exact ⟨rfl, rfl⟩
  | waited look accepted => cases failed.symm.trans accepted

end DestroyRun

/-- Every destruction keeps to its protocol, whatever is retained, however many looks it may make,
whatever the answers are, and whenever it is cancelled. -/
theorem destroy_keeps_protocol (policy : WaitPolicy) (script : Script) (cancelled : Bool)
    (stack : String) (retain : List String) :
    let run := (Rehearsal.deployer policy).destroy stack retain (Rehearsal.start script cancelled)
    KeepsDestruction policy script cancelled stack retain run.1 run.2.calls := by
  intro run
  have way : DestroyRun policy script cancelled stack retain run.1 run.2.calls :=
    destroy_run policy script cancelled stack retain
  exact {
    order := way.order
    deletes_iff := way.deletes_iff
    absent_iff := way.absent_iff
    absent_calls := fun absent => way.of_absent (way.absent_iff.1 absent)
    deleted_iff := way.deleted_iff
    failed_look := fun _ => way.of_failed_look
    failed_deletion := fun _ _ => way.of_failed_deletion
    remains := fun _ _ => way.remains }

/-- A stack that is gone at the second answer is deleted, and what is to be retained is named. -/
example :
    let there : Stack := ⟨"web", none, .deleteInProgress, none, []⟩
    let run := (Rehearsal.deployer ⟨5, 10⟩).destroy "web" ["Bucket"]
      (.start (.ofAnswers [.ok (some there), .ok (some there), .ok none] none) false)
    run.1 = .ok true ∧ run.2.calls = [.describe "web", .delete "web" ["Bucket"], .describe "web",
      .describe "web"] :=
  ⟨rfl, rfl⟩

end StackDeploy
