/-
# What a wait comes to

A wait that nobody cancels is settled by the answers alone. The first answer with a verdict ends it
with that verdict; if none of the answers that it may ask for has one, it is over after the last of
them and tells the status that was seen last. There is a pause between two looks, and none after the
last one.
-/

import StackDeploy.Proofs.Waiting.Rehearsed

namespace StackDeploy

/-- A wait that nobody cancels ends with the verdict of the first answer that has one, right after
that answer. If none of the answers has one, it ends after the last with the status that was seen
last. -/
theorem waitFor_ends_with_first_verdict (policy : WaitPolicy) (stack : String)
    (kind : OperationKind) (answers : List LookAnswer) :
    let answer := (Script.ofAnswers answers none).lookAt
    let run := Rehearsal.watch.waitFor policy stack kind (.start (.ofAnswers answers none) false)
    (∀ i < policy.attempts, ∀ result, verdict stack kind (answer i) = some result →
      (∀ j < i, verdict stack kind (answer j) = none) →
        run.1 = result ∧ run.2.calls = List.replicate (i + 1) (.describe stack) ∧
          run.2.pauses = List.replicate i policy.interval) ∧
    ((∀ i < policy.attempts, verdict stack kind (answer i) = none) →
      run.1 = .error (.timeout stack policy.attempts
          (lastStatus ((List.range policy.attempts).map answer))) ∧
        run.2.calls = List.replicate policy.attempts (.describe stack) ∧
          run.2.pauses = List.replicate (policy.attempts - 1) policy.interval) := by
  intro answer run
  obtain ⟨h, plays, way⟩ :=
    Rehearsal.waitFor_run (.start (.ofAnswers answers none) false) policy stack kind
  have passes {i : Nat} (undecided : verdict stack kind (answer i) = none) :
      (Rehearsal.start (.ofAnswers answers none) false).course.Passes stack kind i :=
    (Rehearsal.passes_ofAnswers_iff answers none i).2 ⟨nofun, undecided⟩
  have answered (i : Nat) := Rehearsal.answer?_course_ofAnswers answers none i
  constructor
  · intro i within result judged before
    obtain ⟨same, rfl⟩ := way.eq_of_verdict
      ⟨within, fun j less => passes (before j less), fun passed =>
        by cases judged.symm.trans (passed.verdict_eq_none (answered i))⟩ (answered i) judged
    refine ⟨same, plays.calls.trans ?_, plays.pauses.trans ?_⟩
    · simp [Rehearsal.start, List.replicate_succ']
    · simp [Rehearsal.start]
  · intro undecided
    obtain ⟨last, attempts⟩ : ∃ last, policy.attempts = last + 1 :=
      Nat.exists_eq_succ_of_ne_zero (by unfold WaitPolicy.attempts; omega)
    have passed : ∀ i < last + 1, (Rehearsal.start (.ofAnswers answers none) false).course.Passes
        stack kind i := fun i less => passes (undecided i (attempts ▸ less))
    obtain ⟨same, rfl⟩ := way.eq_of_passes_last
      ⟨attempts ▸ Nat.lt_succ_self last, fun i less => passed i (Nat.lt_succ_of_lt less),
        fun _ => attempts.symm⟩ (passed last (Nat.lt_succ_self last))
    refine ⟨?_, plays.calls.trans ?_, plays.pauses.trans ?_⟩
    · rw [← Rehearsal.answers_course_ofAnswers]
      exact same
    · simp [Rehearsal.start, attempts, List.replicate_succ']
    · simp [Rehearsal.start, attempts]

/-- A stack that is seen only at the second look is found created after one pause. -/
example :
    let created : Stack := ⟨"web", none, .createComplete, none, []⟩
    let run := Rehearsal.watch.waitFor ⟨5, 10⟩ "web" .create
      (.start (.ofAnswers [.ok none, .ok (some created)] none) false)
    run.1 = .ok (.reached created) ∧ run.2.calls = [.describe "web", .describe "web"] ∧
      run.2.pauses = [5] :=
  ⟨rfl, rfl, rfl⟩

end StackDeploy
