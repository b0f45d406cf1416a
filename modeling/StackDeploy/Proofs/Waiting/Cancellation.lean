/-
# Cancelled waits

A wait can be cancelled before its first look, while a look is pending, as an answer comes, or in a
pause. Whenever it happens, no look is started afterwards, and no answer is lost: an answer with a
verdict settles the wait even if the wait is cancelled as the answer comes, and a wait that reports
its cancellation reports how many answers came.
-/

import StackDeploy.Proofs.Waiting.Rehearsed

namespace StackDeploy

namespace WaitHistory

/-- No look is started after the wait was cancelled. -/
def NoLookAfterCancellation (h : WaitHistory) : Prop :=
  h.Pairwise fun earlier later => earlier.isCancellation = true → later.isLook = false

variable {h later : WaitHistory} {event : WaitEvent}

theorem noLookAfterCancellation_append (quiet : h.isCancelled = false)
    (fine : later.NoLookAfterCancellation) :
    WaitHistory.NoLookAfterCancellation (h ++ later) := by
  induction h with
  | nil => exact fine
  | cons event rest ih =>
      rw [isCancelled_cons, Bool.or_eq_false_iff] at quiet
      refine List.Pairwise.cons (fun _ _ cancels => ?_) (ih quiet.2)
      rw [quiet.1] at cancels
      cases cancels

/-- Nothing is wrong with a history without looks, whatever comes before it. -/
theorem noLookAfterCancellation_cons (none : later.looks = 0) :
    WaitHistory.NoLookAfterCancellation (event :: later) := by
  induction later generalizing event with
  | nil => exact List.pairwise_singleton _ _
  | cons next rest ih =>
      have silent : ∀ other ∈ next :: rest, other.isLook = false := by
        simpa [looks, List.countP_eq_zero] using none
      refine List.Pairwise.cons (fun other mem _ => silent other mem) (ih ?_)
      rw [looks_cons] at none
      omega

end WaitHistory

/-- A snapshot is never judged to show a cancellation. -/
theorem classify_ne_cancelled {stack name : String} {kind : OperationKind}
    {observed : Option Stack} {attempts : Nat} :
    classify stack kind observed ≠ .fail (.cancelled name attempts) := by
  cases observed with
  | none =>
      dsimp only [classify]
      split <;> simp
  | some seen =>
      dsimp only [classify]
      by_cases success : kind.isSuccess seen.status
      · simp [success]
      · by_cases left : seen.status = .deleteFailed
        · rw [if_neg success, if_pos left]
          simp
        · rw [if_neg success, if_neg left]
          split <;> simp

/-- Only a look that fails so is judged to be cancelled. -/
theorem eq_error_of_verdict_cancelled {stack name : String} {kind : OperationKind}
    {answer : LookAnswer} {attempts : Nat}
    (judged : verdict stack kind answer = some (.error (.cancelled name attempts))) :
    answer = .error (.cancelled name attempts) := by
  cases answer with
  | error cause =>
      cases judged
      rfl
  | ok observed =>
      cases decision : classify stack kind observed with
      | done outcome => simp [verdict, decision] at judged
      | goOn => simp [verdict, decision] at judged
      | fail cause =>
          simp [verdict, decision] at judged
          exact absurd (judged ▸ decision) classify_ne_cancelled

namespace Course

variable {c : Course} {stack : String} {kind : OperationKind} {number : Nat}

/-- Each round that is passed has its answer. -/
theorem length_answers (passed : ∀ i < number, c.Passes stack kind i) :
    (c.answers number).length = number := by
  induction number with
  | zero => rfl
  | succ number ih =>
      obtain ⟨-, answer, look, -⟩ := passed number (Nat.lt_succ_self number)
      have answered : (c.look number).answer? = some answer := by rw [look]; rfl
      have before := ih fun i less => passed i (Nat.lt_succ_of_lt less)
      simp [answers_succ answered, before]

/-- The answers in rounds that are passed decide nothing. -/
theorem verdict_eq_none_of_mem_answers {answer : LookAnswer}
    (passed : ∀ i < number, c.Passes stack kind i) (mem : answer ∈ c.answers number) :
    verdict stack kind answer = none := by
  obtain ⟨i, within, answered⟩ := List.mem_filterMap.1 mem
  exact (passed i (List.mem_range.1 within)).verdict_eq_none answered

theorem mem_answers_last {interval : Nat} {answer : LookAnswer}
    (answered : (c.look number).answer? = some answer) :
    answer ∈ WaitHistory.answers
      (c.rounds stack interval number ++ .asked stack :: (c.look number).events) := by
  simp [answered]

/-- No look follows the last one, and nothing is cancelled before it. -/
theorem noLookAfterCancellation_rounds {interval : Nat} {rest : WaitHistory}
    (passed : ∀ i < number, c.Passes stack kind i) (silent : rest.looks = 0) :
    WaitHistory.NoLookAfterCancellation (c.rounds stack interval number ++ .asked stack :: rest) :=
  WaitHistory.noLookAfterCancellation_append (isCancelled_rounds passed)
    (WaitHistory.noLookAfterCancellation_cons silent)

end Course

namespace WaitRun

variable {c : Course} {policy : WaitPolicy} {stack : String} {kind : OperationKind}
  {cancelled : Bool} {result : Except StackError WaitOutcome} {h : WaitHistory}

theorem noLookAfterCancellation (run : WaitRun c policy stack kind cancelled result h) :
    h.NoLookAfterCancellation := by
  cases run with
  | unstarted => exact List.pairwise_singleton _ _
  | abandoned stops look => exact Course.noLookAfterCancellation_rounds stops.passed rfl
  | decided stops answered judged =>
      exact Course.noLookAfterCancellation_rounds stops.passed (LookCourse.looks_events _)
  | exhausted stops answered undecided last =>
      exact Course.noLookAfterCancellation_rounds stops.passed (LookCourse.looks_events _)
  | paused stops answered undecided more =>
      rw [Course.rounds_succ]
      exact Course.noLookAfterCancellation_rounds stops.passed (by simp)

/-- An answer with a verdict settles the wait, whenever the wait is cancelled. -/
theorem eq_of_mem_answers {answer : LookAnswer} {decision : Except StackError WaitOutcome}
    (run : WaitRun c policy stack kind cancelled result h) (came : answer ∈ h.answers)
    (judged : verdict stack kind answer = some decision) : result = decision := by
  have before {number : Nat} (stops : c.Stops policy stack kind number) :
      answer ∉ c.answers number := fun mem => by
    cases judged.symm.trans (Course.verdict_eq_none_of_mem_answers stops.passed mem)
  cases run with
  | unstarted => simp at came
  | abandoned stops look => simp [before stops] at came
  | decided stops answered judged' =>
      simp [before stops, answered] at came
      subst came
      exact Option.some.inj (judged'.symm.trans judged)
  | exhausted stops answered undecided last =>
      simp [before stops, answered] at came
      subst came
      cases judged.symm.trans undecided
  | paused stops answered undecided more =>
      simp [before stops, Course.answers_succ answered] at came
      subst came
      cases judged.symm.trans undecided

/-- A wait none of whose answers has a verdict is over after all the answers that it may ask for, or
it was cancelled after those that came. -/
theorem eq_of_undecided_answers (run : WaitRun c policy stack kind cancelled result h)
    (undecided : ∀ answer ∈ h.answers, verdict stack kind answer = none) :
    result = .error (if h.answers.length = policy.attempts then
      .timeout stack policy.attempts (lastStatus h.answers)
    else .cancelled stack h.answers.length) := by
  cases run with
  | unstarted =>
      have some_look : 0 ≠ policy.attempts := by unfold WaitPolicy.attempts; omega
      simp [some_look]
  | abandoned stops look =>
      have less := Nat.ne_of_lt stops.within
      simp [Course.length_answers stops.passed, less]
  | @decided number answer _ stops answered judged =>
      cases judged.symm.trans (undecided answer (Course.mem_answers_last answered))
  | exhausted stops answered undecided last =>
      rw [← last, Course.answers_succ answered]
      simp [Course.length_answers stops.passed, answered]
  | paused stops answered undecided more =>
      simp [Course.length_answers stops.passed, Course.answers_succ answered, more]

/-- A wait that is over early, although no answer has a verdict, was cancelled. -/
theorem isCancelled_of_undecided_answers (run : WaitRun c policy stack kind cancelled result h)
    (undecided : ∀ answer ∈ h.answers, verdict stack kind answer = none)
    (early : h.answers.length ≠ policy.attempts) : h.isCancelled = true := by
  cases run with
  | unstarted => rfl
  | abandoned stops look => simp
  | @decided number answer _ stops answered judged =>
      cases judged.symm.trans (undecided answer (Course.mem_answers_last answered))
  | exhausted stops answered pending last =>
      refine absurd ?_ early
      simp [Course.length_answers stops.passed, answered, last]
  | paused stops answered pending more =>
      refine eq_true_of_ne_false fun quiet => more (stops.last ?_)
      exact (Course.isCancelled_rounds_succ stops.passed answered pending).1 quiet

/-- A wait that reports a cancellation was told of it by an answer; or it was cancelled, and reports
how many answers it got. -/
theorem mem_answers_or_isCancelled {name : String} {attempts : Nat}
    (run : WaitRun c policy stack kind cancelled (.error (.cancelled name attempts)) h) :
    .error (.cancelled name attempts) ∈ h.answers ∨
      h.isCancelled = true ∧ name = stack ∧ attempts = h.answers.length := by
  by_cases undecided : ∀ answer ∈ h.answers, verdict stack kind answer = none
  · have same := run.eq_of_undecided_answers undecided
    split at same
    · cases same
    · next early =>
        cases same
        exact Or.inr ⟨run.isCancelled_of_undecided_answers undecided early, rfl, rfl⟩
  · obtain ⟨answer, judged⟩ := Classical.not_forall.1 undecided
    obtain ⟨came, judged⟩ := Classical.not_imp.1 judged
    obtain ⟨decision, judged⟩ := Option.ne_none_iff_exists'.1 judged
    cases run.eq_of_mem_answers came judged
    exact Or.inl (eq_error_of_verdict_cancelled judged ▸ came)

end WaitRun

namespace Rehearsal

variable {policy : WaitPolicy} {stack : String} {kind : OperationKind} {answers : List LookAnswer}
  {pause : Nat} {result free : Except StackError WaitOutcome} {h calm : WaitHistory}

/-- A wait that a pause cancels is cancelled in it, if it comes to that pause. -/
theorem eq_cancelled_of_pause (positive : 0 < pause)
    (run : WaitRun (start (.ofAnswers answers (some pause)) false).course policy stack kind false
      result h)
    (undecided : ∀ i < pause,
      verdict stack kind ((Script.ofAnswers answers (some pause)).lookAt i) = none)
    (within : pause < policy.attempts) : result = .error (.cancelled stack pause) := by
  obtain ⟨number, rfl⟩ := Nat.exists_eq_succ_of_ne_zero (Nat.ne_of_gt positive)
  have stops : (start (.ofAnswers answers (some (number + 1))) false).course.Stops policy stack kind
      number := by
    refine ⟨Nat.lt_of_succ_lt within, fun i less => ?_, fun passes => ?_⟩
    · refine (passes_ofAnswers_iff answers _ i).2 ⟨fun _ same => ?_, undecided i (by omega)⟩
      cases same
      omega
    · have later := ((passes_ofAnswers_iff answers _ number).1 passes).1 _ rfl
      exact absurd later (Nat.lt_irrefl _)
  exact (run.eq_of_undecided stops (answer?_course_ofAnswers answers _ number)
    (undecided number (Nat.lt_succ_self number)) (Nat.ne_of_lt within)).1

/-- A wait that a pause would cancel goes as if nothing cancelled it, if it does not come to that
pause. -/
theorem eq_of_unreached_pause
    (run : WaitRun (start (.ofAnswers answers (some pause)) false).course policy stack kind false
      result h)
    (other : WaitRun (start (.ofAnswers answers none) false).course policy stack kind false free
      calm)
    (unreached : ¬((∀ i < pause, verdict stack kind ((Script.ofAnswers answers none).lookAt i) = none) ∧
      pause < policy.attempts)) : result = free := by
  have passes {i : Nat}
      (passed : (start (.ofAnswers answers (some pause)) false).course.Passes stack kind i) :
      (start (.ofAnswers answers none) false).course.Passes stack kind i :=
    (passes_ofAnswers_iff answers none i).2 ⟨nofun, ((passes_ofAnswers_iff answers _ i).1 passed).2⟩
  cases run with
  | @abandoned number stops look =>
      have answered := answer?_course_ofAnswers answers (some pause) number
      rw [look] at answered
      cases answered
  | @decided number answer _ stops answered judged =>
      refine (other.eq_of_verdict ⟨stops.within, fun i less => passes (stops.passed i less),
        fun passed => ?_⟩ answered judged).1.symm
      cases judged.symm.trans (passed.verdict_eq_none answered)
  | @exhausted number answer stops answered undecided last =>
      have final : (start (.ofAnswers answers none) false).course.Passes stack kind number := by
        cases Option.some.inj answered
        exact (passes_ofAnswers_iff answers none number).2 ⟨nofun, undecided⟩
      exact (other.eq_of_passes_last ⟨stops.within, fun i less => passes (stops.passed i less),
        fun _ => last⟩ final).1.symm
  | @paused number answer stops answered undecided more =>
      cases Option.some.inj answered
      have within := stops.within
      have reached : pause ≤ number + 1 := Nat.le_of_not_lt fun later => by
        refine absurd (stops.last ?_) more
        refine (passes_ofAnswers_iff answers _ number).2 ⟨fun _ same => ?_, undecided⟩
        cases same
        exact later
      refine absurd ⟨fun i less => ?_, by omega⟩ unreached
      rcases Nat.lt_or_eq_of_le (show i ≤ number by omega) with before | rfl
      · exact ((passes_ofAnswers_iff answers _ i).1 (stops.passed i before)).2
      · exact undecided

end Rehearsal

/-- However a wait is cancelled, no look is started afterwards, and every answer that came counts:
if one has a verdict, that is the result; if none has, the wait ran out of looks or was cancelled,
and tells after how many answers. So a wait reports a cancellation only if an answer told it or if
it was cancelled, and then with the number of its answers.

If a pause cancels the wait, it is cancelled in it, with as many answers, if it comes to that pause;
if it does not, the result is that of a wait that nobody cancels. -/
theorem cancellation_loses_no_answer (policy : WaitPolicy) (stack : String)
    (kind : OperationKind) :
    (∀ (c : Course) (cancelled : Bool),
      let run := c.watch.waitFor policy stack kind (.start cancelled)
      run.2.NoLookAfterCancellation ∧
      (∀ answer ∈ run.2.answers, ∀ result,
        verdict stack kind answer = some result → run.1 = result) ∧
      ((∀ answer ∈ run.2.answers, verdict stack kind answer = none) →
        run.1 = .error (if run.2.answers.length = policy.attempts then
          .timeout stack policy.attempts (lastStatus run.2.answers)
        else .cancelled stack run.2.answers.length)) ∧
      (∀ name attempts, run.1 = .error (.cancelled name attempts) →
        .error (.cancelled name attempts) ∈ run.2.answers ∨
          run.2.isCancelled = true ∧ name = stack ∧ attempts = run.2.answers.length)) ∧
    (∀ (answers : List LookAnswer) (pause : Nat), 0 < pause →
      let result (cancelAfter : Option Nat) := (Rehearsal.watch.waitFor policy stack kind
        (.start (.ofAnswers answers cancelAfter) false)).1
      let comesToPause := (∀ i < pause,
        verdict stack kind ((Script.ofAnswers answers none).lookAt i) = none) ∧
          pause < policy.attempts
      (comesToPause → result (some pause) = .error (.cancelled stack pause)) ∧
      (¬comesToPause → result (some pause) = result none)) := by
  constructor
  · intro c cancelled run
    obtain ⟨h, same, way⟩ :=
      c.follows_watch.waitFor_run policy stack kind (Eq.refl (WaitHistory.start cancelled))
    subst same
    refine ⟨way.noLookAfterCancellation, fun answer came result => way.eq_of_mem_answers came,
      way.eq_of_undecided_answers, fun name attempts told => ?_⟩
    rw [told] at way
    exact way.mem_answers_or_isCancelled
  · intro answers pause positive result comesToPause
    obtain ⟨_, _, way⟩ :=
      Rehearsal.waitFor_run (.start (.ofAnswers answers (some pause)) false) policy stack kind
    obtain ⟨_, _, free⟩ :=
      Rehearsal.waitFor_run (.start (.ofAnswers answers none) false) policy stack kind
    exact ⟨fun comes => Rehearsal.eq_cancelled_of_pause positive way comes.1 comes.2,
      Rehearsal.eq_of_unreached_pause way free⟩

/-- A wait for a stack that is never seen is cancelled in its second pause, with two answers. -/
example : (Rehearsal.watch.waitFor ⟨5, 10⟩ "web" .create
    (.start (.ofAnswers (List.replicate 5 (.ok none)) (some 2)) false)).1 =
      .error (.cancelled "web" 2) := by
  rfl

end StackDeploy
