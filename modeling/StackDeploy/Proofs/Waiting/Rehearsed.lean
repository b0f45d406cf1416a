/-
# Rehearsed waits

A rehearsal answers looks from its script, and its script says when the wait is cancelled. So a wait
in a rehearsal follows a course, and every result about courses holds of it: the calls and the
pauses that the rehearsal records are those in the history of the wait.
-/

import StackDeploy.Deployment.Rehearsal
import StackDeploy.Proofs.Waiting.Course

namespace StackDeploy

/-- The call that starts a look. -/
@[simp]
def WaitEvent.call? : WaitEvent → Option PlaneCall
  | asked stack => some (.describe stack)
  | _ => none

/-- The calls of a wait. -/
def WaitHistory.calls (h : WaitHistory) : List PlaneCall := h.filterMap WaitEvent.call?

namespace WaitHistory

variable (h later : WaitHistory) (event : WaitEvent)

@[simp] theorem calls_nil : calls [] = [] := rfl

@[simp]
theorem calls_cons : calls (event :: later) = event.call?.toList ++ calls later := by
  unfold calls
  cases event <;> rfl

@[simp]
theorem calls_append : calls (h ++ later) = calls h ++ calls later :=
  List.filterMap_append

end WaitHistory

@[simp]
theorem LookCourse.calls_events (look : LookCourse) : look.events.calls = [] := by
  cases look <;> rfl

@[simp]
theorem Course.calls_pauseEvents (c : Course) (number seconds : Nat) :
    (c.pauseEvents number seconds).calls = [] := by
  unfold pauseEvents
  split <;> rfl

@[simp]
theorem Course.calls_rounds (c : Course) (stack : String) (interval number : Nat) :
    (c.rounds stack interval number).calls = List.replicate number (.describe stack) := by
  induction number with
  | zero => rfl
  | succ number ih => simp [rounds_succ, ih, List.replicate_succ']

/-- The answer to a look that comes after so many others. -/
def Script.lookAt (s : Script) (number : Nat) : LookAnswer :=
  s.describes[number]?.getD Rehearsal.noAnswer

namespace Rehearsal

/-- The course of a wait that starts in a rehearsal. -/
def course (r : Rehearsal) : Course where
  look number :=
    if r.script.stallAt = some (r.looks + number + 1) then .abandoned
    else .answered (r.script.lookAt number)
  cancelsPause number :=
    r.script.cancelAfter.any (· ≤ r.pauses.length + number + 1) || r.script.stallsPauses

/-- The answer to a look is the one that the script has at its place. -/
theorem lookAt_of_answer? (r : Rehearsal) {number : Nat} {answer : LookAnswer}
    (answered : (r.course.look number).answer? = some answer) :
    r.script.lookAt number = answer := by
  dsimp only [course] at answered
  split at answered <;> cases answered
  rfl

/-- A rehearsal has come from one state to another by what a history tells. -/
structure Plays (r s : Rehearsal) (h : WaitHistory) : Prop where
  cancelled : s.cancelled = h.isCancelled
  calls : s.calls = r.calls ++ h.calls
  pauses : s.pauses = r.pauses ++ h.pauses
  looks : s.looks = r.looks + h.looks
  script : s.script = { r.script with describes := r.script.describes.drop h.answers.length }
  answered : h.isCancelled = false → h.answers.length = h.looks

theorem plays_start (r : Rehearsal) : r.Plays r (.start r.cancelled) := by
  cases cancelled : r.cancelled with
  | true => constructor <;> simp [WaitHistory.start, cancelled]
  | false => constructor <;> simp [WaitHistory.start, cancelled]

theorem next_snd {α : Type} (fallback : α) (row : List α) : (next fallback row).2 = row.tail := by
  cases row <;> rfl

/-- The next answer after so many others is the one that the row has at that place. -/
theorem next_drop (describes : List LookAnswer) (number : Nat) :
    next noAnswer (describes.drop number) =
      (describes[number]?.getD noAnswer, describes.drop (number + 1)) := by
  rw [← List.head?_drop, ← List.tail_drop]
  cases describes.drop number <;> rfl

theorem look_of_stalls {s : Rehearsal} (stack : String)
    (stalls : s.script.stallAt = some (s.looks + 1)) :
    look stack s = (none, { s.recordLook stack with cancelled := true }) :=
  if_pos stalls

theorem look_of_answers {s : Rehearsal} (stack : String)
    (answers : s.script.stallAt ≠ some (s.looks + 1)) :
    look stack s = (some (next noAnswer s.script.describes).1,
      { s.recordLook stack with
        script := { s.script with describes := (next noAnswer s.script.describes).2 } }) :=
  if_neg answers

/-- A rehearsal follows its course. -/
theorem follows (r : Rehearsal) : watch.Follows r.course r.Plays where
  isCancelled plays := by rw [← plays.cancelled]; rfl
  look {s h} stack plays quiet := by
    obtain ⟨cancelled, calls, pauses, looks, script, answered⟩ := plays
    have number := answered quiet
    have same : s.script.stallAt = r.script.stallAt := by rw [script]
    by_cases stalls : s.script.stallAt = some (s.looks + 1)
    · have course : r.course.look h.looks = .abandoned := if_pos (by rw [← same, stalls, looks])
      rw [course, show watch.look stack s = _ from look_of_stalls stack stalls]
      refine ⟨rfl, ?_, ?_, ?_, ?_, ?_, ?_⟩
      all_goals simp [recordLook, record, LookCourse.events, Nat.add_assoc, *]
    · have course : r.course.look h.looks = .answered (r.script.lookAt h.looks) :=
        if_neg (by rw [← same, ← looks]; exact stalls)
      rw [course, show watch.look stack s = _ from look_of_answers stack stalls, script]
      dsimp only
      rw [next_drop, number]
      refine ⟨rfl, ?_, ?_, ?_, ?_, ?_, ?_⟩
      all_goals simp [recordLook, record, LookCourse.events, Nat.add_assoc, *]
  pause {s h} seconds plays := by
    obtain ⟨cancelled, calls, pauses, looks, script, answered⟩ := plays
    have cancels : (watch.pause seconds s).1 =
        WaitHistory.isCancelled (h ++ r.course.pauseEvents h.pauses.length seconds) := by
      simp [watch, pause, course, cancelled, pauses, script, Bool.or_assoc, Nat.add_assoc]
    refine ⟨cancels, cancels, ?_, ?_, ?_, ?_, ?_⟩
    all_goals simp +contextual [watch, pause, *]

/-- Every wait in a rehearsal goes in one of the ways of the list, and the rehearsal records it. -/
theorem waitFor_run (r : Rehearsal) (policy : WaitPolicy) (stack : String) (kind : OperationKind) :
    let run := watch.waitFor policy stack kind r
    ∃ h, r.Plays run.2 h ∧ WaitRun r.course policy stack kind r.cancelled run.1 h :=
  r.follows.waitFor_run policy stack kind r.plays_start

end Rehearsal

/-- The script that answers looks, and cancels in every pause from one on if one is given. -/
def Script.ofAnswers (answers : List LookAnswer) (cancelAfter : Option Nat) : Script :=
  { Script.empty with describes := answers, cancelAfter }

namespace Rehearsal

variable (answers : List LookAnswer) (cancelAfter : Option Nat) (number : Nat)

/-- Every look of a wait by such a script is answered. -/
theorem answer?_course_ofAnswers :
    ((start (.ofAnswers answers cancelAfter) false).course.look number).answer? =
      some ((Script.ofAnswers answers cancelAfter).lookAt number) := rfl

theorem answers_course_ofAnswers :
    (start (.ofAnswers answers cancelAfter) false).course.answers number =
      (List.range number).map (Script.ofAnswers answers cancelAfter).lookAt :=
  congrFun List.filterMap_eq_map _

/-- A round is passed if its answer decides nothing and its pause comes before the cancellation. -/
theorem passes_ofAnswers_iff {stack : String} {kind : OperationKind} :
    (start (.ofAnswers answers cancelAfter) false).course.Passes stack kind number ↔
      (∀ pause ∈ cancelAfter, number + 1 < pause) ∧
        verdict stack kind ((Script.ofAnswers answers cancelAfter).lookAt number) = none := by
  have look : (start (.ofAnswers answers cancelAfter) false).course.look number =
      .answered ((Script.ofAnswers answers cancelAfter).lookAt number) := rfl
  rw [Course.Passes, look]
  cases cancelAfter <;> simp [course, start, Script.ofAnswers, Script.empty]

end Rehearsal

/-- A wait looks at its stack and calls nothing else, at most as often as it may. -/
theorem WaitRun.calls_eq_replicate_looks {c : Course} {policy : WaitPolicy} {stack : String}
    {kind : OperationKind} {cancelled : Bool} {result : Except StackError WaitOutcome}
    {h : WaitHistory} (run : WaitRun c policy stack kind cancelled result h) :
    h.looks ≤ policy.attempts ∧ h.calls = List.replicate h.looks (.describe stack) := by
  cases run with
  | unstarted => exact ⟨Nat.zero_le _, rfl⟩
  | abandoned stops look =>
      exact ⟨by simpa using Nat.succ_le_of_lt stops.within, by simp [List.replicate_succ']⟩
  | decided stops answered judged =>
      exact ⟨by simpa using Nat.succ_le_of_lt stops.within, by simp [List.replicate_succ']⟩
  | exhausted stops answered undecided last =>
      exact ⟨by simpa using Nat.succ_le_of_lt stops.within, by simp [List.replicate_succ']⟩
  | paused stops answered undecided more =>
      exact ⟨by simpa using Nat.succ_le_of_lt stops.within, by simp⟩

/-- Besides, only the last look of a wait is not answered with a snapshot or with the absence of its
stack. The wait ends well if the answer to its last look says so. -/
theorem WaitRun.calls_eq_replicate {r : Rehearsal} {policy : WaitPolicy} {stack : String}
    {kind : OperationKind} {cancelled : Bool} {result : Except StackError WaitOutcome}
    {h : WaitHistory} (run : WaitRun r.course policy stack kind cancelled result h) :
    ∃ looks ≤ policy.attempts, h.calls = List.replicate looks (.describe stack) ∧
      (∀ i, i + 1 < looks → ∃ observed, r.script.lookAt i = .ok observed) ∧
      ∀ outcome, result = .ok outcome → ∃ last, looks = last + 1 ∧
        verdict stack kind (r.script.lookAt last) = some (.ok outcome) := by
  have seen {i : Nat} (passes : r.course.Passes stack kind i) :
      ∃ observed, r.script.lookAt i = .ok observed := by
    obtain ⟨-, answer, look, undecided⟩ := passes
    dsimp only [Rehearsal.course] at look
    split at look
    · cases look
    · cases look
      cases answered : r.script.lookAt i with
      | error cause =>
          rw [answered] at undecided
          cases undecided
      | ok observed => exact ⟨observed, rfl⟩
  obtain ⟨bound, calls⟩ := run.calls_eq_replicate_looks
  refine ⟨h.looks, bound, calls, fun i less => ?_, fun outcome ended => ?_⟩
  · cases run with
    | unstarted => simp at less
    | abandoned stops | decided stops | exhausted stops | paused stops =>
        exact seen (stops.passed i (by simpa using less))
  · subst ended
    cases run with
    | @decided number answer _ stops answered judged =>
        exact ⟨number, by simp, by rw [← judged, r.lookAt_of_answer? answered]⟩

end StackDeploy
