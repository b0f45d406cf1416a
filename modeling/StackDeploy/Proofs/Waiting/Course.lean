/-
# The course of a wait

A wait depends on its surroundings in two ways only: how each of its looks goes, and in which of its
pauses it is cancelled. A course fixes both beforehand. A wait that follows a course leaves a
history behind, in which the looks, the answers, the pauses and the cancellation stand in the order
in which they happened.

This module says once and completely how a wait that follows a course can go: a list of the ways in
which it ends, each with the result and the whole history. Every way passes some rounds first, in
which a look is answered, decides nothing, and the pause after it is over in peace. The list holds
for every watch that follows a course, so later results about waits are read off it and do not go
back to the program.
-/

import StackDeploy.Stack.Wait

namespace StackDeploy

/-- What a look at a stack answers. -/
abbrev LookAnswer := Except StackError (Option Stack)

/-- What an answer decides about a wait, if anything: a failed look ends the wait, and so does the
end of the operation. -/
def verdict (stack : String) (kind : OperationKind) :
    LookAnswer → Option (Except StackError WaitOutcome)
  | .error cause => some (.error cause)
  | .ok observed =>
    match classify stack kind observed with
    | .done outcome => some (.ok outcome)
    | .fail cause => some (.error cause)
    | .goOn => none

/-- A creation or an update ends well only with a snapshot that shows its success. -/
theorem exists_reached_of_verdict {stack : String} {kind : OperationKind} {answer : LookAnswer}
    {outcome : WaitOutcome} (kept : kind ≠ .delete)
    (judged : verdict stack kind answer = some (.ok outcome)) :
    ∃ seen, answer = .ok (some seen) ∧ seen.status = kind.successStatus ∧
      outcome = .reached seen := by
  rcases answer with cause | _ | seen
  · cases judged
  · rw [verdict, classify, if_neg kept] at judged
    cases judged
  · by_cases success : kind.isSuccess seen.status = true
    · rw [verdict, classify, if_pos success] at judged
      cases judged
      exact ⟨seen, rfl, beq_iff_eq.1 success, rfl⟩
    · rw [verdict, classify, if_neg success] at judged
      by_cases remains : seen.status = .deleteFailed
      · rw [if_pos remains] at judged
        cases judged
      · rw [if_neg remains] at judged
        by_cases failure : kind.isFailure seen.status = true
        · rw [if_pos failure] at judged
          cases judged
        · rw [if_neg failure] at judged
          cases judged

/-- The status that an answer shows, if it shows a stack. -/
def shownStatus : LookAnswer → Option StackStatus
  | .error _ => none
  | .ok observed => observed.map Stack.status

/-- The status that the last answer with a stack shows. -/
def lastStatus (answers : List LookAnswer) : Option StackStatus :=
  (answers.filterMap shownStatus).getLast?

theorem lastStatus_concat (answers : List LookAnswer) (answer : LookAnswer) :
    lastStatus (answers ++ [answer]) = (shownStatus answer).or (lastStatus answers) := by
  unfold lastStatus
  cases shown : shownStatus answer with
  | none => simp [shown]
  | some status => simp [shown]

/-- Two actions on a state, one after the other. -/
theorem stateM_bind {σ α β : Type} (first : StateM σ α) (next : α → StateM σ β) (s : σ) :
    (first >>= next) s = next (first s).1 (first s).2 := rfl

/-- One step of a wait, as a function of the state of its watch. -/
theorem Watch.waitWithin_succ {σ : Type} (w : Watch (StateM σ)) {stack : String} {interval : Nat}
    {kind : OperationKind} (remaining completed : Nat) (last : Option StackStatus) (s : σ) :
    w.waitWithin interval stack kind (remaining + 1) completed last s =
      if (w.isCancelled s).1 then (.error (.cancelled stack completed), (w.isCancelled s).2)
      else
        match w.look stack (w.isCancelled s).2 with
        | (none, after) => (.error (.cancelled stack completed), after)
        | (some answer, after) =>
          match verdict stack kind answer with
          | some result => (result, after)
          | none =>
            if remaining = 0 then
              (.error (.timeout stack (completed + 1) ((shownStatus answer).or last)), after)
            else if (w.pause interval after).1 then
              (.error (.cancelled stack (completed + 1)), (w.pause interval after).2)
            else
              w.waitWithin interval stack kind remaining (completed + 1)
                ((shownStatus answer).or last) (w.pause interval after).2 := by
  rw [Watch.waitWithin, stateM_bind]
  by_cases cancelled : (w.isCancelled s).1
  · rw [if_pos cancelled, if_pos cancelled]
    rfl
  · rw [if_neg cancelled, if_neg cancelled, stateM_bind]
    rcases w.look stack (w.isCancelled s).2 with ⟨_ | cause | observed, after⟩
    · rfl
    · rfl
    · dsimp only [verdict, shownStatus]
      cases classify stack kind observed with
      | done outcome => rfl
      | fail cause => rfl
      | goOn =>
          dsimp only
          split
          · rfl
          · rw [stateM_bind]
            split <;> rfl

/-- What happens in a wait. -/
inductive WaitEvent where
  /-- A look at a stack is started. -/
  | asked (stack : String)
  /-- The answer to a look comes. -/
  | answered (answer : LookAnswer)
  /-- A pause of so many seconds is started. -/
  | paused (seconds : Nat)
  /-- The wait is cancelled. -/
  | cancelled

namespace WaitEvent

/-- Whether an event is the start of a look. -/
@[simp]
def isLook : WaitEvent → Bool
  | asked _ => true
  | _ => false

/-- Whether an event is the cancellation. -/
@[simp]
def isCancellation : WaitEvent → Bool
  | cancelled => true
  | _ => false

/-- The answer that comes with an event. -/
@[simp]
def answer? : WaitEvent → Option LookAnswer
  | answered answer => some answer
  | _ => none

/-- The seconds of the pause that an event starts. -/
@[simp]
def pause? : WaitEvent → Option Nat
  | paused seconds => some seconds
  | _ => none

end WaitEvent

/-- The events of a wait in the order in which they happened. -/
abbrev WaitHistory := List WaitEvent

namespace WaitHistory

/-- The history of a wait before its first look. -/
def start (cancelled : Bool) : WaitHistory :=
  if cancelled then [.cancelled] else []

/-- The number of looks that were started. -/
def looks (h : WaitHistory) : Nat := h.countP WaitEvent.isLook

/-- The answers that came. -/
def answers (h : WaitHistory) : List LookAnswer := h.filterMap WaitEvent.answer?

/-- The seconds of the pauses that were started. -/
def pauses (h : WaitHistory) : List Nat := h.filterMap WaitEvent.pause?

/-- Whether the wait was cancelled. -/
def isCancelled (h : WaitHistory) : Bool := h.any WaitEvent.isCancellation

variable (h later : WaitHistory) (event : WaitEvent)

@[simp] theorem looks_nil : looks [] = 0 := rfl

@[simp] theorem answers_nil : answers [] = [] := rfl

@[simp] theorem pauses_nil : pauses [] = [] := rfl

@[simp] theorem isCancelled_nil : isCancelled [] = false := rfl

@[simp]
theorem looks_cons : looks (event :: later) = looks later + if event.isLook then 1 else 0 :=
  List.countP_cons

@[simp]
theorem answers_cons : answers (event :: later) = event.answer?.toList ++ answers later := by
  unfold answers
  cases event <;> rfl

@[simp]
theorem pauses_cons : pauses (event :: later) = event.pause?.toList ++ pauses later := by
  unfold pauses
  cases event <;> rfl

@[simp]
theorem isCancelled_cons :
    isCancelled (event :: later) = (event.isCancellation || isCancelled later) := rfl

@[simp]
theorem looks_append : looks (h ++ later) = looks h + looks later :=
  List.countP_append

@[simp]
theorem answers_append : answers (h ++ later) = answers h ++ answers later :=
  List.filterMap_append

@[simp]
theorem pauses_append : pauses (h ++ later) = pauses h ++ pauses later :=
  List.filterMap_append

@[simp]
theorem isCancelled_append : isCancelled (h ++ later) = (isCancelled h || isCancelled later) :=
  List.any_append

end WaitHistory

/-- How a look goes. -/
inductive LookCourse where
  /-- It is answered. -/
  | answered (answer : LookAnswer)
  /-- It is answered, and the wait is cancelled as the answer comes. -/
  | answeredLast (answer : LookAnswer)
  /-- The wait is cancelled while the answer is awaited. -/
  | abandoned

namespace LookCourse

/-- The answer, if there is one. -/
def answer? : LookCourse → Option LookAnswer
  | answered answer => some answer
  | answeredLast answer => some answer
  | abandoned => none

/-- What happens once the look is started. -/
def events : LookCourse → WaitHistory
  | answered answer => [.answered answer]
  | answeredLast answer => [.answered answer, .cancelled]
  | abandoned => [.cancelled]

@[simp]
theorem looks_events (look : LookCourse) : look.events.looks = 0 := by
  cases look <;> rfl

@[simp]
theorem answers_events (look : LookCourse) : look.events.answers = look.answer?.toList := by
  cases look <;> rfl

@[simp]
theorem pauses_events (look : LookCourse) : look.events.pauses = [] := by
  cases look <;> rfl

end LookCourse

/-- How the looks of a wait go, and in which pauses it is cancelled. Both are numbered by how many
came before. -/
structure Course where
  look : Nat → LookCourse
  cancelsPause : Nat → Bool

namespace Course

variable (c : Course)

/-- What happens in a pause that comes after so many others. -/
def pauseEvents (number seconds : Nat) : WaitHistory :=
  .paused seconds :: if c.cancelsPause number then [.cancelled] else []

/-- Looks and pauses by the course, and notes down what happens. -/
def watch : Watch (StateM WaitHistory) where
  isCancelled := fun h => (h.isCancelled, h)
  look stack := fun h => ((c.look h.looks).answer?, h ++ .asked stack :: (c.look h.looks).events)
  pause seconds := fun h =>
    let after := h ++ c.pauseEvents h.pauses.length seconds
    (after.isCancelled, after)

end Course

/-- A watch follows a course: in a state that a history describes, it looks and pauses as the course
has it. -/
structure Watch.Follows {σ : Type} (w : Watch (StateM σ)) (c : Course)
    (describes : σ → WaitHistory → Prop) : Prop where
  isCancelled {s : σ} {h : WaitHistory} : describes s h → w.isCancelled s = (h.isCancelled, s)
  look {s : σ} {h : WaitHistory} (stack : String) : describes s h → h.isCancelled = false →
    (w.look stack s).1 = (c.look h.looks).answer? ∧
      describes (w.look stack s).2 (h ++ .asked stack :: (c.look h.looks).events)
  pause {s : σ} {h : WaitHistory} (seconds : Nat) : describes s h →
    (w.pause seconds s).1 = WaitHistory.isCancelled (h ++ c.pauseEvents h.pauses.length seconds) ∧
      describes (w.pause seconds s).2 (h ++ c.pauseEvents h.pauses.length seconds)

namespace Course

theorem follows_watch (c : Course) : c.watch.Follows c Eq where
  isCancelled same := by subst same; rfl
  look _ same _ := by subst same; exact ⟨rfl, rfl⟩
  pause _ same := by subst same; exact ⟨rfl, rfl⟩

variable {c : Course} {policy : WaitPolicy} {stack : String} {kind : OperationKind}

/-- A round of a wait is passed: its look is answered without a verdict, and its pause is over
without a cancellation. -/
def Passes (c : Course) (stack : String) (kind : OperationKind) (number : Nat) : Prop :=
  c.cancelsPause number = false ∧
    ∃ answer, c.look number = .answered answer ∧ verdict stack kind answer = none

/-- What happens in so many rounds. -/
def rounds (c : Course) (stack : String) (interval number : Nat) : WaitHistory :=
  (List.range number).flatMap fun i =>
    .asked stack :: (c.look i).events ++ c.pauseEvents i interval

/-- The answers to so many looks. -/
def answers (c : Course) (number : Nat) : List LookAnswer :=
  (List.range number).filterMap fun i => (c.look i).answer?

theorem rounds_succ (c : Course) (stack : String) (interval number : Nat) :
    c.rounds stack interval (number + 1) =
      c.rounds stack interval number ++
        (.asked stack :: (c.look number).events ++ c.pauseEvents number interval) := by
  simp [rounds, List.range_succ]

theorem answers_succ {number : Nat} {answer : LookAnswer}
    (answered : (c.look number).answer? = some answer) :
    c.answers (number + 1) = c.answers number ++ [answer] := by
  simp [answers, List.range_succ, answered]

@[simp]
theorem looks_pauseEvents (number seconds : Nat) : (c.pauseEvents number seconds).looks = 0 := by
  unfold pauseEvents
  split <;> rfl

@[simp]
theorem answers_pauseEvents (number seconds : Nat) : (c.pauseEvents number seconds).answers = [] := by
  unfold pauseEvents
  split <;> rfl

@[simp]
theorem pauses_pauseEvents (number seconds : Nat) :
    (c.pauseEvents number seconds).pauses = [seconds] := by
  unfold pauseEvents
  split <;> rfl

@[simp]
theorem isCancelled_pauseEvents (number seconds : Nat) :
    (c.pauseEvents number seconds).isCancelled = c.cancelsPause number := by
  unfold pauseEvents
  split
  · next cancels => exact cancels.symm
  · next quiet => exact (Bool.not_eq_true _ ▸ quiet).symm

@[simp]
theorem looks_rounds (number interval : Nat) : (c.rounds stack interval number).looks = number := by
  induction number with
  | zero => rfl
  | succ number ih => simp [rounds_succ, ih]

@[simp]
theorem answers_rounds (number interval : Nat) :
    (c.rounds stack interval number).answers = c.answers number := by
  induction number with
  | zero => rfl
  | succ number ih =>
      rw [rounds_succ, WaitHistory.answers_append, ih]
      cases answered : (c.look number).answer? with
      | none => simp [answers, List.range_succ, answered]
      | some answer => simp [answers_succ answered, answered]

@[simp]
theorem pauses_rounds (number interval : Nat) :
    (c.rounds stack interval number).pauses = List.replicate number interval := by
  induction number with
  | zero => rfl
  | succ number ih => simp [rounds_succ, ih, List.replicate_succ']

/-- Nothing is cancelled in rounds that are passed. -/
theorem isCancelled_rounds {number interval : Nat}
    (passed : ∀ i < number, c.Passes stack kind i) :
    (c.rounds stack interval number).isCancelled = false := by
  induction number with
  | zero => rfl
  | succ number ih =>
      obtain ⟨quiet, answer, look, -⟩ := passed number (Nat.lt_succ_self number)
      have before := ih fun i less => passed i (Nat.lt_succ_of_lt less)
      simp [rounds_succ, before, quiet, look, LookCourse.events]

end Course

namespace LookCourse

theorem eq_abandoned_of_answer? {look : LookCourse} (unanswered : look.answer? = none) :
    look = .abandoned := by
  cases look with
  | abandoned => rfl
  | answered answer => cases unanswered
  | answeredLast answer => cases unanswered

end LookCourse

namespace Course

variable {c : Course} {policy : WaitPolicy} {stack : String} {kind : OperationKind}
  {number other : Nat} {answer : LookAnswer}

/-- The look of a round that is passed was answered. -/
theorem Passes.ne_abandoned (passes : c.Passes stack kind number) :
    c.look number ≠ .abandoned := by
  obtain ⟨-, answer, look, -⟩ := passes
  rw [look]
  exact LookCourse.noConfusion

/-- The answer in a round that is passed decides nothing. -/
theorem Passes.verdict_eq_none (passes : c.Passes stack kind number)
    (answered : (c.look number).answer? = some answer) : verdict stack kind answer = none := by
  obtain ⟨-, passed, look, undecided⟩ := passes
  rw [look] at answered
  cases answered
  exact undecided

/-- After an answer that decides nothing, the wait is cancelled by the end of the pause unless the
round is passed. -/
theorem isCancelled_rounds_succ {interval : Nat} (passed : ∀ i < number, c.Passes stack kind i)
    (answered : (c.look number).answer? = some answer) (undecided : verdict stack kind answer = none) :
    (c.rounds stack interval (number + 1)).isCancelled = false ↔ c.Passes stack kind number := by
  rw [rounds_succ, WaitHistory.isCancelled_append, isCancelled_rounds passed, Passes]
  cases look : c.look number with
  | abandoned => simp [look, LookCourse.answer?] at answered
  | answeredLast other => simp [LookCourse.events]
  | answered other =>
      rw [look] at answered
      cases answered
      simp [LookCourse.events, undecided]

/-- A wait stops in a round: the rounds before are passed, and this one is not or it is the last. -/
structure Stops (c : Course) (policy : WaitPolicy) (stack : String) (kind : OperationKind)
    (number : Nat) : Prop where
  within : number < policy.attempts
  passed : ∀ i < number, c.Passes stack kind i
  last : c.Passes stack kind number → number + 1 = policy.attempts

/-- A wait does not stop before the round in which it stops. -/
theorem Stops.le (stops : c.Stops policy stack kind number)
    (later : c.Stops policy stack kind other) : other ≤ number := by
  refine Nat.le_of_not_lt fun less => ?_
  have last := stops.last (later.passed number less)
  have within := later.within
  omega

/-- There is one round in which a wait stops. -/
theorem Stops.unique (first : c.Stops policy stack kind number)
    (second : c.Stops policy stack kind other) : number = other :=
  Nat.le_antisymm (second.le first) (first.le second)

end Course

/-- The ways in which a wait that follows a course can go, with its result and its history. The
flag says whether it is cancelled before its first look. -/
inductive WaitRun (c : Course) (policy : WaitPolicy) (stack : String) (kind : OperationKind) :
    Bool → Except StackError WaitOutcome → WaitHistory → Prop
  /-- The wait is cancelled before its first look. -/
  | unstarted : WaitRun c policy stack kind true (.error (.cancelled stack 0)) [.cancelled]
  /-- The wait is cancelled before a look is answered. -/
  | abandoned {number : Nat} : c.Stops policy stack kind number → c.look number = .abandoned →
      WaitRun c policy stack kind false (.error (.cancelled stack number))
        (c.rounds stack policy.interval number ++ [.asked stack, .cancelled])
  /-- An answer decides the wait. -/
  | decided {number : Nat} {answer : LookAnswer} {result : Except StackError WaitOutcome} :
      c.Stops policy stack kind number → (c.look number).answer? = some answer →
      verdict stack kind answer = some result →
      WaitRun c policy stack kind false result
        (c.rounds stack policy.interval number ++ .asked stack :: (c.look number).events)
  /-- The last answer decides nothing either. -/
  | exhausted {number : Nat} {answer : LookAnswer} : c.Stops policy stack kind number →
      (c.look number).answer? = some answer → verdict stack kind answer = none →
      number + 1 = policy.attempts →
      WaitRun c policy stack kind false
        (.error (.timeout stack policy.attempts (lastStatus (c.answers policy.attempts))))
        (c.rounds stack policy.interval number ++ .asked stack :: (c.look number).events)
  /-- The wait is cancelled as an answer comes that decides nothing, or in the pause after it. -/
  | paused {number : Nat} {answer : LookAnswer} : c.Stops policy stack kind number →
      (c.look number).answer? = some answer → verdict stack kind answer = none →
      number + 1 ≠ policy.attempts →
      WaitRun c policy stack kind false (.error (.cancelled stack (number + 1)))
        (c.rounds stack policy.interval (number + 1))

namespace WaitRun

variable {c : Course} {policy : WaitPolicy} {stack : String} {kind : OperationKind} {number : Nat}
  {answer : LookAnswer} {result decision : Except StackError WaitOutcome} {h : WaitHistory}

/-- An answer that decides the round in which a wait stops decides the wait. -/
theorem eq_of_verdict (run : WaitRun c policy stack kind false result h)
    (stops : c.Stops policy stack kind number) (answered : (c.look number).answer? = some answer)
    (judged : verdict stack kind answer = some decision) :
    result = decision ∧
      h = c.rounds stack policy.interval number ++ .asked stack :: (c.look number).events := by
  cases run with
  | abandoned other look =>
      rw [stops.unique other, look] at answered
      cases answered
  | decided other answered' judged' =>
      cases stops.unique other
      cases answered.symm.trans answered'
      cases judged.symm.trans judged'
      exact ⟨rfl, rfl⟩
  | exhausted other answered' undecided last =>
      cases stops.unique other
      cases answered.symm.trans answered'
      cases judged.symm.trans undecided
  | paused other answered' undecided more =>
      cases stops.unique other
      cases answered.symm.trans answered'
      cases judged.symm.trans undecided

/-- A wait whose last round is passed is exhausted. -/
theorem eq_of_passes_last (run : WaitRun c policy stack kind false result h)
    (stops : c.Stops policy stack kind number) (passes : c.Passes stack kind number) :
    result = .error (.timeout stack policy.attempts (lastStatus (c.answers policy.attempts))) ∧
      h = c.rounds stack policy.interval number ++ .asked stack :: (c.look number).events := by
  cases run with
  | abandoned other look =>
      cases stops.unique other
      exact absurd look passes.ne_abandoned
  | decided other answered judged =>
      cases stops.unique other
      cases judged.symm.trans (passes.verdict_eq_none answered)
  | exhausted other answered undecided last =>
      cases stops.unique other
      exact ⟨rfl, rfl⟩
  | paused other answered undecided more =>
      cases stops.unique other
      exact absurd (stops.last passes) more

/-- An answer that decides nothing before the last round, but not in peace, cancels the wait. -/
theorem eq_of_undecided (run : WaitRun c policy stack kind false result h)
    (stops : c.Stops policy stack kind number) (answered : (c.look number).answer? = some answer)
    (undecided : verdict stack kind answer = none) (more : number + 1 ≠ policy.attempts) :
    result = .error (.cancelled stack (number + 1)) ∧
      h = c.rounds stack policy.interval (number + 1) := by
  cases run with
  | abandoned other look =>
      rw [stops.unique other, look] at answered
      cases answered
  | decided other answered' judged =>
      cases stops.unique other
      cases answered.symm.trans answered'
      cases judged.symm.trans undecided
  | exhausted other answered' undecided' last =>
      cases stops.unique other
      exact absurd last more
  | paused other answered' undecided' more' =>
      cases stops.unique other
      exact ⟨rfl, rfl⟩

end WaitRun

namespace Watch.Follows

variable {σ : Type} {w : Watch (StateM σ)} {c : Course} {describes : σ → WaitHistory → Prop}
  {policy : WaitPolicy} {stack : String} {kind : OperationKind}

/-- A round of a wait ends the wait in one of the ways of the list, or it is passed and the wait
goes on, unless it was the last. -/
private theorem round_run (follows : w.Follows c describes) {remaining number : Nat} {s : σ}
    (budget : number + (remaining + 1) = policy.attempts)
    (passed : ∀ i < number, c.Passes stack kind i)
    (described : describes s (c.rounds stack policy.interval number)) :
    let run := w.waitWithin policy.interval stack kind (remaining + 1) number
      (lastStatus (c.answers number)) s
    (∃ h, describes run.2 h ∧ WaitRun c policy stack kind false run.1 h) ∨
      remaining ≠ 0 ∧ c.Passes stack kind number ∧
        ∃ later, describes later (c.rounds stack policy.interval (number + 1)) ∧
          run = w.waitWithin policy.interval stack kind remaining (number + 1)
            (lastStatus (c.answers (number + 1))) later := by
  have quiet : (c.rounds stack policy.interval number).isCancelled = false :=
    Course.isCancelled_rounds passed
  have stopped (last : c.Passes stack kind number → number + 1 = policy.attempts) :
      c.Stops policy stack kind number := ⟨by omega, passed, last⟩
  obtain ⟨answered, looked⟩ := follows.look stack described quiet
  rw [Course.looks_rounds] at answered looked
  dsimp only
  rw [Watch.waitWithin_succ, follows.isCancelled described, quiet, if_neg Bool.false_ne_true]
  dsimp only
  generalize w.look stack s = run at answered looked ⊢
  obtain ⟨_ | answer, after⟩ := run
  · have look := LookCourse.eq_abandoned_of_answer? answered.symm
    have stops := stopped fun passes => absurd look passes.ne_abandoned
    rw [look] at looked
    exact Or.inl ⟨_, looked, .abandoned stops look⟩
  · dsimp only at answered looked ⊢
    cases judged : verdict stack kind answer with
    | some result =>
        have stops := stopped fun passes => by
          cases judged.symm.trans (passes.verdict_eq_none answered.symm)
        exact Or.inl ⟨_, looked, .decided stops answered.symm judged⟩
    | none =>
        have noted := Course.answers_succ answered.symm
        dsimp only
        rw [← lastStatus_concat, ← noted]
        by_cases final : remaining = 0
        · have last : number + 1 = policy.attempts := by omega
          rw [if_pos final, last]
          exact Or.inl ⟨_, looked, .exhausted (stopped fun _ => last) answered.symm judged last⟩
        · rw [if_neg final]
          obtain ⟨cancels, paused⟩ := follows.pause policy.interval looked
          have pauses : (WaitHistory.pauses (c.rounds stack policy.interval number ++
              .asked stack :: (c.look number).events)).length = number := by
            simp
          rw [pauses, List.append_assoc, List.cons_append, ← List.cons_append,
            ← Course.rounds_succ] at cancels paused
          rw [cancels]
          have cancelled : (c.rounds stack policy.interval (number + 1)).isCancelled = false ↔
              c.Passes stack kind number :=
            Course.isCancelled_rounds_succ passed answered.symm judged
          by_cases passes : c.Passes stack kind number
          · rw [cancelled.2 passes, if_neg Bool.false_ne_true]
            exact Or.inr ⟨final, passes, _, paused, rfl⟩
          · rw [eq_true_of_ne_false (mt cancelled.1 passes), if_pos rfl]
            have stops := stopped fun passed => absurd passed passes
            have more : number + 1 ≠ policy.attempts := by omega
            exact Or.inl ⟨_, paused, .paused stops answered.symm judged more⟩

/-- A wait that has passed some rounds goes on in one of the ways of the list. -/
private theorem waitWithin_run (follows : w.Follows c describes) {remaining number : Nat} {s : σ}
    (budget : number + (remaining + 1) = policy.attempts)
    (passed : ∀ i < number, c.Passes stack kind i)
    (described : describes s (c.rounds stack policy.interval number)) :
    let run := w.waitWithin policy.interval stack kind (remaining + 1) number
      (lastStatus (c.answers number)) s
    ∃ h, describes run.2 h ∧ WaitRun c policy stack kind false run.1 h := by
  induction remaining generalizing number s with
  | zero =>
      rcases follows.round_run budget passed described with ended | ⟨more, -, -⟩
      · exact ended
      · exact absurd rfl more
  | succ remaining ih =>
      rcases follows.round_run budget passed described with ended | ⟨-, passes, later, goes, same⟩
      · exact ended
      · dsimp only
        rw [same]
        refine ih (by omega) (fun i less => ?_) goes
        rcases Nat.lt_succ_iff_lt_or_eq.1 less with before | rfl
        · exact passed i before
        · exact passes

/-- Every wait that follows a course goes in one of the ways of the list. -/
theorem waitFor_run (follows : w.Follows c describes) (policy : WaitPolicy) (stack : String)
    (kind : OperationKind) {s : σ} {cancelled : Bool}
    (described : describes s (WaitHistory.start cancelled)) :
    let run := w.waitFor policy stack kind s
    ∃ h, describes run.2 h ∧ WaitRun c policy stack kind cancelled run.1 h := by
  obtain ⟨remaining, attempts⟩ : ∃ remaining, policy.attempts = remaining + 1 :=
    Nat.exists_eq_succ_of_ne_zero (by unfold WaitPolicy.attempts; omega)
  dsimp only [Watch.waitFor]
  rw [attempts]
  cases cancelled with
  | true =>
      rw [Watch.waitWithin_succ, follows.isCancelled described]
      exact ⟨_, described, .unstarted⟩
  | false =>
      exact follows.waitWithin_run (by omega) (fun i less => absurd less (Nat.not_lt_zero i))
        described

end Watch.Follows

end StackDeploy
