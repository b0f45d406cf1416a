/-
# Waiting for a stack

After an operation has been started the stack is looked at until it shows an end, a number of times
at most, with a pause after every look but the last. Both a look and a pause end early when the wait
is cancelled. A look that is over is always judged, even if the wait is cancelled right after it.
-/

import StackDeploy.Stack.ControlPlane

namespace StackDeploy

/-- How a wait ends well. -/
inductive WaitOutcome where
  /-- The stack reached the status of success. -/
  | reached (stack : Stack)
  /-- The stack is gone; only a deletion ends so. -/
  | gone
deriving DecidableEq

/-- What a look at a stack tells about an operation. -/
inductive PollDecision where
  | done (outcome : WaitOutcome)
  | fail (error : StackError)
  | goOn
deriving DecidableEq

/-- Judges a look at a stack. A stack that is not there is gone if it is to be deleted, and not to
be seen yet otherwise. -/
def classify (stack : String) (kind : OperationKind) : Option Stack → PollDecision
  | none => if kind = .delete then .done .gone else .goOn
  | some seen =>
    if kind.isSuccess seen.status then .done (.reached seen)
    else if seen.status = .deleteFailed then .fail (.deleteFailed stack seen.statusReason)
    else if kind.isFailure seen.status then
      .fail (.deploymentFailure stack seen.status seen.statusReason)
    else .goOn

/-- How a waiter looks and pauses, and learns that the wait is cancelled. -/
structure Watch (m : Type → Type) where
  /-- Whether the wait has been cancelled. -/
  isCancelled : m Bool
  /-- Looks at a stack; absent if the wait is cancelled before the answer is there. -/
  look : String → m (Option (Except StackError (Option Stack)))
  /-- Pauses for some seconds; tells whether the wait was cancelled meanwhile. -/
  pause : Nat → m Bool

/-- How patient a wait is: the seconds between two looks, and the greatest number of looks. -/
structure WaitPolicy where
  interval : Nat
  maxAttempts : Nat
deriving DecidableEq

namespace WaitPolicy

/-- The patience of a wait that states none. -/
def default : WaitPolicy := ⟨5, 120⟩

/-- The number of looks; there is always one. -/
def attempts (p : WaitPolicy) : Nat := max 1 p.maxAttempts

end WaitPolicy

namespace Watch

variable {m : Type → Type} [Monad m]

/-- Looks at a stack at most as often as the first number says, after some looks that are over; the
last status that was seen is carried along. -/
def waitWithin (w : Watch m) (interval : Nat) (stack : String) (kind : OperationKind) :
    Nat → Nat → Option StackStatus → m (Except StackError WaitOutcome)
  | 0, completed, last => pure (.error (.timeout stack completed last))
  | remaining + 1, completed, last => do
    if ← w.isCancelled then
      pure (.error (.cancelled stack completed))
    else
      match ← w.look stack with
      | none => pure (.error (.cancelled stack completed))
      | some (.error cause) => pure (.error cause)
      | some (.ok observed) =>
        let last := (observed.map Stack.status).or last
        match classify stack kind observed with
        | .done outcome => pure (.ok outcome)
        | .fail cause => pure (.error cause)
        | .goOn =>
          if remaining = 0 then
            pure (.error (.timeout stack (completed + 1) last))
          else if ← w.pause interval then
            pure (.error (.cancelled stack (completed + 1)))
          else
            waitWithin w interval stack kind remaining (completed + 1) last

/-- Waits for an operation on a stack to end. -/
def waitFor (w : Watch m) (policy : WaitPolicy) (stack : String) (kind : OperationKind) :
    m (Except StackError WaitOutcome) :=
  w.waitWithin policy.interval stack kind policy.attempts 0 none

end Watch

end StackDeploy
