/-
# Rehearsals

A deployment can be rehearsed against a script: the answers of the control plane are laid out
beforehand, every call and every pause is recorded, and the script says when the wait is cancelled.
A pause takes no time; it may be the one in which the wait is cancelled, or one that would never
end, and a look may be one that would never end. What would never end lasts until the wait is
cancelled.
-/

import StackDeploy.Deployment.Deploy

namespace StackDeploy

/-- A call of the control plane. -/
inductive PlaneCall where
  | describe (stack : String)
  | getTemplate (stack : String)
  | create (request : StackRequest)
  | update (request : StackRequest)
  | delete (stack : String) (retain : List String)
deriving DecidableEq

/-- The answers that are laid out, and when the wait is cancelled. -/
structure Script where
  describes : List (Except StackError (Option Stack))
  creates : List (Except StackError String)
  updates : List (Except StackError UpdateOutcome)
  deletes : List (Except StackError Unit)
  templates : List (Except StackError (Option String))
  /-- The wait is cancelled in every pause from this one on. -/
  cancelAfter : Option Nat
  /-- Pauses never end. -/
  stallsPauses : Bool
  /-- The look that never ends. -/
  stallAt : Option Nat

/-- The script without answers, in which nothing is cancelled. -/
def Script.empty : Script := ⟨[], [], [], [], [], none, false, none⟩

/-- A rehearsal under way: what is left of the script and what has happened. -/
structure Rehearsal where
  script : Script
  calls : List PlaneCall
  pauses : List Nat
  looks : Nat
  cancelled : Bool

/-- The rehearsal of a script before anything has happened. -/
def Rehearsal.start (script : Script) (cancelled : Bool) : Rehearsal :=
  ⟨script, [], [], 0, cancelled⟩

/-- An action of a rehearsal. -/
abbrev Rehearsing := StateM Rehearsal

namespace Rehearsal

/-- Takes the next answer of a row, if there is one. -/
def next {α : Type} (fallback : α) : List α → α × List α
  | [] => (fallback, [])
  | answer :: rest => (answer, rest)

/-- Records a call. -/
def record (call : PlaneCall) (r : Rehearsal) : Rehearsal :=
  { r with calls := r.calls ++ [call] }

/-- Records a look at a stack. -/
def recordLook (stack : String) (r : Rehearsal) : Rehearsal :=
  { r.record (.describe stack) with looks := r.looks + 1 }

/-- The answer to a look when none is left. -/
def noAnswer : Except StackError (Option Stack) :=
  .error (.invalidResponse (.reported "no scripted describe response available"))

/-- Takes the answer to a look. -/
def answerLook (r : Rehearsal) : Except StackError (Option Stack) × Rehearsal :=
  let (answer, rest) := next noAnswer r.script.describes
  (answer, { r with script := { r.script with describes := rest } })

/-- Looks at a stack. -/
def describe (stack : String) : Rehearsing (Except StackError (Option Stack)) :=
  fun r => (r.recordLook stack).answerLook

/-- Asks for a template; there is none unless the script has one. -/
def getTemplate (stack : String) : Rehearsing (Except StackError (Option String)) :=
  fun r =>
    let (answer, rest) := next (.ok none) r.script.templates
    (answer, { r.record (.getTemplate stack) with script := { r.script with templates := rest } })

/-- Creates a stack; an identifier is made up if the script has none. -/
def create (request : StackRequest) : Rehearsing (Except StackError String) :=
  fun r =>
    let (answer, rest) := next (.ok ("scripted/" ++ request.stack)) r.script.creates
    (answer, { r.record (.create request) with script := { r.script with creates := rest } })

/-- Updates a stack; it succeeds unless the script says otherwise. -/
def update (request : StackRequest) : Rehearsing (Except StackError UpdateOutcome) :=
  fun r =>
    let (answer, rest) := next (.ok .started) r.script.updates
    (answer, { r.record (.update request) with script := { r.script with updates := rest } })

/-- Deletes a stack; it succeeds unless the script says otherwise. -/
def delete (stack : String) (retain : List String) : Rehearsing (Except StackError Unit) :=
  fun r =>
    let (answer, rest) := next (.ok ()) r.script.deletes
    (answer, { r.record (.delete stack retain) with script := { r.script with deletes := rest } })

/-- The control plane of the script. -/
def plane : ControlPlane Rehearsing :=
  { create, update, delete, describe, getTemplate }

/-- Looks at a stack while the wait may be cancelled. -/
def look (stack : String) : Rehearsing (Option (Except StackError (Option Stack))) :=
  fun r =>
    let recorded := r.recordLook stack
    if r.script.stallAt = some recorded.looks then (none, { recorded with cancelled := true })
    else
      let (answer, after) := recorded.answerLook
      (some answer, after)

/-- Pauses while the wait may be cancelled. -/
def pause (seconds : Nat) : Rehearsing Bool :=
  fun r =>
    let pauses := r.pauses ++ [seconds]
    let cancels := r.script.cancelAfter.any (· ≤ pauses.length)
    let cancelled := r.cancelled || cancels || r.script.stallsPauses
    (cancelled, { r with pauses, cancelled })

/-- Looks and pauses by the script. -/
def watch : Watch Rehearsing where
  isCancelled := fun r => (r.cancelled, r)
  look := look
  pause := pause

/-- The deployer of the script. -/
def deployer (policy : WaitPolicy) : Deployer Rehearsing :=
  ⟨plane, watch, policy⟩

end Rehearsal

end StackDeploy
