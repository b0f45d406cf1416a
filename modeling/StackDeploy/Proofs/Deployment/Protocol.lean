/-
# The protocol of a deployment

A deployment with an invalid template calls nothing. Any other keeps to one order of calls: it looks
at the stack, asks for the template at most once, submits at most once, and then only looks. The
first look settles whether it asks and what it may submit; a call that fails is the last one, so
only what was accepted is waited for.

The list of the ways in which a deployment can go is first reduced to the three stages that it can
get to. The clauses of the protocol are then read off the stages one by one.
-/

import StackDeploy.Proofs.Deployment.Calls

namespace StackDeploy

namespace PlaneCall

/-- The stack that a call names. -/
def stack : PlaneCall → String
  | describe stack | getTemplate stack | delete stack _ => stack
  | create request | update request => request.stack

/-- Whether a call is a look. -/
def isLook : PlaneCall → Bool
  | describe _ => true
  | _ => false

theorem isLook_describe (stack : String) : (describe stack).isLook = true := rfl

end PlaneCall

namespace Script

/-- A submission is accepted: the creation is, or the update is started. -/
inductive Accepts (s : Script) : PlaneCall → Prop
  | create {request : StackRequest} {stackId : String} :
      s.firstCreate request = .ok stackId → s.Accepts (.create request)
  | update {request : StackRequest} : s.firstUpdate = .ok .started → s.Accepts (.update request)

/-- The first look shows a stack whose creation did not fail. -/
def ShowsUsable (s : Script) : Prop :=
  ∃ seen, s.firstLook = .ok (some seen) ∧ seen.status ≠ .rollbackComplete ∧
    seen.status ≠ .rollbackFailed

end Script

/-- The order of the calls of a deployment: a look, perhaps the question for the template, perhaps
a submission, and after one that is accepted some looks. -/
structure CallOrder (policy : WaitPolicy) (script : Script) (stack : String)
    (fetches submissions : List PlaneCall) (looks : Nat) : Prop where
  fetched : fetches = [] ∨ fetches = [.getTemplate stack]
  submitted : submissions = [] ∨ ∃ call, submissions = [call] ∧ call.IsSubmission
  bound : looks ≤ max 1 policy.maxAttempts
  accepted : 0 < looks → ∃ call ∈ submissions, script.Accepts call

/-- The calls of a deployment keep to its protocol. -/
structure KeepsProtocol (policy : WaitPolicy) (script : Script) (stack : String)
    (options : DeployOptions) (calls : List PlaneCall) : Prop where
  /-- The calls come in order, and a wait follows only what was accepted. -/
  order : ∃ fetches submissions looks, CallOrder policy script stack fetches submissions looks ∧
    calls = .describe stack :: (fetches ++ submissions ++ List.replicate looks (.describe stack))
  /-- The template is asked for if there is one and no revision to compare with is given. -/
  fetches_iff : .getTemplate stack ∈ calls ↔ script.ShowsUsable ∧ options.previous = none
  creates : ∀ request, .create request ∈ calls → script.firstLook = .ok none
  updates : ∀ request, .update request ∈ calls → script.ShowsUsable
  /-- Nothing follows a look that fails. -/
  failed_look : ∀ earlier later name cause, calls = earlier ++ .describe name :: later →
    script.lookAt (earlier.countP PlaneCall.isLook) = .error cause → later = []
  /-- Nothing follows a question for the template that fails. -/
  failed_fetch : ∀ earlier later name cause, calls = earlier ++ .getTemplate name :: later →
    script.firstTemplate = .error cause → later = []
  names : ∀ call ∈ calls, call.stack = stack

theorem failedCreation?_eq_none_iff {seen : Stack} :
    failedCreation? (some seen) = none ↔
      seen.status ≠ .rollbackComplete ∧ seen.status ≠ .rollbackFailed := by
  simp [failedCreation?, failedCreationStatuses]

theorem DeployOptions.stack_of_plan_eq_submit {options : DeployOptions} {stack : String}
    {stackExists : Bool} {baseline proposed : Template} {request : StackRequest}
    (planned : options.plan stack stackExists baseline proposed = .ok (.submit request)) :
    request.stack = stack := by
  unfold plan at planned
  split at planned
  · cases planned
  · split at planned
    · cases planned
    · cases planned
      rfl

/-- What follows the opening calls of a deployment: at most one submission, and the looks of a wait
after one that is accepted. -/
structure Closing (policy : WaitPolicy) (script : Script) (stack : String)
    (existing : Option Stack) (submissions : List PlaneCall) (looks : Nat) : Prop where
  submitted : submissions = [] ∨ ∃ request : StackRequest, request.stack = stack ∧
    (submissions = [.create request] ∧ existing = none ∨
      submissions = [.update request] ∧ existing ≠ none)
  allowed : script.AllowsLooks policy looks
  accepted : 0 < looks → ∃ call ∈ submissions, script.Accepts call

/-- The stages that a deployment with a valid template gets to. -/
inductive Stage (policy : WaitPolicy) (script : Script) (stack : String) (proposed : Template)
    (options : DeployOptions) : List PlaneCall → Prop
  /-- There is no look to go on from. -/
  | halted : (∀ existing, script.firstLook = .ok existing → failedCreation? existing ≠ none) →
      Stage policy script stack proposed options [.describe stack]
  /-- There is no template to compare with. -/
  | unfetched {cause : StackError} : script.ShowsUsable → options.previous = none →
      script.firstTemplate = .error cause →
      Stage policy script stack proposed options [.describe stack, .getTemplate stack]
  /-- There is a plan, or its refusal. -/
  | planned {existing : Option Stack} {submissions : List PlaneCall} {looks : Nat} :
      ReachesPlan script proposed options existing →
      Closing policy script stack existing submissions looks →
      Stage policy script stack proposed options
        (openingCalls stack existing options ++
          (submissions ++ List.replicate looks (.describe stack)))

section

variable {policy : WaitPolicy} {script : Script} {stack : String} {proposed : Template}
  {options : DeployOptions} {calls : List PlaneCall}

theorem Script.AllowsLooks.none : script.AllowsLooks policy 0 :=
  ⟨Nat.zero_le _, fun _ _ less => absurd less (Nat.not_lt_zero _)⟩

namespace Closing

theorem none (existing : Option Stack) : Closing policy script stack existing [] 0 :=
  ⟨Or.inl rfl, .none, fun positive => absurd positive (Nat.lt_irrefl 0)⟩

theorem update {seen : Stack} {request : StackRequest} {looks : Nat}
    (named : request.stack = stack) (allowed : script.AllowsLooks policy looks)
    (started : 0 < looks → script.firstUpdate = .ok .started) :
    Closing policy script stack (some seen) [.update request] looks :=
  ⟨Or.inr ⟨request, named, Or.inr ⟨rfl, Option.some_ne_none seen⟩⟩, allowed,
    fun positive => ⟨_, List.mem_cons_self, .update (started positive)⟩⟩

theorem create {request : StackRequest} {looks : Nat}
    (named : request.stack = stack) (allowed : script.AllowsLooks policy looks)
    (started : 0 < looks → ∃ stackId, script.firstCreate request = .ok stackId) :
    Closing policy script stack Option.none [.create request] looks :=
  ⟨Or.inr ⟨request, named, Or.inl ⟨rfl, rfl⟩⟩, allowed,
    fun positive => ⟨_, List.mem_cons_self, .create (started positive).choose_spec⟩⟩

end Closing

namespace DeployRun

variable {result : Except DeployError DeployReport}

theorem eq_nil (run : DeployRun policy script stack proposed options result calls)
    {cause : TemplateError} (refused : proposed.validateReferences = .error cause) : calls = [] := by
  cases run with
  | invalid => rfl
  | unseen valid => cases refused.symm.trans valid
  | unusable valid => cases refused.symm.trans valid
  | unfetched valid => cases refused.symm.trans valid
  | refused reached => cases refused.symm.trans reached.valid
  | kept reached => cases refused.symm.trans reached.valid
  | notUpdated reached => cases refused.symm.trans reached.valid
  | notChanged reached => cases refused.symm.trans reached.valid
  | updated reached => cases refused.symm.trans reached.valid
  | notCreated reached => cases refused.symm.trans reached.valid
  | created reached => cases refused.symm.trans reached.valid

/-- A deployment with a valid template gets to one of the stages. -/
theorem stage (run : DeployRun policy script stack proposed options result calls)
    (valid : proposed.validateReferences = .ok ()) :
    Stage policy script stack proposed options calls := by
  cases run with
  | invalid refused => cases valid.symm.trans refused
  | unseen _ look => exact .halted fun existing seen => by cases look.symm.trans seen
  | unusable _ look unusable =>
      refine .halted fun existing seen => ?_
      cases look.symm.trans seen
      rw [unusable]
      exact Option.some_ne_none _
  | unfetched _ look usable missing fetched =>
      exact .unfetched ⟨_, look, failedCreation?_eq_none_iff.1 usable⟩ missing fetched
  | refused reached planned => simpa using Stage.planned reached (.none _)
  | kept reached planned => simpa using Stage.planned reached (.none _)
  | notUpdated reached planned =>
      exact .planned reached (.update (DeployOptions.stack_of_plan_eq_submit planned) .none nofun)
  | notChanged reached planned =>
      exact .planned reached (.update (DeployOptions.stack_of_plan_eq_submit planned) .none nofun)
  | updated reached planned started allowed settled =>
      exact .planned reached
        (.update (DeployOptions.stack_of_plan_eq_submit planned) allowed fun _ => started)
  | notCreated reached planned =>
      exact .planned reached (.create (DeployOptions.stack_of_plan_eq_submit planned) .none nofun)
  | created reached planned started allowed settled =>
      exact .planned reached
        (.create (DeployOptions.stack_of_plan_eq_submit planned) allowed fun _ => ⟨_, started⟩)

end DeployRun

theorem exists_openingCalls (stack : String) (existing : Option Stack) (options : DeployOptions) :
    ∃ fetches, (fetches = [] ∨ fetches = [.getTemplate stack]) ∧
      openingCalls stack existing options = .describe stack :: fetches := by
  unfold openingCalls
  split
  · exact ⟨_, Or.inr rfl, rfl⟩
  · exact ⟨_, Or.inl rfl, rfl⟩

theorem mem_openingCalls {existing : Option Stack} {call : PlaneCall} :
    call ∈ openingCalls stack existing options ↔ call = .describe stack ∨
      call = .getTemplate stack ∧ options.previous = none ∧ existing ≠ none := by
  unfold openingCalls
  cases options.previous <;> cases existing <;> simp

theorem ReachesPlan.showsUsable_iff {existing : Option Stack}
    (reached : ReachesPlan script proposed options existing) :
    script.ShowsUsable ↔ existing ≠ none := by
  constructor
  · rintro ⟨seen, look, -⟩
    cases reached.seen.symm.trans look
    exact Option.some_ne_none seen
  · intro there
    obtain ⟨seen, rfl⟩ := Option.ne_none_iff_exists'.1 there
    exact ⟨seen, reached.seen, failedCreation?_eq_none_iff.1 reached.usable⟩

namespace Closing

variable {existing : Option Stack} {fetches submissions : List PlaneCall} {looks : Nat}

theorem order (closing : Closing policy script stack existing submissions looks)
    (fetched : fetches = [] ∨ fetches = [.getTemplate stack]) :
    CallOrder policy script stack fetches submissions looks where
  fetched := fetched
  submitted := by
    rcases closing.submitted with same | ⟨request, -, ⟨same, -⟩ | ⟨same, -⟩⟩
    · exact Or.inl same
    · exact Or.inr ⟨_, same, trivial⟩
    · exact Or.inr ⟨_, same, trivial⟩
  bound := closing.allowed.bound
  accepted := closing.accepted

/-- A call after the opening is a look at the stack, the creation of one that is not there, or the
update of one that is. -/
theorem cases_of_mem (closing : Closing policy script stack existing submissions looks)
    {call : PlaneCall} (mem : call ∈ submissions ++ List.replicate looks (.describe stack)) :
    call = .describe stack ∨ ∃ request : StackRequest, request.stack = stack ∧
      (call = .create request ∧ existing = Option.none ∨
        call = .update request ∧ existing ≠ Option.none) := by
  rcases List.mem_append.1 mem with submission | look
  · rcases closing.submitted with rfl | ⟨request, named, ⟨rfl, absent⟩ | ⟨rfl, there⟩⟩
    · cases submission
    · exact Or.inr ⟨request, named, Or.inl ⟨List.mem_singleton.1 submission, absent⟩⟩
    · exact Or.inr ⟨request, named, Or.inr ⟨List.mem_singleton.1 submission, there⟩⟩
  · exact Or.inl (List.eq_of_mem_replicate look)

end Closing

namespace Stage

theorem order (stage : Stage policy script stack proposed options calls) :
    ∃ fetches submissions looks, CallOrder policy script stack fetches submissions looks ∧
      calls = .describe stack :: (fetches ++ submissions ++ List.replicate looks (.describe stack)) := by
  cases stage with
  | halted unusable => exact ⟨[], [], 0, (Closing.none none).order (Or.inl rfl), rfl⟩
  | unfetched usable missing fetched =>
      exact ⟨[.getTemplate stack], [], 0, (Closing.none none).order (Or.inr rfl), rfl⟩
  | @planned existing submissions looks reached closing =>
      obtain ⟨fetches, fetched, opening⟩ := exists_openingCalls stack existing options
      refine ⟨fetches, submissions, looks, closing.order fetched, ?_⟩
      rw [opening, List.cons_append, List.append_assoc]

/-- Each call of a stage is a look, the question for the template, the creation of a stack that is
not there, or the update of one that is, and each names the stack. -/
theorem cases_of_mem (stage : Stage policy script stack proposed options calls) {call : PlaneCall}
    (mem : call ∈ calls) :
    call = .describe stack ∨ call = .getTemplate stack ∨ ∃ request : StackRequest,
      request.stack = stack ∧ (call = .create request ∧ script.firstLook = .ok none ∨
        call = .update request ∧ script.ShowsUsable) := by
  cases stage with
  | halted unusable => exact Or.inl (List.mem_singleton.1 mem)
  | unfetched usable missing fetched =>
      rcases List.mem_cons.1 mem with look | question
      · exact Or.inl look
      · exact Or.inr (Or.inl (List.mem_singleton.1 question))
  | @planned existing submissions looks reached closing =>
      rcases List.mem_append.1 mem with opening | later
      · rcases mem_openingCalls.1 opening with look | ⟨question, -⟩
        · exact Or.inl look
        · exact Or.inr (Or.inl question)
      · rcases closing.cases_of_mem later with look | ⟨request, named, ⟨same, absent⟩ | ⟨same, there⟩⟩
        · exact Or.inl look
        · exact Or.inr (Or.inr ⟨request, named, Or.inl ⟨same, absent ▸ reached.seen⟩⟩)
        · exact Or.inr (Or.inr ⟨request, named, Or.inr ⟨same, reached.showsUsable_iff.2 there⟩⟩)

theorem names (stage : Stage policy script stack proposed options calls) {call : PlaneCall}
    (mem : call ∈ calls) : call.stack = stack := by
  rcases stage.cases_of_mem mem with rfl | rfl | ⟨request, named, ⟨rfl, -⟩ | ⟨rfl, -⟩⟩
  · rfl
  · rfl
  · exact named
  · exact named

theorem creates (stage : Stage policy script stack proposed options calls) {request : StackRequest}
    (mem : .create request ∈ calls) : script.firstLook = .ok none := by
  rcases stage.cases_of_mem mem with same | same | ⟨_, -, ⟨-, absent⟩ | ⟨same, -⟩⟩
  · cases same
  · cases same
  · exact absent
  · cases same

theorem updates (stage : Stage policy script stack proposed options calls) {request : StackRequest}
    (mem : .update request ∈ calls) : script.ShowsUsable := by
  rcases stage.cases_of_mem mem with same | same | ⟨_, -, ⟨same, -⟩ | ⟨-, usable⟩⟩
  · cases same
  · cases same
  · cases same
  · exact usable

theorem fetches_iff (stage : Stage policy script stack proposed options calls) :
    .getTemplate stack ∈ calls ↔ script.ShowsUsable ∧ options.previous = none := by
  cases stage with
  | halted unusable =>
      refine iff_of_false (by simp) ?_
      rintro ⟨⟨seen, look, fine⟩, -⟩
      exact unusable _ look (failedCreation?_eq_none_iff.2 fine)
  | unfetched usable missing fetched => exact iff_of_true (by simp) ⟨usable, missing⟩
  | @planned existing submissions looks reached closing =>
      have later : .getTemplate stack ∉ submissions ++ List.replicate looks (.describe stack) := by
        intro mem
        rcases closing.cases_of_mem mem with same | ⟨request, -, ⟨same, -⟩ | ⟨same, -⟩⟩ <;> cases same
      rw [List.mem_append, or_iff_left later, mem_openingCalls, reached.showsUsable_iff]
      simp [and_comm]

/-- The looks of a stage are its first call and those at its end, and all but the last of them are
answered, unless there is only one. -/
theorem answered (stage : Stage policy script stack proposed options calls) :
    calls = [.describe stack] ∨ ∃ front looks, calls = front ++ List.replicate looks (.describe stack) ∧
      front.countP PlaneCall.isLook = 1 ∧
        ∀ number, number = 0 ∨ number < looks → ∃ observed, script.lookAt number = .ok observed := by
  have answered {looks : Nat} {existing : Option Stack} (look : script.firstLook = .ok existing)
      (allowed : script.AllowsLooks policy looks) (number : Nat)
      (within : number = 0 ∨ number < looks) : ∃ observed, script.lookAt number = .ok observed := by
    cases number with
    | zero => exact ⟨existing, script.lookAt_zero.trans look⟩
    | succ number => exact allowed.answered _ (Nat.succ_pos _) (within.resolve_left nofun)
  cases stage with
  | halted unusable => exact Or.inl rfl
  | unfetched usable missing fetched =>
      obtain ⟨seen, look, -⟩ := usable
      exact Or.inr ⟨[.describe stack, .getTemplate stack], 0, rfl, rfl, answered look .none⟩
  | @planned existing submissions looks reached closing =>
      refine Or.inr ⟨openingCalls stack existing options ++ submissions, looks,
        (List.append_assoc _ _ _).symm, ?_, answered reached.seen closing.allowed⟩
      obtain ⟨fetches, fetched, opening⟩ := exists_openingCalls stack existing options
      rw [opening]
      rcases fetched with rfl | rfl <;>
        rcases closing.submitted with rfl | ⟨request, -, ⟨rfl, -⟩ | ⟨rfl, -⟩⟩ <;> rfl

/-- Nothing comes after the last look of a row at the end. -/
private theorem eq_nil_of_last_look {front earlier later : List PlaneCall} {name : String}
    {looks : Nat}
    (same : front ++ List.replicate looks (.describe stack) = earlier ++ .describe name :: later)
    (single : front.countP PlaneCall.isLook = 1) (positive : earlier.countP PlaneCall.isLook ≠ 0)
    (last : looks ≤ earlier.countP PlaneCall.isLook) : later = [] := by
  have total : 1 + looks = earlier.countP PlaneCall.isLook + (later.countP PlaneCall.isLook + 1) := by
    have counts := congrArg (List.countP PlaneCall.isLook) same
    rwa [List.countP_append, single, List.countP_append, List.countP_replicate,
      if_pos (PlaneCall.isLook_describe stack),
      List.countP_cons_of_pos (PlaneCall.isLook_describe name)] at counts
  have some_look : looks ≠ 0 := by omega
  obtain ⟨before, rfl⟩ := Nat.exists_eq_succ_of_ne_zero some_look
  rcases List.eq_nil_or_concat later with none | ⟨middle, call, rfl⟩
  · exact none
  · rw [List.replicate_succ', ← List.append_assoc, List.concat_eq_append, ← List.cons_append,
      ← List.append_assoc] at same
    obtain ⟨-, final⟩ := List.append_inj' same rfl
    cases final
    rw [List.concat_eq_append, List.countP_append,
      List.countP_cons_of_pos (PlaneCall.isLook_describe stack)] at total
    omega

/-- Only the last look of a stage can fail. -/
theorem failed_look (stage : Stage policy script stack proposed options calls)
    {earlier later : List PlaneCall} {name : String} {cause : StackError}
    (same : calls = earlier ++ .describe name :: later)
    (failed : script.lookAt (earlier.countP PlaneCall.isLook) = .error cause) : later = [] := by
  rcases stage.answered with rfl | ⟨front, looks, rfl, single, answered⟩
  · cases earlier with
    | nil =>
        cases same
        rfl
    | cons call rest => simp at same
  · have unanswered : ¬(earlier.countP PlaneCall.isLook = 0 ∨
        earlier.countP PlaneCall.isLook < looks) := fun within => by
      obtain ⟨observed, ok⟩ := answered _ within
      cases failed.symm.trans ok
    exact eq_nil_of_last_look same single (fun zero => unanswered (Or.inl zero))
      (Nat.le_of_not_lt fun less => unanswered (Or.inr less))

/-- The question for the template is the last call of a stage if it fails. -/
theorem failed_fetch (stage : Stage policy script stack proposed options calls)
    {earlier later : List PlaneCall} {name : String} {cause : StackError}
    (same : calls = earlier ++ .getTemplate name :: later)
    (failed : script.firstTemplate = .error cause) : later = [] := by
  have mem : .getTemplate name ∈ calls := same ▸ List.mem_append_right _ List.mem_cons_self
  cases (stage.names mem : name = stack)
  obtain ⟨usable, missing⟩ := stage.fetches_iff.1 mem
  cases stage with
  | halted unusable => simp at mem
  | unfetched _ _ fetched =>
      rcases earlier with _ | ⟨look, _ | ⟨call, rest⟩⟩
      · cases same
      · cases same
        rfl
      · simp at same
  | planned reached closing =>
      obtain ⟨seen, rfl⟩ := Option.ne_none_iff_exists'.1 (reached.showsUsable_iff.1 usable)
      obtain ⟨body, answered⟩ := reached.fetched missing seen rfl
      cases failed.symm.trans answered

end Stage

end

/-- The protocol of deployments. A deployment with an invalid template calls nothing; any other
keeps to the protocol, whatever the script answers and whenever it cancels the wait. -/
theorem deployment_keeps_protocol (policy : WaitPolicy) (script : Script) (cancelled : Bool)
    (stack : String) (proposed : Template) (options : DeployOptions) :
    let calls := ((Rehearsal.deployer policy).deploy stack proposed options
      (.start script cancelled)).2.calls
    (∀ cause, proposed.validateReferences = .error cause → calls = []) ∧
      (proposed.validateReferences = .ok () → KeepsProtocol policy script stack options calls) := by
  have run := deploy_run policy script cancelled stack proposed options
  refine ⟨fun cause refused => ?_, fun valid => ?_⟩
  · exact run.eq_nil refused
  · have stage := run.stage valid
    exact
      { order := stage.order
        fetches_iff := stage.fetches_iff
        creates := fun _ => stage.creates
        updates := fun _ => stage.updates
        failed_look := fun _ _ _ _ => stage.failed_look
        failed_fetch := fun _ _ _ _ => stage.failed_fetch
        names := fun _ => stage.names }

end StackDeploy
