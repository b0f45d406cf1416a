/-
# Absence in the answers of the provider

A look at a stack and the question for its template tell that the stack is absent by a result
without a value, and such a result is acted on: a deletion has reached its end, a stack is created,
a deployment is compared with nothing. This module says exactly which answers of the provider are
told as absence. What an answer is decoded to is said first, once and completely. Both calls then
read a decoded answer in the same way but for its content, so they share the lemmas on that reading
and on what a client does before an answer has arrived. The error that states the absence and an
empty list of stacks are told as absence, as they should be; so is every answer of success that has
no list of stacks, or no template, and nothing else.
-/

import StackDeploy.Proofs.Provider.Exchange
import StackDeploy.Provider.CloudFormation

namespace StackDeploy

open CloudFormation
open Json (Value)
open Signing (Request)

/-! ## Answers as they arrive -/

namespace Answer

/-- The value that the body of an answer is read as: absent if the body is blank or plain text, or
cannot be read. -/
def value? (a : Answer) : Option Value :=
  ((Format.ofBody a.body).parse a.body).bind Except.toOption

/-- The error envelope that an answer holds. -/
def envelope? (a : Answer) : Option Envelope :=
  a.value?.bind (Envelope.find (Format.ofBody a.body) a.status)

/-- An answer reports success with some content, or with none if its body is blank. -/
structure Reports (a : Answer) (content : Option Value) : Prop where
  success : isSuccess a.status = true
  flawless : a.envelope? = none
  read : a.value? = content
  blank : content = none → Format.ofBody a.body = .empty

/-- An answer is an error of the provider whose message says that something does not exist. -/
def SaysMissing (a : Answer) : Prop :=
  ∃ envelope, a.envelope? = some envelope ∧ Text.contains envelope.message "does not exist" = true

/-- What an answer is decoded to. -/
def decoded (a : Answer) : Except CallError (Option Value) :=
  decodeResponse a.status a.body

/-- What an answer can be decoded to. -/
inductive Decoding (a : Answer) : Except CallError (Option Value) → Prop
  /-- The answer holds an error envelope. -/
  | refused {envelope : Envelope} : a.envelope? = some envelope →
      Decoding a (.error (.provider a.status envelope.code envelope.message))
  /-- The answer reports success. -/
  | reported {content : Option Value} : a.Reports content → Decoding a (.ok content)
  /-- The answer does neither. -/
  | broken {cause : CallError} : a.envelope? = none → (∀ content, ¬ a.Reports content) →
      isMissingStack cause = false → Decoding a (.error cause)

variable {a : Answer}

theorem decoding_of_failure (flawless : a.envelope? = none) (failure : isSuccess a.status = false) :
    Decoding a (.error (.http a.status a.body)) :=
  .broken flawless (fun _ reported => by simp [reported.success] at failure) rfl

theorem decoding_of_unread (parsed : (Format.ofBody a.body).parse a.body = none) :
    Decoding a a.decoded := by
  have unread : a.value? = none := by simp [value?, parsed]
  have flawless : a.envelope? = none := by simp [envelope?, unread]
  simp only [decoded, decodeResponse, parsed]
  split
  next failure => exact decoding_of_failure flawless (by simpa using failure)
  next success =>
    split
    next blank => exact .reported ⟨by simpa using success, flawless, unread, fun _ => blank⟩
    next text =>
      exact .broken flawless (fun _ reported => text (reported.blank (reported.read ▸ unread))) rfl

theorem isMissingStack_of_parse {cause : CallError}
    (parsed : (Format.ofBody a.body).parse a.body = some (.error cause)) :
    isMissingStack cause = false := by
  unfold Format.parse at parsed
  split at parsed
  · split at parsed <;> cases parsed
    rfl
  · split at parsed <;> cases parsed
    rfl
  all_goals cases parsed

/-- A body that cannot be read is not blank, so its answer reports nothing. -/
theorem decoding_of_malformed {cause : CallError}
    (parsed : (Format.ofBody a.body).parse a.body = some (.error cause)) :
    Decoding a a.decoded := by
  have unread : a.value? = none := by simp [value?, parsed, Except.toOption]
  have flawless : a.envelope? = none := by simp [envelope?, unread]
  simp only [decoded, decodeResponse, parsed]
  split
  next success =>
    refine .broken flawless (fun _ reported => ?_) (isMissingStack_of_parse parsed)
    rw [reported.blank (reported.read ▸ unread)] at parsed
    cases parsed
  next failure => exact decoding_of_failure flawless (by simpa using failure)

theorem decoding_of_value {value : Value}
    (parsed : (Format.ofBody a.body).parse a.body = some (.ok value)) :
    Decoding a a.decoded := by
  have read : a.value? = some value := by simp [value?, parsed, Except.toOption]
  have envelopes : a.envelope? = Envelope.find (Format.ofBody a.body) a.status value := by
    simp [envelope?, read]
  simp only [decoded, decodeResponse, parsed, ← envelopes]
  split
  next envelope found => exact .refused found
  next flawless =>
    split
    next success => exact .reported ⟨success, flawless, read, nofun⟩
    next failure => exact decoding_of_failure flawless (by simpa using failure)

theorem decoding (a : Answer) : Decoding a a.decoded := by
  cases parsed : (Format.ofBody a.body).parse a.body with
  | none => exact decoding_of_unread parsed
  | some read =>
      cases read with
      | error cause => exact decoding_of_malformed parsed
      | ok value => exact decoding_of_value parsed

end Answer

/-! ## Reading an answer -/

namespace CloudFormation

section Reading

variable {α : Type}

/-- A reading of content, with the error that says that a stack does not exist read as absence. -/
def absentOr (read : Option Value → Except StackError (Option α)) :
    Except CallError (Option Value) → Except StackError (Option α)
  | .error cause => if isMissingStack cause then .ok none else .error (.call cause)
  | .ok content => read content

variable {a : Answer} {read : Option Value → Except StackError (Option α)} {result : Option α}

/-- A reading succeeds on the error that says that a stack does not exist, which is read as absence,
and where it succeeds on reported content. -/
theorem absentOr_decoded_eq_ok_iff :
    absentOr read a.decoded = .ok result ↔
      a.SaysMissing ∧ result = none ∨ ∃ content, a.Reports content ∧ read content = .ok result := by
  obtain decoded := a.decoding
  generalize a.decoded = outcome at decoded
  cases decoded with
  | @refused envelope found =>
      have unreported {content : Option Value} : ¬ a.Reports content := fun reported => by
        simp [reported.flawless] at found
      cases missing : Text.contains envelope.message "does not exist" with
      | false =>
          simp [absentOr, isMissingStack, Answer.SaysMissing, found, missing, unreported]
      | true =>
          cases result <;>
            simp [absentOr, isMissingStack, Answer.SaysMissing, found, missing, unreported]
  | @reported content reported =>
      have unique {other : Option Value} : a.Reports other ↔ other = content :=
        ⟨fun too => too.read ▸ reported.read, fun same => same ▸ reported⟩
      simp [absentOr, Answer.SaysMissing, reported.flawless, unique]
  | broken flawless unreported unknown =>
      simp [absentOr, Answer.SaysMissing, flawless, unreported, unknown]

end Reading

/-- The items of a value that is a list: an element without anything in it, an array of none, or an
object with its items as a member. -/
def itemsOf? : Value → Option (List Value)
  | .string text => if text = "" then some [] else none
  | .array items => if items.isEmpty then some [] else none
  | .object fields =>
    match Json.Members.get? "member" fields with
    | some (.array items) => some items
    | some item => some [item]
    | none => if fields.isEmpty then some [] else none
  | _ => none

/-- Whatever is no list is passed over as if it had no items. -/
theorem members_eq (list : Option Value) : members list = (list.bind itemsOf?).getD [] := by
  cases list with
  | none => rfl
  | some value =>
      cases value with
      | object fields =>
          simp only [members, Option.bind_some, itemsOf?, Value.get?]
          cases Json.Members.get? "member" fields with
          | none => cases fields.isEmpty <;> rfl
          | some item => cases item <;> rfl
      | _ => simp [members, itemsOf?, Value.get?] <;> split <;> rfl

/-- The list of stacks in the content of the answer to a look. -/
def stackList? (content : Option Value) : Option (List Value) :=
  ((content.bind (resultOf "DescribeStacks")).bind (Value.get? "Stacks")).bind itemsOf?

/-- The first stack of some items. -/
def firstOf : List Value → Except StackError (Option Stack)
  | [] => .ok none
  | first :: _ => (stackOf first).map some

/-- What the content of the answer to a look shows: the first stack of its list. -/
def firstStack (content : Option Value) : Except StackError (Option Stack) :=
  firstOf ((stackList? content).getD [])

theorem describeAnswer_eq (answer : Except CallError (Option Value)) :
    describeAnswer answer = absentOr firstStack answer := by
  cases answer with
  | error cause => rfl
  | ok content => exact congrArg firstOf (members_eq _)

theorem templateAnswer_eq (answer : Except CallError (Option Value)) :
    templateAnswer answer =
      absentOr (fun content => .ok (resultText "GetTemplate" "TemplateBody" content)) answer := by
  cases answer <;> rfl

end CloudFormation

/-! ## What an answer shows -/

namespace Answer

variable {a : Answer}

theorem Reports.unique {content other : Option Value} (reported : a.Reports content)
    (also : a.Reports other) : content = other :=
  reported.read.symm.trans also.read

theorem Reports.not_saysMissing {content : Option Value} (reported : a.Reports content) :
    ¬ a.SaysMissing := by
  rintro ⟨envelope, found, -⟩
  simp [reported.flawless] at found

/-- An answer to a look reports success with a list of stacks, or without one. -/
def Lists (a : Answer) (listed : Option (List Value)) : Prop :=
  ∃ content, a.Reports content ∧ stackList? content = listed

/-- An answer to a look describes a stack: the first one of its list. -/
def Describes (a : Answer) (found : Stack) : Prop :=
  ∃ first rest, a.Lists (some (first :: rest)) ∧ stackOf first = .ok found

/-- An answer to the question for a template reports success with a template, or without one. -/
def Holds (a : Answer) (template : Option String) : Prop :=
  ∃ content, a.Reports content ∧ resultText "GetTemplate" "TemplateBody" content = template

theorem Lists.unique {listed other : Option (List Value)} (lists : a.Lists listed)
    (also : a.Lists other) : listed = other := by
  obtain ⟨content, reported, rfl⟩ := lists
  obtain ⟨content', reported', rfl⟩ := also
  rw [reported.unique reported']

theorem Lists.not_saysMissing {listed : Option (List Value)} (lists : a.Lists listed) :
    ¬ a.SaysMissing :=
  lists.elim fun _ reported => reported.1.not_saysMissing

theorem Holds.not_saysMissing {template : Option String} (holds : a.Holds template) :
    ¬ a.SaysMissing :=
  holds.elim fun _ reported => reported.1.not_saysMissing

end Answer

namespace CloudFormation

variable {a : Answer}

theorem firstStack_eq_none_iff {content : Option Value} :
    firstStack content = .ok none ↔
      stackList? content = some [] ∨ stackList? content = none := by
  unfold firstStack
  rcases stackList? content with _ | _ | ⟨first, rest⟩
  · simp [firstOf]
  · simp [firstOf]
  · cases described : stackOf first <;> simp [firstOf, Except.map, described]

theorem firstStack_eq_some_iff {content : Option Value} {found : Stack} :
    firstStack content = .ok (some found) ↔
      ∃ first rest, stackList? content = some (first :: rest) ∧ stackOf first = .ok found := by
  unfold firstStack
  rcases stackList? content with _ | _ | ⟨first, rest⟩
  · simp [firstOf]
  · simp [firstOf]
  · cases described : stackOf first <;> simp [firstOf, Except.map, described]

/-- A look tells absence for the error that states it, for an empty list of stacks, and for an
answer of success without such a list. -/
theorem describeAnswer_eq_none_iff :
    describeAnswer a.decoded = .ok none ↔
      (a.SaysMissing ∨ a.Lists (some [])) ∨ a.Lists none := by
  rw [describeAnswer_eq, absentOr_decoded_eq_ok_iff]
  simp only [firstStack_eq_none_iff, Answer.Lists, and_true, and_or_left, exists_or, or_assoc]

theorem describeAnswer_eq_some_iff {found : Stack} :
    describeAnswer a.decoded = .ok (some found) ↔ a.Describes found := by
  rw [describeAnswer_eq, absentOr_decoded_eq_ok_iff]
  simp only [firstStack_eq_some_iff]
  constructor
  · rintro (⟨-, ⟨⟩⟩ | ⟨content, reported, first, rest, listed, described⟩)
    exact ⟨first, rest, ⟨content, reported, listed⟩, described⟩
  · rintro ⟨first, rest, ⟨content, reported, listed⟩, described⟩
    exact .inr ⟨content, reported, first, rest, listed, described⟩

/-- The question for a template tells absence for the error that states it and for an answer of
success without a template. -/
theorem templateAnswer_eq_none_iff :
    templateAnswer a.decoded = .ok none ↔ a.SaysMissing ∨ a.Holds none := by
  rw [templateAnswer_eq, absentOr_decoded_eq_ok_iff]
  simp [Answer.Holds]

theorem templateAnswer_eq_some_iff {body : String} :
    templateAnswer a.decoded = .ok (some body) ↔ a.Holds (some body) := by
  rw [templateAnswer_eq, absentOr_decoded_eq_ok_iff]
  simp [Answer.Holds]

end CloudFormation

/-! ## Calls -/

namespace CloudFormation

variable {σ : Type} {client : Client} {network : Network (StateM σ)} {request : Request}
  {stack : String} {s s' : σ}

theorem isMissingStack_of_own {cause : CallError} (own : Client.IsOwnError cause) :
    isMissingStack cause = false := by
  cases cause <;> first | rfl | cases own

theorem run_read_of_hears {β : Type} {read : Except CallError (Option Value) → β} {answer : Answer}
    (hears : client.Hears network request s answer s') :
    (do let outcome ← client.send network request
        pure (read outcome) : StateM σ _).run s = pure (read answer.decoded, s') := by
  simp [Client.run_send_of_hears hears, Answer.decoded]

/-- A reading of what comes of a request succeeds on an answer that is heard, and on nothing that
happens before. -/
theorem run_absentOr_send_iff {α : Type} {read : Option Value → Except StackError (Option α)}
    {result : Option α} :
    (do let outcome ← client.send network request
        pure (absentOr read outcome) : StateM σ _).run s = pure (.ok result, s') ↔
      ∃ answer, client.Hears network request s answer s' ∧
        absentOr read answer.decoded = .ok result := by
  constructor
  · intro succeeded
    rcases client.hears_or_fails network request s with
      ⟨answer, ended, hears⟩ | ⟨cause, ended, own, failed⟩
    · obtain ⟨shown, rfl⟩ := Prod.mk.inj ((run_read_of_hears hears).symm.trans succeeded)
      exact ⟨answer, hears, shown⟩
    · simp only [StateT.run_bind, failed, pure_bind, StateT.run_pure] at succeeded
      have shown := (Prod.mk.inj succeeded).1
      simp [absentOr, isMissingStack_of_own own] at shown
  · rintro ⟨answer, hears, shown⟩
    rw [run_read_of_hears hears, shown]

/-- The request that looks at a stack. -/
def describeRequest (client : Client) (stack : String) : Request :=
  client.queryRequest "DescribeStacks" version [("StackName", stack)]

/-- The request that asks for the template of a stack. -/
def templateRequest (client : Client) (stack : String) : Request :=
  client.queryRequest "GetTemplate" version [("StackName", stack)]

theorem run_describe_iff {result : Option Stack} :
    ((controlPlane client network).describe stack).run s = pure (.ok result, s') ↔
      ∃ answer, client.Hears network (describeRequest client stack) s answer s' ∧
        describeAnswer answer.decoded = .ok result := by
  simp only [controlPlane, describeAnswer_eq]
  exact run_absentOr_send_iff

theorem run_getTemplate_iff {result : Option String} :
    ((controlPlane client network).getTemplate stack).run s = pure (.ok result, s') ↔
      ∃ answer, client.Hears network (templateRequest client stack) s answer s' ∧
        templateAnswer answer.decoded = .ok result := by
  simp only [controlPlane, templateAnswer_eq]
  exact run_absentOr_send_iff

theorem run_describe_of_hears {answer : Answer}
    (hears : client.Hears network (describeRequest client stack) s answer s') :
    ((controlPlane client network).describe stack).run s =
      pure (describeAnswer answer.decoded, s') :=
  run_read_of_hears hears

theorem run_getTemplate_of_hears {answer : Answer}
    (hears : client.Hears network (templateRequest client stack) s answer s') :
    ((controlPlane client network).getTemplate stack).run s =
      pure (templateAnswer answer.decoded, s') :=
  run_read_of_hears hears

end CloudFormation

/-! ## Absence -/

/-- A result is truthful: absence is told only if it is shown, and where neither absence nor
anything else is shown the result is an error. -/
structure Truthful {α : Type} (absent : Prop) (shown : α → Prop)
    (result : Except StackError (Option α)) : Prop where
  absence : result = .ok none → absent
  failure : ¬ absent → (∀ found, ¬ shown found) → ∃ cause, result = .error cause

/-- A result that tells absence in one more case than it should is truthful in every other one. -/
theorem truthful_iff {α : Type} {absent mistaken : Prop} {shown : α → Prop}
    {result : Except StackError (Option α)} (none_iff : result = .ok none ↔ absent ∨ mistaken)
    (some_iff : ∀ found, result = .ok (some found) ↔ shown found) (apart : mistaken → ¬ absent) :
    Truthful absent shown result ↔ ¬ mistaken := by
  constructor
  · intro truthful mistaken
    exact apart mistaken (truthful.absence (none_iff.2 (.inr mistaken)))
  · intro right
    refine ⟨fun told => (none_iff.1 told).resolve_right right, fun present unseen => ?_⟩
    match result with
    | .error cause => exact ⟨cause, rfl⟩
    | .ok none => exact absurd (none_iff.1 rfl) (not_or.2 ⟨present, right⟩)
    | .ok (some found) => exact absurd ((some_iff found).1 rfl) (unseen found)

namespace CloudFormation

theorem truthful_describeAnswer_iff {a : Answer} :
    Truthful (a.SaysMissing ∨ a.Lists (some [])) a.Describes (describeAnswer a.decoded) ↔
      ¬ a.Lists none := by
  refine truthful_iff describeAnswer_eq_none_iff (fun _ => describeAnswer_eq_some_iff) ?_
  rintro without (missing | listed)
  · exact without.not_saysMissing missing
  · cases without.unique listed

theorem truthful_templateAnswer_iff {a : Answer} :
    Truthful a.SaysMissing (fun body => a.Holds (some body)) (templateAnswer a.decoded) ↔
      ¬ a.Holds none :=
  truthful_iff templateAnswer_eq_none_iff (fun _ => templateAnswer_eq_some_iff)
    fun without => without.not_saysMissing

/-- The control plane tells absence only for an answer that it has heard: an error that states it, a
list of stacks without any, or an answer of success that lacks the list or the template. So what a
call tells of the answer that it hears is truthful unless the answer is of the last kind: then the
call makes up an absence, and it should have failed. -/
theorem absence_is_told_iff {σ : Type} (client : Client) (network : Network (StateM σ))
    (stack : String) (s s' : σ) :
    (((controlPlane client network).describe stack).run s = pure (.ok none, s') ↔
      ∃ a, client.Hears network (describeRequest client stack) s a s' ∧
        ((a.SaysMissing ∨ a.Lists (some [])) ∨ a.Lists none)) ∧
    (((controlPlane client network).getTemplate stack).run s = pure (.ok none, s') ↔
      ∃ a, client.Hears network (templateRequest client stack) s a s' ∧
        (a.SaysMissing ∨ a.Holds none)) ∧
    (∀ a, client.Hears network (describeRequest client stack) s a s' →
      ∃ result, ((controlPlane client network).describe stack).run s = pure (result, s') ∧
        (Truthful (a.SaysMissing ∨ a.Lists (some [])) a.Describes result ↔ ¬ a.Lists none)) ∧
    ∀ a, client.Hears network (templateRequest client stack) s a s' →
      ∃ result, ((controlPlane client network).getTemplate stack).run s = pure (result, s') ∧
        (Truthful a.SaysMissing (fun body => a.Holds (some body)) result ↔ ¬ a.Holds none) := by
  refine ⟨?_, ?_, fun a hears => ?_, fun a hears => ?_⟩
  · simp only [run_describe_iff, describeAnswer_eq_none_iff]
  · simp only [run_getTemplate_iff, templateAnswer_eq_none_iff]
  · exact ⟨_, run_describe_of_hears hears, truthful_describeAnswer_iff⟩
  · exact ⟨_, run_getTemplate_of_hears hears, truthful_templateAnswer_iff⟩

theorem exampleClient_hears (answer : Answer) (stack : String) :
    exampleClient.Hears (.answering answer) (describeRequest exampleClient stack) () answer () ∧
      exampleClient.Hears (.answering answer) (templateRequest exampleClient stack) () answer
        () := by
  constructor <;> obtain ⟨wire, prepared⟩ := exampleClient_sends _ <;>
    exact ⟨0, (), wire, rfl, prepared, rfl⟩

/-- The error of the provider for a stack that does not exist. -/
def missingStackError : Answer where
  status := 400
  body := "<ErrorResponse><Error><Code>ValidationError</Code>" ++
    "<Message>Stack with id web does not exist</Message></Error></ErrorResponse>"

/-- The error that states that a stack does not exist makes both calls tell so. -/
theorem missing_stack_is_told_as_absence :
    ((controlPlane exampleClient (.answering missingStackError)).describe "web").run () =
        pure (.ok none, ()) ∧
      ((controlPlane exampleClient (.answering missingStackError)).getTemplate "web").run () =
        pure (.ok none, ()) := by
  have missing : missingStackError.SaysMissing :=
    ⟨⟨"ValidationError", "Stack with id web does not exist"⟩, by decide +kernel, by decide +kernel⟩
  obtain ⟨looked, asked⟩ := exampleClient_hears missingStackError "web"
  have told := absence_is_told_iff exampleClient (.answering missingStackError) "web" () ()
  exact ⟨told.1.2 ⟨_, looked, .inl (.inl missing)⟩, told.2.1.2 ⟨_, asked, .inl missing⟩⟩

/-- An answer of success with a blank body makes both calls tell that the stack is absent, though it
neither says so nor lists anything. -/
theorem blank_answer_is_told_as_absence :
    ((controlPlane exampleClient (.answering ⟨200, ""⟩)).describe "web").run () =
        pure (.ok none, ()) ∧
      ((controlPlane exampleClient (.answering ⟨200, ""⟩)).getTemplate "web").run () =
        pure (.ok none, ()) ∧
      ¬ (Answer.SaysMissing ⟨200, ""⟩ ∨ Answer.Lists ⟨200, ""⟩ (some [])) := by
  have reported : Answer.Reports ⟨200, ""⟩ none := ⟨by decide, rfl, rfl, fun _ => rfl⟩
  have unlisted : Answer.Lists ⟨200, ""⟩ none := ⟨none, reported, rfl⟩
  have without : Answer.Holds ⟨200, ""⟩ none := ⟨none, reported, rfl⟩
  obtain ⟨looked, asked⟩ := exampleClient_hears ⟨200, ""⟩ "web"
  refine ⟨?_, ?_, ?_⟩
  · exact run_describe_iff.2 ⟨_, looked, describeAnswer_eq_none_iff.2 (.inr unlisted)⟩
  · exact run_getTemplate_iff.2 ⟨_, asked, templateAnswer_eq_none_iff.2 (.inr without)⟩
  · rintro (missing | listed)
    · exact reported.not_saysMissing missing
    · cases unlisted.unique listed

end CloudFormation

end StackDeploy
