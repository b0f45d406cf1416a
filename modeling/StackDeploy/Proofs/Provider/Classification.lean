/-
# The classes of answers

An answer is classified by its status, by the format that its body begins like, and by what the
body is read as. Without success it is an error with the status, either of the provider or with the
body as it came: a body that cannot be read does not hide the failure. With success it is nothing
if the body is blank, an error of the provider if the body is XML that holds an error envelope, the
value that the body is read as, and in all other cases an answer that cannot be read as its format.
-/

import Mathlib.Data.List.TakeWhile
import StackDeploy.Proofs.Provider.Envelopes

namespace StackDeploy

open Json (Value Members)

variable {status : Nat} {body : String} {v : Value} {members : Members} {cause : DecodeError}

/-! ## Values with an error envelope -/

namespace Envelope

/-- A value holds an error envelope: it is an object whose error member is an object that states its
code, or one of its members holds an envelope. What stands in an array does not count. -/
inductive Within : Value → Prop
  | here {members error : Members} {code : String}
      (member : members.get? "Error" = some (.object error))
      (stated : error.get? "Code" = some (.string code)) : Within (.object members)
  | deeper {members : Members} {member : String × Value} (mem : member ∈ members)
      (inside : Within member.2) : Within (.object members)

theorem textOf_ne_none_iff {key : String} : textOf key (.object members) ≠ none ↔
    ∃ text, members.get? key = some (.string text) := by
  rw [textOf, Value.get?]
  cases members.get? key with
  | none => simp
  | some value => cases value <;> simp [Value.string?]

theorem ofErrorMember_ne_none_iff : ofErrorMember members ≠ none ↔
    ∃ (error : Members) (code : String), members.get? "Error" = some (.object error) ∧
      error.get? "Code" = some (.string code) := by
  unfold ofErrorMember
  split
  next error member =>
    rw [Ne, Option.map_eq_none_iff, ← Ne, textOf_ne_none_iff]
    constructor
    · rintro ⟨code, stated⟩
      exact ⟨error, code, member, stated⟩
    · rintro ⟨other, code, member', stated⟩
      cases member.symm.trans member'
      exact ⟨code, stated⟩
  next other =>
    refine iff_of_false (fun own => own rfl) ?_
    rintro ⟨error, code, member, -⟩
    exact other error member

mutual

/-- What is found is held: the search goes into the members of an object, and along them. -/
theorem within_of_findInXml : (v : Value) → findInXml v ≠ none → Within v
  | .object members, found => by
      rw [findInXml] at found
      by_cases own : ofErrorMember members = none
      · rw [own] at found
        obtain ⟨member, mem, inside⟩ := exists_within_of_findInMembers members found
        exact .deeper mem inside
      · obtain ⟨error, code, member, stated⟩ := ofErrorMember_ne_none_iff.1 own
        exact .here member stated
  | .null, found | .bool _, found | .number _, found | .string _, found | .array _, found =>
      absurd rfl found

theorem exists_within_of_findInMembers : (members : Members) → findInMembers members ≠ none →
    ∃ member ∈ members, Within member.2
  | [], found => absurd rfl found
  | (name, value) :: rest, found => by
      rw [findInMembers] at found
      by_cases first : findInXml value = none
      · rw [first] at found
        obtain ⟨member, mem, inside⟩ := exists_within_of_findInMembers rest found
        exact ⟨member, List.mem_cons_of_mem _ mem, inside⟩
      · exact ⟨_, List.mem_cons_self, within_of_findInXml value first⟩

end

/-- An envelope that a value holds is found, or another one is. -/
theorem Within.findInXml_ne_none (within : Within v) : findInXml v ≠ none := by
  induction within with
  | here member stated =>
      have own := ofErrorMember_ne_none_iff.2 ⟨_, _, member, stated⟩
      rw [findInXml]
      split
      · exact Option.some_ne_none _
      next silent => exact absurd silent own
  | @deeper members member mem inside ih =>
      rw [findInXml]
      split
      · exact Option.some_ne_none _
      · rw [Xml.Element.findInMembers_eq, Ne, List.findSome?_eq_none_iff]
        exact fun silent => ih (silent member mem)

theorem findInXml_ne_none_iff : findInXml v ≠ none ↔ Within v :=
  ⟨within_of_findInXml v, Within.findInXml_ne_none⟩

end Envelope

/-! ## What a body is read as -/

/-- A body is read as a value: it begins like XML or like JSON, and is a document of that format. -/
inductive ReadsAs (body : String) (v : Value) : Prop
  | xml (format : Format.ofBody body = .xml) (read : Xml.valueOfText body = .ok v)
  | json (format : Format.ofBody body = .json) (read : Value.ofText body = .ok v)

/-- A body that is not blank cannot be read: it begins like XML or like JSON and is no document of
that format, or it begins like neither. -/
inductive Unreadable (body : String) : DecodeError → Prop
  | xml {cause : Xml.XmlError} (format : Format.ofBody body = .xml)
      (refused : Xml.valueOfText body = .error cause) : Unreadable body (.xml cause)
  | json {problem : Json.Problem} (format : Format.ofBody body = .json)
      (refused : Value.ofText body = .error problem) : Unreadable body (.json problem)
  | text (format : Format.ofBody body = .text) : Unreadable body .unrecognised

theorem Format.ofBody_eq_empty_iff :
    Format.ofBody body = .empty ↔ Text.isBlankText body = true := by
  rw [Text.isBlankText, List.all_eq_true, ← List.dropWhile_eq_nil_iff, ← Text.trimLeft,
    Format.ofBody]
  split <;> simp_all

theorem Unreadable.format_eq (unreadable : Unreadable body cause) :
    cause.format = Format.ofBody body := by
  cases unreadable with
  | xml format => exact format.symm
  | json format => exact format.symm
  | text format => exact format.symm

/-- A body is blank, or it is read as a value, or it cannot be read. -/
theorem body_cases (body : String) :
    Text.isBlankText body = true ∨ (∃ v, ReadsAs body v) ∨ ∃ cause, Unreadable body cause := by
  cases format : Format.ofBody body with
  | empty => exact .inl (Format.ofBody_eq_empty_iff.1 format)
  | text => exact .inr (.inr ⟨_, .text format⟩)
  | xml =>
      cases read : Xml.valueOfText body with
      | ok v => exact .inr (.inl ⟨v, .xml format read⟩)
      | error cause => exact .inr (.inr ⟨_, .xml format read⟩)
  | json =>
      cases read : Value.ofText body with
      | ok v => exact .inr (.inl ⟨v, .json format read⟩)
      | error problem => exact .inr (.inr ⟨_, .json format read⟩)

/-! ## What an answer is decoded to -/

theorem decodeResponse_of_blank (blank : Text.isBlankText body = true) :
    decodeResponse status body =
      if isSuccess status then .ok none else .error (.http status body) := by
  rw [decodeResponse, Format.ofBody_eq_empty_iff.2 blank]
  cases isSuccess status <;> rfl

theorem decodeResponse_of_unreadable (unreadable : Unreadable body cause) :
    decodeResponse status body =
      .error (if isSuccess status then .decode cause else .http status body) := by
  rw [decodeResponse]
  cases unreadable with
  | xml format refused =>
      rewrite [format, Format.parse, refused]
      rfl
  | json format refused =>
      rewrite [format, Format.parse, refused]
      rfl
  | text format =>
      rw [format]
      cases isSuccess status <;> rfl

theorem decodeResponse_of_readsAs (read : ReadsAs body v) :
    decodeResponse status body =
      match Envelope.find (Format.ofBody body) status v with
      | some envelope => .error (.provider status envelope.code envelope.message)
      | none => if isSuccess status then .ok (some v) else .error (.http status body) := by
  rw [decodeResponse]
  cases read with
  | xml format read =>
      rewrite [format, Format.parse, read]
      rfl
  | json format read =>
      rewrite [format, Format.parse, read]
      rfl

theorem isSuccess_iff : isSuccess status = true ↔ 200 ≤ status ∧ status ≤ 299 := by
  rw [isSuccess, Bool.and_eq_true, decide_eq_true_eq, decide_eq_true_eq]
  omega

/-- Without success an answer is an error with its status, whether or not its body can be read. -/
theorem decodeResponse_of_failure (failure : isSuccess status = false) :
    decodeResponse status body = .error (.http status body) ∨
      ∃ code message, decodeResponse status body = .error (.provider status code message) := by
  rcases body_cases body with blank | ⟨v, read⟩ | ⟨cause, unreadable⟩
  · rw [decodeResponse_of_blank blank, failure]
    exact .inl rfl
  · rw [decodeResponse_of_readsAs read, failure]
    cases Envelope.find (Format.ofBody body) status v with
    | none => exact .inl rfl
    | some envelope => exact .inr ⟨_, _, rfl⟩
  · rw [decodeResponse_of_unreadable unreadable, failure]
    exact .inl rfl

/-- With success envelopes are looked for in XML only. -/
theorem find_eq_none_iff_of_success (success : isSuccess status = true) {format : Format} :
    Envelope.find format status v = none ↔ (format = .xml → ¬ Envelope.Within v) := by
  cases format with
  | xml => simp [Envelope.find, ← Envelope.findInXml_ne_none_iff]
  | json =>
      rw [Envelope.find, if_pos success]
      exact iff_of_true rfl nofun
  | empty => exact iff_of_true rfl nofun
  | text => exact iff_of_true rfl nofun

/-- What an answer of success is decoded to. -/
inductive Success (status : Nat) (body : String) : Except CallError (Option Value) → Prop
  | nothing (blank : Text.isBlankText body = true) : Success status body (.ok none)
  | value {v : Value} (read : ReadsAs body v)
      (flawless : Format.ofBody body = .xml → ¬ Envelope.Within v) :
      Success status body (.ok (some v))
  | refused {v : Value} (read : ReadsAs body v) (format : Format.ofBody body = .xml)
      (within : Envelope.Within v) (code message : String) :
      Success status body (.error (.provider status code message))
  | unreadable {cause : DecodeError} (unreadable : Unreadable body cause) :
      Success status body (.error (.decode cause))

theorem decodeResponse_of_success (body : String) (success : isSuccess status = true) :
    Success status body (decodeResponse status body) := by
  rcases body_cases body with blank | ⟨v, read⟩ | ⟨cause, unreadable⟩
  · rw [decodeResponse_of_blank blank, success]
    exact .nothing blank
  · rw [decodeResponse_of_readsAs read, success]
    cases found : Envelope.find (Format.ofBody body) status v with
    | none => exact .value read ((find_eq_none_iff_of_success success).1 found)
    | some envelope =>
        have held : ¬ (Format.ofBody body = .xml → ¬ Envelope.Within v) := by
          rw [← find_eq_none_iff_of_success success, found]
          exact Option.some_ne_none envelope
        obtain ⟨format, within⟩ := Classical.not_imp.1 held
        exact .refused read format (not_not.1 within) _ _
  · rw [decodeResponse_of_unreadable unreadable, success]
    exact .unreadable unreadable

/-- An answer of success is nothing exactly if its body is blank. -/
theorem decodeResponse_eq_nothing_iff (success : isSuccess status = true) :
    decodeResponse status body = .ok none ↔ Text.isBlankText body = true := by
  constructor
  · intro nothing
    have outcome := decodeResponse_of_success body success
    rw [nothing] at outcome
    cases outcome with
    | nothing blank => exact blank
  · intro blank
    rw [decodeResponse_of_blank blank, success]
    rfl

/-- An answer of success is a value exactly if its body is read as that value, which holds no
envelope if it is XML. -/
theorem decodeResponse_eq_value_iff (success : isSuccess status = true) :
    decodeResponse status body = .ok (some v) ↔
      ReadsAs body v ∧ (Format.ofBody body = .xml → ¬ Envelope.Within v) := by
  constructor
  · intro value
    have outcome := decodeResponse_of_success body success
    rw [value] at outcome
    cases outcome with
    | value read flawless => exact ⟨read, flawless⟩
  · rintro ⟨read, flawless⟩
    rw [decodeResponse_of_readsAs read, (find_eq_none_iff_of_success success).2 flawless, success]
    rfl

/-- Without success an answer is an error of the provider with the status, or one with the status
and the body as it came. With success it is never the latter. It is then nothing exactly if the body
is blank, and a value exactly if the body is read as that value, which holds no envelope if it is
XML; so every value in JSON is an answer, whatever its members are. A body that is not blank and not
read as a value is told as unreadable in the format that it begins like. -/
theorem answers_are_classified (status : Nat) (body : String) :
    (¬ (200 ≤ status ∧ status ≤ 299) →
      decodeResponse status body = .error (.http status body) ∨
        ∃ code message, decodeResponse status body = .error (.provider status code message)) ∧
    (200 ≤ status ∧ status ≤ 299 →
      (∀ other kept, decodeResponse status body ≠ .error (.http other kept)) ∧
      (decodeResponse status body = .ok none ↔ Text.isBlankText body = true) ∧
      (∀ v, decodeResponse status body = .ok (some v) ↔
        ReadsAs body v ∧ (Format.ofBody body = .xml → ¬ Envelope.Within v)) ∧
      (∀ v, Format.ofBody body = .json → Value.ofText body = .ok v →
        decodeResponse status body = .ok (some v)) ∧
      (Text.isBlankText body = false → (∀ v, ¬ ReadsAs body v) →
        ∃ cause, decodeResponse status body = .error (.decode cause) ∧
          cause.format = Format.ofBody body)) := by
  rw [← isSuccess_iff, Bool.not_eq_true]
  refine ⟨decodeResponse_of_failure, fun success => ⟨?_, decodeResponse_eq_nothing_iff success,
    fun v => decodeResponse_eq_value_iff success, ?_, ?_⟩⟩
  · intro other kept http
    have outcome := decodeResponse_of_success body success
    rw [http] at outcome
    cases outcome
  · intro v format read
    refine (decodeResponse_eq_value_iff success).2 ⟨.json format read, fun xml => ?_⟩
    rw [format] at xml
    cases xml
  · intro given unread
    rcases body_cases body with blank | ⟨v, read⟩ | ⟨cause, unreadable⟩
    · rw [given] at blank
      cases blank
    · exact absurd read (unread v)
    · refine ⟨cause, ?_, unreadable.format_eq⟩
      rw [decodeResponse_of_unreadable unreadable, success]
      rfl

/-- Members that state an error elsewhere are data in an answer of success. -/
example : decodeResponse 200 "\x7b\"__type\":\"Widget\"\x7d" =
    .ok (some (.object [("__type", .string "Widget")])) := by
  decide +kernel

/-- A document that is cut short does not hide the failure. -/
example : decodeResponse 503 "\x7b" = .error (.http 503 "\x7b") := by
  decide +kernel

end StackDeploy
