/-
# Padded settings

Keys and regions may be configured with blanks around them. A signer is made of their trimmed
values, and both are checked before anything else, so settings that differ only in such padding give
the same signer or fail for the same cause. The session token is the exception: only a blank one is
dropped, and any other one is signed and returned as it was configured. Two settings that are the
same but for padding therefore sign alike exactly if their tokens are padded alike.
-/

import Mathlib.Data.List.TakeWhile
import StackDeploy.Proofs.Signing.CanonicalContent
import StackDeploy.Settings.Access

namespace StackDeploy

namespace Text

/-- Trimming leaves nothing of a text exactly if the text is blank. -/
theorem isEmpty_trim (s : String) : (trim s).isEmpty = isBlankText s := by
  rw [Bool.eq_iff_iff, String.isEmpty_iff]
  constructor
  · intro empty
    rw [← isBlankText_trim, empty]
    rfl
  · intro blank
    have dropped : trimLeft s.toList = [] :=
      List.dropWhile_eq_nil_iff.2 (List.all_eq_true.1 blank)
    rw [trim, trimChars, dropped]
    rfl

end Text

namespace Signing.Signer

variable {s : Signer} {request : Request} {seconds : Int} {headers left right : Headers}

/-- The signer with another session token. -/
def withToken (s : Signer) (token : Option String) : Signer :=
  { s with credentials := { s.credentials with sessionToken := token } }

/-- Whether a request is signed does not depend on the signer. -/
theorem sign_cases (request : Request) (seconds : Int) :
    (∃ cause, ∀ s : Signer, s.sign request seconds = .error cause) ∨
      ∀ s : Signer, ∃ headers, s.sign request seconds = .ok headers := by
  unfold sign
  split
  · exact .inl ⟨_, fun _ => rfl⟩
  · split
    · exact .inl ⟨_, fun _ => rfl⟩
    · exact .inr fun _ => ⟨_, rfl⟩

/-- The token of temporary credentials is returned as it is. -/
theorem get?_token_of_sign {token : String}
    (signed : (s.withToken (some token)).sign request seconds = .ok headers) :
    headers.get? "x-amz-security-token" = some token := by
  rw [eq_of_sign signed, signedHeaders, withToken]
  simp [NameMap.get?_insert]

/-- Signers that differ only in their tokens, if both have one or neither has, return the same
headers exactly if the tokens are the same. -/
theorem sign_withToken_eq_iff {token other : Option String} (alike : token = none ↔ other = none)
    (signed : (s.withToken token).sign request seconds = .ok left)
    (signed' : (s.withToken other).sign request seconds = .ok right) :
    left = right ↔ token = other := by
  constructor
  · rintro rfl
    cases token with
    | none => exact (alike.1 rfl).symm
    | some text =>
        cases other with
        | none => exact alike.2 rfl
        | some text' => rw [← get?_token_of_sign signed, get?_token_of_sign signed']
  · rintro rfl
    exact Except.ok.inj (signed.symm.trans signed')

end Signing.Signer

namespace Settings

open Signing (Credentials Signer)

variable {value other : Option String} {text : String} {field : Field}

/-! ## Fields that have to be there -/

/-- The value of a field without padding; a field without a value is like one with a blank value. -/
def trimmed (value : Option String) : String :=
  (value.map Text.trim).getD ""

theorem isEmpty_trimmed (value : Option String) :
    (trimmed value).isEmpty = Text.isBlankText (trimmed value) := by
  cases value with
  | none => rfl
  | some text => exact (Text.isEmpty_trim text).trans (Text.isBlankText_trim text).symm

theorem required_eq (value : Option String) (field : Field) :
    required value field =
      if (trimmed value).isEmpty then .error (.missing field) else .ok (trimmed value) := by
  cases value <;> rfl

theorem required_congr (same : trimmed value = trimmed other) (field : Field) :
    required value field = required other field := by
  rw [required_eq, required_eq, same]

/-- What is required is there if it is not blank, and it is then trimmed. -/
theorem required_eq_ok_iff : required value field = .ok text ↔
    Text.isBlankText text = false ∧ trimmed value = text := by
  rw [required_eq, isEmpty_trimmed]
  cases solid : Text.isBlankText (trimmed value) with
  | true =>
      refine iff_of_false nofun ?_
      rintro ⟨given, rfl⟩
      rw [solid] at given
      cases given
  | false =>
      rw [if_neg Bool.false_ne_true, Except.ok.injEq, iff_and_self]
      rintro rfl
      exact solid

/-! ## The signer of some settings -/

/-- The session token that is used: a blank one counts as none. -/
def usedToken (token : Option String) : Option String :=
  token.filter fun text => !Text.isBlankText text

theorem usedToken_eq_none_iff : usedToken value = none ↔ trimmed value = "" := by
  cases value with
  | none => exact iff_of_true rfl rfl
  | some text =>
      rw [← String.isEmpty_iff, trimmed, Option.map_some, Option.getD_some, Text.isEmpty_trim]
      simp [usedToken]

namespace AccessSettings

theorem credentials_eq (s : AccessSettings) :
    s.credentials = (do
      let accessKeyId ← required s.accessKeyId .accessKeyId
      let secretAccessKey ← required s.secretAccessKey .secretAccessKey
      .ok ⟨accessKeyId, secretAccessKey, usedToken s.sessionToken⟩) := by
  unfold credentials
  cases access : required s.accessKeyId .accessKeyId with
  | error cause => rfl
  | ok accessKeyId =>
      cases secret : required s.secretAccessKey .secretAccessKey with
      | error cause => rfl
      | ok secretAccessKey =>
          show (Credentials.make _ _ _).mapError _ = _
          rw [Credentials.make, (required_eq_ok_iff.1 access).1, (required_eq_ok_iff.1 secret).1]
          rfl

/-- The signer without a session token. It is made of the trimmed values; what is missing is reported
in the order of the fields, and the service comes last. -/
def tokenless (s : AccessSettings) (service : String) : Except SettingsError Signer := do
  let accessKeyId ← required s.accessKeyId .accessKeyId
  let secretAccessKey ← required s.secretAccessKey .secretAccessKey
  let region ← required (some s.region) .region
  if Text.isBlankText service then .error (.unsignable (.missingField "service name"))
  else
    .ok ⟨⟨accessKeyId, secretAccessKey, none⟩, service, region,
      service ≠ Signer.singleEncodingService⟩

/-- A signer gets the token as it is. -/
theorem signer_eq (s : AccessSettings) (service : String) :
    s.signer service =
      (s.tokenless service).map fun signer => signer.withToken (usedToken s.sessionToken) := by
  rw [signer, validate, credentials_eq, tokenless]
  cases required s.accessKeyId .accessKeyId with
  | error cause => rfl
  | ok accessKeyId =>
      cases required s.secretAccessKey .secretAccessKey with
      | error cause => rfl
      | ok secretAccessKey =>
          cases place : required (some s.region) .region with
          | error cause => rfl
          | ok region =>
              obtain ⟨solid, rfl⟩ := required_eq_ok_iff.1 place
              show (Signer.make _ service (trimmed (some s.region))).mapError _ = _
              rw [Signer.make, solid]
              cases Text.isBlankText service <;> rfl

/-- Two settings that are the same but for blanks around the keys, the token and the region. -/
structure SameButPadding (a b : AccessSettings) : Prop where
  accessKeyId : trimmed a.accessKeyId = trimmed b.accessKeyId
  secretAccessKey : trimmed a.secretAccessKey = trimmed b.secretAccessKey
  sessionToken : trimmed a.sessionToken = trimmed b.sessionToken
  region : Text.trim a.region = Text.trim b.region

variable {a b : AccessSettings}

theorem SameButPadding.tokenless_eq (same : a.SameButPadding b) (service : String) :
    a.tokenless service = b.tokenless service := by
  have region : trimmed (some a.region) = trimmed (some b.region) := same.region
  rw [tokenless, required_congr same.accessKeyId, required_congr same.secretAccessKey,
    required_congr region, tokenless]

/-- Settings that are the same but for padding fail for the same cause, or both give a signer. What
the two signers return is the same exactly if the tokens are padded alike, or both refuse a request
for the same cause. -/
theorem padded_settings_sign_alike_iff (same : a.SameButPadding b) (service : String) :
    (∃ cause, a.signer service = .error cause ∧ b.signer service = .error cause) ∨
      ∃ s t : Signer, a.signer service = .ok s ∧ b.signer service = .ok t ∧
        ∀ request seconds,
          (∃ cause, s.sign request seconds = .error cause ∧
            t.sign request seconds = .error cause) ∨
          ∃ left right, s.sign request seconds = .ok left ∧ t.sign request seconds = .ok right ∧
            (left = right ↔ usedToken a.sessionToken = usedToken b.sessionToken) := by
  rw [signer_eq, signer_eq, same.tokenless_eq]
  cases b.tokenless service with
  | error cause => exact .inl ⟨cause, rfl, rfl⟩
  | ok signer =>
      refine .inr ⟨_, _, rfl, rfl, fun request seconds => ?_⟩
      rcases Signer.sign_cases request seconds with ⟨cause, refused⟩ | accepted
      · exact .inl ⟨cause, refused _, refused _⟩
      · obtain ⟨left, signed⟩ := accepted (signer.withToken (usedToken a.sessionToken))
        obtain ⟨right, signed'⟩ := accepted (signer.withToken (usedToken b.sessionToken))
        have alike : usedToken a.sessionToken = none ↔ usedToken b.sessionToken = none := by
          rw [usedToken_eq_none_iff, same.sessionToken, usedToken_eq_none_iff]
        exact .inr ⟨left, right, signed, signed',
          Signer.sign_withToken_eq_iff alike signed signed'⟩

end AccessSettings

/-! ### Padding that changes nothing, and padding that is signed -/

/-- The settings of the published examples of the signing process, with a session token. -/
def exampleSettings (token : String) : AccessSettings :=
  ⟨some "AKIDEXAMPLE", some "wJalrXUtnFEMI/K7MDENG+bPxRfiCYEXAMPLEKEY", some token, "us-east-1",
    none⟩

/-- The same settings with blanks around the keys and the region. -/
def paddedSettings (token : String) : AccessSettings :=
  ⟨some " AKIDEXAMPLE\n", some "\twJalrXUtnFEMI/K7MDENG+bPxRfiCYEXAMPLEKEY", some token,
    " us-east-1 ", none⟩

theorem signer_exampleSettings_ok (token : String) (given : Text.isBlankText token = false) :
    (exampleSettings token).signer "service" =
      .ok (Signing.exampleSigner.withToken (some token)) := by
  have access : required (some "AKIDEXAMPLE") .accessKeyId = .ok "AKIDEXAMPLE" := by
    decide +kernel
  have secret : required (some "wJalrXUtnFEMI/K7MDENG+bPxRfiCYEXAMPLEKEY") .secretAccessKey =
      .ok "wJalrXUtnFEMI/K7MDENG+bPxRfiCYEXAMPLEKEY" := by
    decide +kernel
  have region : required (some "us-east-1") .region = .ok "us-east-1" := by
    decide +kernel
  have used : usedToken (some token) = some token := by
    rw [usedToken, Option.filter_some, given]
    rfl
  rw [AccessSettings.signer_eq, AccessSettings.tokenless, exampleSettings, access, secret, region,
    used]
  rfl

theorem sign_exampleRequest_ok (s : Signer) :
    ∃ headers, s.sign (Signing.exampleRequest []) 1440938160 = .ok headers :=
  ⟨_, rfl⟩

/-- Blanks around the keys and the region do not change what is returned. -/
theorem padded_keys_sign_alike :
    (exampleSettings "session-token").SameButPadding (paddedSettings "session-token") ∧
      ∃ s t headers, (exampleSettings "session-token").signer "service" = .ok s ∧
        (paddedSettings "session-token").signer "service" = .ok t ∧
        s.sign (Signing.exampleRequest []) 1440938160 = .ok headers ∧
        t.sign (Signing.exampleRequest []) 1440938160 = .ok headers := by
  have same : (exampleSettings "session-token").SameButPadding
      (paddedSettings "session-token") := by
    constructor <;> decide +kernel
  have built := signer_exampleSettings_ok "session-token" rfl
  refine ⟨same, ?_⟩
  rcases AccessSettings.padded_settings_sign_alike_iff same "service" with
    ⟨cause, failed, -⟩ | ⟨s, t, first, second, sign⟩
  · rw [built] at failed
    cases failed
  · rcases sign (Signing.exampleRequest []) 1440938160 with
      ⟨cause, refused, -⟩ | ⟨left, right, signed, signed', alike⟩
    · obtain ⟨headers, accepted⟩ := sign_exampleRequest_ok s
      rw [accepted] at refused
      cases refused
    · cases alike.2 rfl
      exact ⟨s, t, left, first, second, signed, signed'⟩

/-- Blanks around the token do. -/
theorem padded_token_is_signed_as_configured :
    (exampleSettings "session-token").SameButPadding (exampleSettings " session-token ") ∧
      ∃ s t left right, (exampleSettings "session-token").signer "service" = .ok s ∧
        (exampleSettings " session-token ").signer "service" = .ok t ∧
        s.sign (Signing.exampleRequest []) 1440938160 = .ok left ∧
        t.sign (Signing.exampleRequest []) 1440938160 = .ok right ∧ left ≠ right := by
  have same : (exampleSettings "session-token").SameButPadding
      (exampleSettings " session-token ") := by
    constructor <;> decide +kernel
  have built := signer_exampleSettings_ok "session-token" rfl
  have built' := signer_exampleSettings_ok " session-token " rfl
  obtain ⟨left, signed⟩ := sign_exampleRequest_ok
    (Signing.exampleSigner.withToken (some "session-token"))
  obtain ⟨right, signed'⟩ := sign_exampleRequest_ok
    (Signing.exampleSigner.withToken (some " session-token "))
  refine ⟨same, _, _, left, right, built, built', signed, signed', ?_⟩
  rw [Ne, Signer.sign_withToken_eq_iff (by decide) signed signed']
  decide

end Settings

end StackDeploy
