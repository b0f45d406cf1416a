/-
# Answers of the provider

The format of an answer is told by its first character that is not blank. An answer in XML or JSON
becomes a value. Error envelopes are looked for in XML whatever the status says, and in JSON only
when the status is no success; any other answer without success is an error that keeps the body.
-/

import StackDeploy.Json.Reader
import StackDeploy.Provider.Error
import StackDeploy.Xml.Value

namespace StackDeploy

open Json (Value Members)

/-- The format of a body. -/
def Format.ofBody (body : String) : Format :=
  match Text.trimLeft body.toList with
  | [] => .empty
  | '<' :: _ => .xml
  | '\x7b' :: _ => .json
  | '[' :: _ => .json
  | _ :: _ => .text

/-- Whether a status reports success. -/
def isSuccess (status : Nat) : Bool :=
  200 ≤ status && status < 300

/-- The code and the message of an error envelope. -/
structure Envelope where
  code : String
  message : String
deriving DecidableEq

namespace Envelope

/-- The text of a member of an object. -/
def textOf (key : String) (v : Value) : Option String :=
  (v.get? key).bind Value.string?

/-- The envelope of an error element that states its code. -/
def ofErrorMember (members : Members) : Option Envelope :=
  match members.get? "Error" with
  | some (.object error) =>
    (textOf "Code" (.object error)).map fun code =>
      ⟨code, (textOf "Message" (.object error)).getD ""⟩
  | _ => none

mutual

/-- The first envelope of an object: its own, or that of a member in order. Arrays are not looked
into. -/
def findInXml : Value → Option Envelope
  | .object members =>
    match ofErrorMember members with
    | some envelope => some envelope
    | none => findInMembers members
  | _ => none

/-- The first envelope among the members of an object. -/
def findInMembers : List (String × Value) → Option Envelope
  | [] => none
  | (_, value) :: rest =>
    match findInXml value with
    | some envelope => some envelope
    | none => findInMembers rest

end

/-- The part of a code after its last number sign. -/
def shortCode (code : String) : String :=
  match Text.cutLast '#' code.toList with
  | some (_, after) => String.ofList after
  | none => code

/-- The first of two members of an object that is there. -/
def either (first second : String) (v : Value) : Option Value :=
  match v.get? first with
  | some value => some value
  | none => v.get? second

/-- The envelope of an answer in JSON. -/
def ofJson (v : Value) : Option Envelope :=
  ((either "__type" "code" v).bind Value.string?).map fun code =>
    ⟨shortCode code, ((either "message" "Message" v).bind Value.string?).getD ""⟩

/-- The envelope that an answer holds, if its status lets it count. -/
def find (format : Format) (status : Nat) (v : Value) : Option Envelope :=
  match format with
  | .xml => findInXml v
  | .json => if isSuccess status then none else ofJson v
  | _ => none

end Envelope

/-- The value of a body in a format; blank bodies and plain text have none. -/
def Format.parse (format : Format) (body : String) : Option (Except CallError Value) :=
  match format with
  | .xml =>
    some (match Xml.valueOfText body with
      | .ok value => .ok value
      | .error cause => .error (.decode (.xml cause)))
  | .json =>
    some (match Value.ofText body with
      | .ok value => .ok value
      | .error problem => .error (.decode (.json problem)))
  | .empty | .text => none

/-- What an answer says: a value, nothing at all, or an error. -/
def decodeResponse (status : Nat) (body : String) : Except CallError (Option Value) :=
  let format := Format.ofBody body
  match format.parse body with
  | some (.ok value) =>
    match Envelope.find format status value with
    | some envelope => .error (.provider status envelope.code envelope.message)
    | none => if isSuccess status then .ok (some value) else .error (.http status body)
  | some (.error cause) => .error (if isSuccess status then cause else .http status body)
  | none =>
    if !isSuccess status then .error (.http status body)
    else if format = .empty then .ok none
    else .error (.decode .unrecognised)

end StackDeploy
