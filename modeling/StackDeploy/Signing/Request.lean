/-
# Requests

A request to be signed is given by what its sender means: the path and the query are not encoded
yet, and header names may come in any case and more than once.
-/

import StackDeploy.Text.Blank

namespace StackDeploy.Signing

/-- A request before it is signed. -/
structure Request where
  method : String
  host : String
  path : String
  query : List (String × String)
  headers : List (String × String)
  body : String
deriving DecidableEq

/-- Why a request cannot be signed. -/
inductive SigningError where
  | missingField (field : String)
  | invalidRequest (cause : String)
deriving DecidableEq

/-- The wording of a signing error. -/
def SigningError.message : SigningError → String
  | .missingField field => "missing " ++ field
  | .invalidRequest cause => "invalid request: " ++ cause

/-- An access key pair, with a token when the keys are temporary. -/
structure Credentials where
  accessKeyId : String
  secretAccessKey : String
  sessionToken : Option String
deriving DecidableEq

/-- Credentials from their parts: both keys have to be there, and a blank token is none. -/
def Credentials.make (accessKeyId secretAccessKey : String) (sessionToken : Option String) :
    Except SigningError Credentials :=
  if Text.isBlankText accessKeyId then .error (.missingField "access key id")
  else if Text.isBlankText secretAccessKey then .error (.missingField "secret access key")
  else .ok ⟨accessKeyId, secretAccessKey, sessionToken.filter fun token => !Text.isBlankText token⟩

end StackDeploy.Signing
