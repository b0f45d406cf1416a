/-
# Signing requests

A signer stands for one service in one region. Signing is a function of the request, the credentials
and the second: the same inputs always give the same headers. The result holds every header of the
request with the host, the timestamp, the token of temporary credentials and the authorization.
-/

import StackDeploy.Signing.Canonical
import StackDeploy.Signing.Timestamp

namespace StackDeploy.Signing

/-- A signer for one service in one region. Every service but one signs the encoded path encoded
once more. -/
structure Signer where
  credentials : Credentials
  service : String
  region : String
  encodesTwice : Bool
deriving DecidableEq

namespace Signer

/-- The service that signs a path encoded once. -/
def singleEncodingService : String := "s3"

/-- A signer from its parts; the service and the region have to be there. -/
def make (credentials : Credentials) (service region : String) : Except SigningError Signer :=
  if Text.isBlankText service then .error (.missingField "service name")
  else if Text.isBlankText region then .error (.missingField "region")
  else .ok ⟨credentials, service, region, service ≠ singleEncodingService⟩

/-- The signer with another choice of how often a path is encoded. -/
def withEncoding (s : Signer) (twice : Bool) : Signer :=
  { s with encodesTwice := twice }

/-- The path as it is signed. -/
def signingPath (s : Signer) (path : String) : String :=
  if s.encodesTwice then Text.Percent.encode (canonicalPath path) true else canonicalPath path

/-- The headers that are signed. -/
def signedHeaders (s : Signer) (request : Request) (seconds : Int) : Headers :=
  let headers := (canonicalHeaders request.headers).insert "host" (Text.trim request.host)
  let headers := headers.insert "x-amz-date" (timestampText seconds)
  match s.credentials.sessionToken with
  | some token => headers.insert "x-amz-security-token" token
  | none => headers

/-- The canonical form of a request with the headers that are signed. -/
def canonicalRequest (s : Signer) (request : Request) (headers : Headers) : CanonicalRequest where
  method := request.method.map Char.toUpper
  path := s.signingPath request.path
  query := canonicalQuery request.query
  headers := headers
  payloadHash := hashText request.body

/-- The authorization for a canonical request. -/
def authorization (s : Signer) (canonical : CanonicalRequest) (seconds : Int) : String :=
  let date := dateText seconds
  let scope := credentialScope date s.region s.service
  let key := signingKey s.credentials.secretAccessKey date s.region s.service
  algorithm ++ " Credential=" ++ s.credentials.accessKeyId ++ "/" ++ scope ++ ", SignedHeaders=" ++
    signedNames canonical.headers ++ ", Signature=" ++
    signature key (stringToSign (timestampText seconds) scope canonical.text)

/-- Signs a request as of a second. -/
def sign (s : Signer) (request : Request) (seconds : Int) : Except SigningError Headers :=
  if Text.isBlankText request.method then .error (.invalidRequest "empty method")
  else if Text.isBlankText request.host then .error (.invalidRequest "empty host")
  else
    let headers := s.signedHeaders request seconds
    .ok (headers.insert "authorization"
      (s.authorization (s.canonicalRequest request headers) seconds))

end Signer

end StackDeploy.Signing
