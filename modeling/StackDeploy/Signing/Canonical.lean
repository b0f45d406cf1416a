/-
# Canonical requests

Two requests that mean the same have one canonical form: the path and the query are percent-encoded,
the query is sorted, header names are in lower case and in order, and header values have their
blanks collapsed. The form is a text of lines, and the hash of that text is what gets signed.
-/

import StackDeploy.Digest.Hmac
import StackDeploy.Names.Map
import StackDeploy.Signing.Request
import StackDeploy.Text.Cut
import StackDeploy.Text.Percent

namespace StackDeploy.Signing

/-- Headers by their lower-case names. -/
abbrev Headers := NameMap String

/-- The name of the algorithm in what is signed and sent. -/
def algorithm : String := "AWS4-HMAC-SHA256"

/-- The last part of every credential scope. -/
def scopeTerminator : String := "aws4_request"

/-- The encoded path: it starts with a slash and keeps its slashes. -/
def canonicalPath (path : String) : String :=
  if path.isEmpty then "/"
  else
    let encoded := Text.Percent.encode path true
    if Text.startsWith encoded "/" then encoded else "/" ++ encoded

/-- The order of encoded pairs: by key, then by value. -/
def pairLe (a b : String × String) : Bool :=
  a.1 < b.1 || (a.1 == b.1 && a.2 ≤ b.2)

/-- A key and a value as they stand in a query or a form. -/
def encodePair (pair : String × String) : String × String :=
  (Text.Percent.encode pair.1 false, Text.Percent.encode pair.2 false)

/-- An encoded pair joined by its sign. -/
def joinPair (pair : String × String) : String :=
  pair.1 ++ "=" ++ pair.2

/-- The encoded query, sorted. -/
def canonicalQuery (query : List (String × String)) : String :=
  String.intercalate "&" (((query.map encodePair).mergeSort pairLe).map joinPair)

/-- The name of a header in canonical form. -/
def headerName (name : String) : String :=
  (Text.trim name).map Char.toLower

/-- A value joined to the earlier values of the same header. -/
def joinHeader (headers : Headers) (header : String × String) : Headers :=
  let name := headerName header.1
  let value := Text.collapse header.2
  match headers.get? name with
  | some earlier => headers.insert name (earlier ++ "," ++ value)
  | none => headers.insert name value

/-- The headers of a request in canonical form; values of one name are joined in their order. -/
def canonicalHeaders (headers : List (String × String)) : Headers :=
  headers.foldl joinHeader .empty

/-- The lines of the canonical headers. -/
def headerBlock (headers : Headers) : String :=
  String.join (headers.entries.map fun header => header.1 ++ ":" ++ header.2 ++ "\n")

/-- The names of the signed headers. -/
def signedNames (headers : Headers) : String :=
  String.intercalate ";" headers.keys

/-- The lower-case hexadecimal hash of a text. -/
def hashText (text : String) : String :=
  Text.hexOfBytes (Digest.sha256 (Text.bytes text))

/-- The parts of a canonical request. -/
structure CanonicalRequest where
  method : String
  path : String
  query : String
  headers : Headers
  payloadHash : String
deriving DecidableEq

/-- The text of a canonical request. -/
def CanonicalRequest.text (r : CanonicalRequest) : String :=
  r.method ++ "\n" ++ r.path ++ "\n" ++ r.query ++ "\n" ++ headerBlock r.headers ++ "\n" ++
    signedNames r.headers ++ "\n" ++ r.payloadHash

/-- The scope of a signature: the day, the region and the service. -/
def credentialScope (date region service : String) : String :=
  date ++ "/" ++ region ++ "/" ++ service ++ "/" ++ scopeTerminator

/-- The text that is signed. -/
def stringToSign (timestamp scope canonicalRequest : String) : String :=
  algorithm ++ "\n" ++ timestamp ++ "\n" ++ scope ++ "\n" ++ hashText canonicalRequest

/-- The signing key for a day, a region and a service. -/
def signingKey (secret date region service : String) : List UInt8 :=
  [date, region, service, scopeTerminator].foldl
    (fun key part => Digest.hmacSha256 key (Text.bytes part)) (Text.bytes ("AWS4" ++ secret))

/-- The signature of a text. -/
def signature (key : List UInt8) (text : String) : String :=
  Text.hexOfBytes (Digest.hmacSha256 key (Text.bytes text))

end StackDeploy.Signing
