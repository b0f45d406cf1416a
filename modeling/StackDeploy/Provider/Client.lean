/-
# Calling a service

A client sends signed requests to the endpoint of one service. What is sent is made from the request
and the headers that were signed: the canonical path and query become those of the URL, and every
header but the host, which the URL gives, is sent as signed. A user before the host of the endpoint
is not sent in the URL; it becomes an authorization of its own, which is sent besides the one of the
signer. A request is sent once. The network itself is a parameter: a clock, a source of fresh
tokens, and the exchange of a request for an answer.
-/

import StackDeploy.Json.Printer
import StackDeploy.Provider.Response
import StackDeploy.Signing.Signer
import StackDeploy.Text.Base64

namespace StackDeploy

open Json (Value)
open Signing (Request Signer)
open Web (Url)

/-- A request as it is sent. The headers that go with every request unless it brings them, for what
is accepted and the length of the body, are left out. -/
structure WireRequest where
  method : String
  url : Url
  headers : List (String × String)
  body : String
deriving DecidableEq

/-- An answer as it arrives. -/
structure Answer where
  status : Nat
  body : String
deriving DecidableEq

/-- What a client needs of the world around it. -/
structure Network (m : Type → Type) where
  /-- The current second, counted from the beginning of 1970. -/
  now : m Int
  /-- A token that has not been used before. -/
  freshToken : m String
  /-- Sends a request and waits for the answer. -/
  exchange : WireRequest → m (Except NetworkError Answer)

/-- Whether a character may stand in a word of the web's protocol. -/
def isTokenChar (c : Char) : Bool :=
  c.isAlphanum || c == Char.ofNat 96 || "!#$%&'*+-.^_|~".toList.contains c

/-- Whether a text is a word of the web's protocol. -/
def isToken (s : String) : Bool :=
  !s.toList.isEmpty && s.toList.all isTokenChar

/-- Whether a text may be the value of a header. -/
def isHeaderValue (s : String) : Bool :=
  s.toList.all fun c => c == '\t' || (0x20 ≤ c.val && c.val ≠ 0x7F)

/-- The schemes that requests are sent to. -/
def sendableSchemes : List String := ["http", "https"]

/-- A client for one service. -/
structure Client where
  signer : Signer
  endpoint : Url
deriving DecidableEq

namespace Client

/-- The endpoint of a service in a region. -/
def regionalEndpoint (signer : Signer) : String :=
  "https://" ++ signer.service ++ "." ++ signer.region ++ ".amazonaws.com"

/-- A client for a signer, with the regional endpoint unless another one is given. -/
def make (signer : Signer) (endpoint : Option String) : Except NetworkError Client :=
  let address := endpoint.getD (regionalEndpoint signer)
  match Url.ofText address with
  | .error cause => .error (.invalidEndpoint address cause)
  | .ok none => .error (.noHost address)
  | .ok (some url) => .ok ⟨signer, url⟩

/-- The host that requests are addressed to. -/
def host (c : Client) : String :=
  c.endpoint.hostText

/-- Checks that headers can be sent. -/
def checkHeaders : List (String × String) → Except NetworkError Unit
  | [] => .ok ()
  | (name, value) :: rest =>
    if !isToken name then .error .invalidHeaderName
    else if !isHeaderValue value then .error .invalidHeaderValue
    else checkHeaders rest

/-- The header that tells a user and a password. -/
def basicHeader (user : String) (password : Option String) : String × String :=
  ("authorization", "Basic " ++ Text.Base64.encode (user ++ ":" ++ password.getD ""))

/-- The header that the endpoint itself asks for, if it gives a user or a password. -/
def endpointHeaders (c : Client) : List (String × String) :=
  c.endpoint.credentials?.toList.map fun (user, password) => basicHeader user password

/-- The URL that a request is sent to. -/
def urlFor (c : Client) (request : Request) : Url :=
  let query := Signing.canonicalQuery request.query
  ((c.endpoint.withoutCredentials.setPath (Signing.canonicalPath request.path)).setQuery
    (if query.isEmpty then none else some query))

/-- The request that is sent, signed as of a second. -/
def prepare (c : Client) (request : Request) (seconds : Int) : Except CallError WireRequest :=
  match c.signer.sign request seconds with
  | .error cause => .error (.signing cause)
  | .ok signed =>
    let method := request.method.map Char.toUpper
    let url := c.urlFor request
    let headers := signed.entries.filter fun header => header.1 != "host"
    if !isToken method then .error (.network .invalidMethod)
    else
      match checkHeaders headers with
      | .error cause => .error (.network cause)
      | .ok () =>
        if sendableSchemes.contains url.scheme then
          .ok ⟨method, url, c.endpointHeaders ++ headers, request.body⟩
        else .error (.network (.unsupportedScheme url.text))

variable {m : Type → Type} [Monad m]

/-- Signs and sends a request and reads the answer. -/
def send (c : Client) (network : Network m) (request : Request) :
    m (Except CallError (Option Value)) := do
  let seconds ← network.now
  match c.prepare request seconds with
  | .error cause => pure (.error cause)
  | .ok wire =>
    let received ← network.exchange wire
    match received with
    | .error cause => pure (.error (.network cause))
    | .ok answer => pure (decodeResponse answer.status answer.body)

/-- The media type of a form. -/
def formType : String := "application/x-www-form-urlencoded; charset=utf-8"

/-- The media type of a JSON document. -/
def documentType : String := "application/x-amz-json-1.1"

/-- Fields in encoded form, in their order. -/
def formBody (fields : List (String × String)) : String :=
  String.intercalate "&" (fields.map fun field => Signing.joinPair (Signing.encodePair field))

/-- The request that posts a body to the root of the service. -/
def postRequest (c : Client) (headers : List (String × String)) (body : String) : Request :=
  ⟨"POST", c.host, "/", [], headers, body⟩

/-- The request that calls an action of an interface version with parameters. -/
def queryRequest (c : Client) (action version : String) (parameters : List (String × String)) :
    Request :=
  c.postRequest [("content-type", formType)]
    (formBody (("Action", action) :: ("Version", version) :: parameters))

/-- Calls an action with parameters. -/
def query (c : Client) (network : Network m) (action version : String)
    (parameters : List (String × String)) : m (Except CallError (Option Value)) :=
  c.send network (c.queryRequest action version parameters)

/-- The request that sends a document to a target. -/
def documentRequest (c : Client) (target : String) (payload : Value) : Request :=
  c.postRequest [("content-type", documentType), ("x-amz-target", target)] payload.compact

/-- Sends a document to a target. -/
def document (c : Client) (network : Network m) (target : String) (payload : Value) :
    m (Except CallError (Option Value)) :=
  c.send network (c.documentRequest target payload)

end Client

end StackDeploy
