/-
# Failed calls

A call to the provider fails because it cannot be signed, because no answer arrives, because the
answer cannot be read, or because the answer says so: in an error envelope with a code and a
message, or by nothing but its status.
-/

import StackDeploy.Json.Problem
import StackDeploy.Signing.Request
import StackDeploy.Web.Url
import StackDeploy.Xml.Element

namespace StackDeploy

/-- The formats of an answer. -/
inductive Format where
  | empty
  | xml
  | json
  | text
deriving DecidableEq

/-- The word for a format in messages. -/
def Format.label : Format → String
  | .empty => "empty"
  | .xml => "XML"
  | .json => "JSON"
  | .text => "text"

/-- Why an answer cannot be read. -/
inductive DecodeError where
  | xml (cause : Xml.XmlError)
  | json (cause : Json.Problem)
  /-- Neither XML nor JSON. -/
  | unrecognised
deriving DecidableEq

/-- The format that an unreadable answer was taken to have. -/
def DecodeError.format : DecodeError → Format
  | .xml _ => .xml
  | .json _ => .json
  | .unrecognised => .text

/-- The wording for an unreadable answer. -/
def DecodeError.cause : DecodeError → String
  | .xml cause => cause.message
  | .json cause => cause.message
  | .unrecognised => "unrecognised response body"

/-- Why no answer arrives. -/
inductive NetworkError where
  /-- The endpoint is no URL. -/
  | invalidEndpoint (endpoint : String) (cause : Web.UrlError)
  /-- The endpoint is a URL without a host. -/
  | noHost (endpoint : String)
  /-- The method is no word of the web's protocol. -/
  | invalidMethod
  /-- The name of a header is no word of the web's protocol. -/
  | invalidHeaderName
  /-- The value of a header holds a control character. -/
  | invalidHeaderValue
  /-- The scheme of a URL is not one of the web's protocol. -/
  | unsupportedScheme (url : String)
  /-- Nothing answers at a URL. -/
  | unreachable (url : String)
  /-- A cause that was reported in words. -/
  | reported (cause : String)
deriving DecidableEq

/-- The wording for an answer that does not arrive. -/
def NetworkError.message : NetworkError → String
  | .invalidEndpoint endpoint cause => "invalid endpoint " ++ endpoint ++ ": " ++ cause.message
  | .noHost endpoint => "endpoint " ++ endpoint ++ " has no host"
  | .invalidMethod => "invalid HTTP method"
  | .invalidHeaderName => "builder error: invalid HTTP header name"
  | .invalidHeaderValue => "builder error: failed to parse header value"
  | .unsupportedScheme url => "builder error for url (" ++ url ++ "): URL scheme is not allowed"
  | .unreachable url => "error sending request for url (" ++ url ++ ")"
  | .reported cause => cause

/-- Why a call fails. -/
inductive CallError where
  /-- A status without an error envelope; the body is kept as it came. -/
  | http (status : Nat) (body : String)
  /-- An error envelope. -/
  | provider (status : Nat) (code message : String)
  /-- No answer. -/
  | network (cause : NetworkError)
  /-- An answer that cannot be read. -/
  | decode (cause : DecodeError)
  /-- A request that cannot be signed. -/
  | signing (cause : Signing.SigningError)
deriving DecidableEq

/-- The wording of a failed call. -/
def CallError.message : CallError → String
  | .http status body => "HTTP " ++ Text.decimal status ++ ": " ++ body
  | .provider _ code message => code ++ ": " ++ message
  | .network cause => "network error: " ++ cause.message
  | .decode cause => "failed to decode " ++ cause.format.label ++ " response: " ++ cause.cause
  | .signing cause => cause.message

end StackDeploy
