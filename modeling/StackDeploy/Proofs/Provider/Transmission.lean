/-
# What is sent and what was signed

A request is put in canonical form twice, to be signed and to be sent. The query and the headers
that are sent are those that were signed, but for a header with the name of the authorization, which
is signed and then overwritten; beside it stands the authorization of the user that the endpoint
names, if it names one. The path that is sent is the one that was signed unless a segment is a dot
or two: a URL resolves these, and what is signed keeps them. No other path is changed, whatever
characters it has and wherever its slashes stand.
-/

import StackDeploy.Proofs.Provider.Form
import StackDeploy.Proofs.Signing.Query
import StackDeploy.Proofs.Web.DotSegments

namespace StackDeploy

open Signing (CanonicalRequest HasDotSegment Request Signer canonicalQuery headerName)

/-! ## Queries in URLs -/

namespace Signing

open Web.Url (IsEncodedChar)

theorem isEncodedChar_of_mem_encode {c : Char} {s : String} {keepSlash : Bool}
    (mem : c ∈ (Text.Percent.encode s keepSlash).toList) : IsEncodedChar c := by
  rw [Text.Percent.toList_encode] at mem
  exact Web.Url.isEncodedChar_of_mem_encodeChars mem

theorem isEncodedChar_of_mem_canonicalQuery {c : Char} {query : List (String × String)}
    (mem : c ∈ (canonicalQuery query).toList) : IsEncodedChar c := by
  rcases mem_canonicalQuery mem with unreserved | rfl | rfl | rfl
  · exact .inl unreserved
  all_goals exact .inr (by decide)

/-- A URL keeps a canonical query as it is. -/
theorem query_setQuery (url : Web.Url) (query : List (String × String)) :
    (url.setQuery (if (canonicalQuery query).isEmpty then none
        else some (canonicalQuery query))).query =
      if (canonicalQuery query).isEmpty then none else some (canonicalQuery query) := by
  split
  · rfl
  · rw [Web.Url.setQuery, Option.map_some, Web.Url.escapeChars_eq_self fun c mem =>
      (isEncodedChar_of_mem_canonicalQuery mem).kept_in_query url.scheme, String.ofList_toList]

/-- A path in encoded form, as it is signed: encoded once more, unless the service signs a path that
is encoded once. -/
def Signer.signedForm (s : Signer) (encoded : String) : String :=
  if s.encodesTwice then Text.Percent.encode encoded true else encoded

/-- What is signed tells the path in encoded form. -/
theorem Signer.signedForm_inj {s : Signer} {path other : String} :
    s.signedForm path = s.signedForm other ↔ path = other := by
  refine ⟨fun same => ?_, congrArg s.signedForm⟩
  unfold signedForm at same
  split at same
  · exact Text.Percent.encode_inj.1 same
  · exact same

end Signing

/-! ## What is sent -/

namespace Client

/-- The canonical request that a client signs as of a second. -/
def signs (client : Client) (request : Request) (seconds : Int) : CanonicalRequest :=
  client.signer.canonicalRequest request (client.signer.signedHeaders request seconds)

/-- The authorization for what a client signs. -/
def authorizes (client : Client) (request : Request) (seconds : Int) : String :=
  client.signer.authorization (client.signs request seconds) seconds

/-- How a request is sent, compared with the canonical request that was signed as of a second. -/
structure Transmits (client : Client) (request : Request) (seconds : Int) (wire : WireRequest) :
    Prop where
  method : wire.method = (client.signs request seconds).method
  /-- The URL has the host of the client, to which a request is addressed. -/
  host : wire.url.hostText = client.host
  /-- The path is the one that was signed unless it has a dot segment. -/
  path_iff : client.signer.signedForm wire.url.path = (client.signs request seconds).path ↔
    ¬ HasDotSegment request.path
  /-- The query is the one that was signed, and there is none if that is empty. -/
  query : wire.url.query = if (client.signs request seconds).query.isEmpty then none
    else some (client.signs request seconds).query
  /-- Every header that was signed is sent as it was signed, but for the host, which the URL gives,
  and an authorization. -/
  headers : ∀ name value, (client.signs request seconds).headers.get? name = some value →
    name ≠ "host" → name ≠ "authorization" → (name, value) ∈ wire.headers
  /-- The authorization for what was signed is sent, whatever was signed in its place, and so is the
  one for the user that the endpoint names. There is no other one. -/
  authorization : ∀ value, ("authorization", value) ∈ wire.headers ↔
    value = client.authorizes request seconds ∨ ("authorization", value) ∈ client.endpointHeaders
  /-- Every header has a name and a value that may stand in one. -/
  proper : ∀ header ∈ wire.headers, IsProper header
  payload : (client.signs request seconds).payloadHash = Signing.hashText wire.body

variable {client : Client} {request : Request} {seconds : Int} {wire : WireRequest}

theorem path_signs (client : Client) (request : Request) (seconds : Int) :
    (client.signs request seconds).path =
      client.signer.signedForm (Signing.canonicalPath request.path) := rfl

/-- What is sent is made from the request and the headers that signing returns, and only to an
endpoint of the web. -/
theorem eq_of_prepare (prepared : client.prepare request seconds = .ok wire) :
    ∃ signed, client.signer.sign request seconds = .ok signed ∧
      client.endpoint.scheme ∈ sendableSchemes ∧
        (∀ header ∈ signed.entries.filter fun header => header.1 != "host", IsProper header) ∧
          wire = ⟨request.method.map Char.toUpper, client.urlFor request, client.endpointHeaders ++
            signed.entries.filter fun header => header.1 != "host", request.body⟩ := by
  unfold prepare at prepared
  dsimp only at prepared
  split at prepared
  · cases prepared
  next signed returned =>
    split at prepared
    · cases prepared
    · split at prepared
      · cases prepared
      next checked =>
        split at prepared
        next web =>
          cases prepared
          exact ⟨signed, returned, List.contains_iff_mem.1 web, checkHeaders_eq_ok_iff.1 checked,
            rfl⟩
        · cases prepared

/-- The path of the URL is the canonical one exactly if the path has no dot segment. -/
theorem path_urlFor_iff (web : client.endpoint.scheme ∈ sendableSchemes) :
    (client.urlFor request).path = Signing.canonicalPath request.path ↔
      ¬ HasDotSegment request.path := by
  have special : Web.isSpecial client.endpoint.scheme = true ∧
      client.endpoint.scheme ≠ Web.fileScheme := by
    rcases List.mem_pair.1 web with same | same <;> rw [same] <;> decide
  exact Signing.pathText_canonicalPath_iff special.1 special.2 request.path

/-- The headers that signing returns, without the host: the authorization and, under other names,
what was signed. -/
theorem mem_returned_iff {signed : Signing.Headers} {name value : String}
    (returned : client.signer.sign request seconds = .ok signed) :
    (name, value) ∈ signed.entries.filter (fun header => header.1 != "host") ↔
      name ≠ "host" ∧ (if "authorization" = name then some (client.authorizes request seconds)
        else (client.signs request seconds).headers.get? name) = some value := by
  rw [List.mem_filter, ← NameMap.get?_eq_some_iff, Signing.Signer.eq_of_sign returned,
    NameMap.get?_insert, and_comm, bne_iff_ne]
  rfl

theorem transmits_of_prepare (prepared : client.prepare request seconds = .ok wire) :
    client.Transmits request seconds wire := by
  obtain ⟨signed, returned, web, proper, rfl⟩ := eq_of_prepare prepared
  exact
    { method := rfl
      host := rfl
      path_iff := by
        rw [path_signs, Signing.Signer.signedForm_inj]
        exact path_urlFor_iff web
      query := Signing.query_setQuery _ _
      headers := fun name value found guest other => List.mem_append_right _
        ((mem_returned_iff returned).2 ⟨guest, (if_neg (Ne.symm other)).trans found⟩)
      authorization := fun value => by
        rw [List.mem_append, mem_returned_iff returned, if_pos rfl, Option.some_inj, or_comm,
          and_iff_right (by decide), eq_comm]
      proper := List.forall_mem_append.2
        ⟨fun _ => isProper_of_mem_endpointHeaders, proper⟩
      payload := rfl }

/-- A client sends what it has prepared as of the second of its clock, once. -/
theorem sent_send {σ : Type} (client : Client) (network : Network (StateM σ)) (request : Request)
    (s : σ) :
    ((client.send network.recording request).run (s, [])).2.2 =
      (client.prepare request (network.now.run s).1).toOption.toList := by
  cases prepared : client.prepare request (network.now.run s).1 with
  | error cause =>
      rw [run_send_recording_of_error [] prepared]
      rfl
  | ok wire =>
      obtain ⟨result, s', ran⟩ := run_send_recording_of_ok [] prepared
      rw [ran]
      rfl

/-- What is sent was signed. Whenever a client sends a request, the path that is sent, in the form
that is signed, is the path that was signed exactly if it has no dot segment. The query is always
the one that was signed, and so is every header but the host and an authorization; and nothing is
signed as an authorization unless the request brings a header of that name. Besides the
authorization for what was signed that of the user is sent whom the endpoint names. -/
theorem sent_is_signed_iff {σ : Type} (client : Client) (network : Network (StateM σ))
    (request : Request) (s : σ) :
    let seconds := (network.now.run s).1
    let sent := ((client.send network.recording request).run (s, [])).2.2
    ∀ wire ∈ sent, client.Transmits request seconds wire ∧
      ("authorization" ∈ (client.signs request seconds).headers.keys ↔
        ∃ header ∈ request.headers, headerName header.1 = "authorization") := by
  intro seconds sent wire mem
  change wire ∈ ((client.send network.recording request).run (s, [])).2.2 at mem
  rw [sent_send, Option.mem_toList] at mem
  refine ⟨transmits_of_prepare ?_, Signing.Signer.authorization_mem_keys_signedHeaders⟩
  cases prepared : client.prepare request seconds with
  | error cause =>
      rw [prepared] at mem
      cases mem
  | ok other =>
      rw [prepared] at mem
      cases mem
      rfl

end Client

/-- A request that posts an empty form to a path. -/
def requestTo (path : String) : Request :=
  ⟨"POST", exampleClient.host, path, [], [("content-type", Client.formType)], ""⟩

theorem exampleClient_sends_request (path : String) :
    ∃ wire, exampleClient.prepare (requestTo path) 0 = .ok wire ∧
      ((exampleClient.send (Network.answering ⟨200, ""⟩).recording (requestTo path)).run
        ((), [])).2.2 = [wire] := by
  obtain ⟨wire, prepared⟩ := exampleClient_sends_to path [] ""
  refine ⟨wire, prepared, (Client.sent_send _ _ _ _).trans ?_⟩
  change (exampleClient.prepare (requestTo path) 0).toOption.toList = [wire]
  rw [show exampleClient.prepare (requestTo path) 0 = .ok wire from prepared]
  rfl

/-- A path with blanks and doubled slashes is sent as it was signed. -/
theorem blank_path_is_sent_as_signed :
    ∃ wire, wire ∈ ((exampleClient.send (Network.answering ⟨200, ""⟩).recording
        (requestTo "//my docs/ü")).run ((), [])).2.2 ∧
      exampleClient.signer.signedForm wire.url.path =
        (exampleClient.signs (requestTo "//my docs/ü") 0).path := by
  obtain ⟨wire, -, sent⟩ := exampleClient_sends_request "//my docs/ü"
  have mem := sent ▸ List.mem_singleton_self wire
  obtain ⟨transmits, -⟩ := Client.sent_is_signed_iff exampleClient (Network.answering ⟨200, ""⟩)
    (requestTo "//my docs/ü") () wire mem
  exact ⟨wire, mem, transmits.path_iff.2 (by decide)⟩

/-- Dot segments are signed, but they are not sent. -/
theorem dot_segments_are_signed_but_not_sent :
    ∃ wire, ((exampleClient.send (Network.answering ⟨200, ""⟩).recording
        (requestTo "/a/../b")).run ((), [])).2.2 = [wire] ∧
      wire.url.path = "/b" ∧ (exampleClient.signs (requestTo "/a/../b") 0).path = "/a/../b" ∧
        exampleClient.signer.signedForm wire.url.path ≠
          (exampleClient.signs (requestTo "/a/../b") 0).path := by
  obtain ⟨wire, prepared, sent⟩ := exampleClient_sends_request "/a/../b"
  obtain ⟨_, -, -, -, made⟩ := Client.eq_of_prepare prepared
  have path : wire.url.path = "/b" := by
    rw [made]
    change (exampleClient.urlFor (requestTo "/a/../b")).path = "/b"
    decide +kernel
  have signed : (exampleClient.signs (requestTo "/a/../b") 0).path = "/a/../b" := by
    decide +kernel
  refine ⟨wire, sent, path, signed, ?_⟩
  rw [path, signed]
  decide +kernel

end StackDeploy
