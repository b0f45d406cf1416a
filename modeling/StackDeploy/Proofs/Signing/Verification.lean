/-
# Verifying signatures

A receiver knows a request, and it gets the headers that signing returned. It rebuilds the canonical
request from them: every header but the authorization counts, with its value in canonical form. The
signature can be verified if this is the canonical request that was signed.

This module says exactly when it is. Signing puts the header values in canonical form as it takes
them from the request, but the host and the token that it adds itself go in as they are, and a
header of the request with the name of the authorization is signed and then overwritten. So three
things are needed, and they are enough: no header of the request has the name of the authorization,
and both the host and the token are collapsed.
-/

import StackDeploy.Proofs.Names.Lookup
import StackDeploy.Proofs.Text.Splitting
import StackDeploy.Signing.Signer

namespace StackDeploy

namespace NameMap

variable {α : Type} {m : NameMap α} {name : String} {value : α}

/-- The map without the entry of a name. -/
def without (name : String) (m : NameMap α) : NameMap α :=
  ⟨m.entries.filter fun entry => entry.1 ≠ name, m.sorted.sublist (List.filter_sublist.map _)⟩

theorem keys_without (name : String) (m : NameMap α) :
    (m.without name).keys = m.keys.filter fun key => key ≠ name := by
  simp [keys, without, List.filter_map, Function.comp_def]

/-- What is inserted under a name is lost without that name. -/
theorem without_insert : (m.insert name value).without name = m.without name := by
  suffices same : (insertEntry name value m.entries).filter (fun entry => entry.1 ≠ name) =
      m.entries.filter fun entry => entry.1 ≠ name by
    simpa [without, insert] using same
  induction m.entries with
  | nil => simp [insertEntry]
  | cons first rest ih =>
      obtain ⟨key, kept⟩ := first
      simp only [insertEntry]
      split
      · simp
      · split
        · next same => simp [same]
        · rw [List.filter_cons, List.filter_cons, ih]

theorem without_eq_self (absent : name ∉ m.keys) : m.without name = m := by
  refine eq_of_entries (List.filter_eq_self.2 fun entry inside => ?_)
  have differs : entry.1 ≠ name := fun same => absent (same ▸ List.mem_map_of_mem inside)
  exact decide_eq_true differs

end NameMap

namespace Signing

open Text (IsCollapsed)

/-- The headers that a receiver takes from those that were returned: all but the authorization, with
their values in canonical form. -/
def received (headers : Headers) : Headers :=
  (headers.without "authorization").mapValues Text.collapse

section

variable {headers : Headers} {header : String × String} {name value : String}

/-- The values of all headers are collapsed. -/
def AllCollapsed (headers : Headers) : Prop :=
  ∀ name value, headers.get? name = some value → IsCollapsed value

theorem allCollapsed_empty : AllCollapsed .empty := nofun

theorem allCollapsed_insert (collapsed : IsCollapsed value) (all : AllCollapsed headers) :
    AllCollapsed (headers.insert name value) := by
  intro other kept found
  rw [NameMap.get?_insert] at found
  split at found
  · cases found
    exact collapsed
  · exact all other kept found

theorem allCollapsed_joinHeader (all : AllCollapsed headers) :
    AllCollapsed (joinHeader headers header) := by
  have collapsed := Text.isCollapsed_collapse header.2
  unfold joinHeader
  dsimp only
  split
  · next earlier found =>
      have comma : ",".toList = [','] := rfl
      exact allCollapsed_insert (Text.isCollapsed_append comma rfl (all _ _ found) collapsed) all
  · exact allCollapsed_insert collapsed all

/-- The values that signing takes from the request are collapsed. -/
theorem allCollapsed_canonicalHeaders (headers : List (String × String)) :
    AllCollapsed (canonicalHeaders headers) := by
  suffices from_any : ∀ start, AllCollapsed start → AllCollapsed (headers.foldl joinHeader start) from
    from_any _ allCollapsed_empty
  induction headers with
  | nil =>
      intro start all
      exact all
  | cons header rest ih =>
      intro start all
      apply ih
      exact allCollapsed_joinHeader all

theorem mem_keys_insert {key : String} :
    key ∈ (headers.insert name value).keys ↔ key = name ∨ key ∈ headers.keys :=
  NameMap.mem_keys_insertEntry

theorem mem_keys_joinHeader {key : String} :
    key ∈ (joinHeader headers header).keys ↔ key = headerName header.1 ∨ key ∈ headers.keys := by
  unfold joinHeader
  dsimp only
  split
  · exact mem_keys_insert
  · exact mem_keys_insert

/-- The names that signing takes from the request are those of its headers. -/
theorem mem_keys_canonicalHeaders {headers : List (String × String)} {key : String} :
    key ∈ (canonicalHeaders headers).keys ↔ ∃ header ∈ headers, headerName header.1 = key := by
  suffices from_any : ∀ start, key ∈ (headers.foldl joinHeader start).keys ↔
      key ∈ start.keys ∨ ∃ header ∈ headers, headerName header.1 = key from
    (from_any .empty).trans (or_iff_right List.not_mem_nil)
  induction headers with
  | nil => simp
  | cons header rest ih =>
      intro start
      rw [List.foldl_cons, ih, mem_keys_joinHeader, List.exists_mem_cons_iff, eq_comm]
      exact or_assoc.trans or_left_comm

/-- The authorization is not received, and everything else is if nothing else has its name. -/
theorem received_insert (absent : "authorization" ∉ headers.keys) :
    received (headers.insert "authorization" value) = headers.mapValues Text.collapse := by
  rw [received, NameMap.without_insert, NameMap.without_eq_self absent]

/-- The line of a header. -/
def headerLine (name value : String) : List Char :=
  (name ++ ":" ++ value ++ "\n").toList

theorem toList_headerBlock (headers : Headers) :
    (headerBlock headers).toList =
      headers.entries.flatMap fun header => headerLine header.1 header.2 := by
  simp [headerBlock, String.toList_join, List.flatMap_map, headerLine]

/-- Collapsing the values changes the lines of the headers, unless it changes nothing. -/
theorem allCollapsed_of_headerBlock
    (same : headerBlock (headers.mapValues Text.collapse) = headerBlock headers) :
    AllCollapsed headers := by
  have lines := congrArg String.toList same
  rw [toList_headerBlock, toList_headerBlock, NameMap.mapValues, List.flatMap_map] at lines
  have shorter : ∀ header ∈ headers.entries,
      (headerLine header.1 (Text.collapse header.2)).length ≤
        (headerLine header.1 header.2).length := by
    intro header _
    simpa [headerLine] using Text.length_collapse_le header.2
  intro name value found
  have unchanged := Text.eq_of_flatMap_eq shorter lines _ (NameMap.get?_eq_some_iff.1 found)
  exact String.toList_inj.1 (by simpa [headerLine] using unchanged)

end

theorem isSolid_yearText (year : Int) : Text.IsSolid (yearText year) := by
  by_cases past : year < 0
  · rw [yearText, if_pos past]
    simp
    decide
  · by_cases future : 9999 < year
    · rw [yearText, if_neg past, if_pos future]
      simp
      decide
    · rw [yearText, if_neg past, if_neg future]
      simp

theorem isSolid_dateText (seconds : Int) : Text.IsSolid (dateText seconds) := by
  simp [dateText, Date.text, isSolid_yearText]

theorem isSolid_timestampText (seconds : Int) : Text.IsSolid (timestampText seconds) := by
  simp [timestampText, isSolid_dateText]
  decide

namespace Signer

variable {s : Signer} {request : Request} {seconds : Int}

/-- A header with the name of the authorization is signed only if the request has one. -/
theorem authorization_mem_keys_signedHeaders :
    "authorization" ∈ (s.signedHeaders request seconds).keys ↔
      ∃ header ∈ request.headers, headerName header.1 = "authorization" := by
  unfold signedHeaders
  cases s.credentials.sessionToken <;> simp [mem_keys_insert, mem_keys_canonicalHeaders]

/-- The values that are signed are collapsed if those are that signing adds itself. -/
theorem allCollapsed_signedHeaders_iff (s : Signer) (request : Request) (seconds : Int) :
    AllCollapsed (s.signedHeaders request seconds) ↔ IsCollapsed (Text.trim request.host) ∧
      ∀ token ∈ s.credentials.sessionToken, IsCollapsed token := by
  have base (host : IsCollapsed (Text.trim request.host)) :
      AllCollapsed (((canonicalHeaders request.headers).insert "host"
        (Text.trim request.host)).insert "x-amz-date" (timestampText seconds)) :=
    allCollapsed_insert (isSolid_timestampText seconds).isCollapsed
      (allCollapsed_insert host (allCollapsed_canonicalHeaders _))
  unfold signedHeaders
  cases s.credentials.sessionToken with
  | none =>
      refine ⟨fun all => ⟨all "host" _ ?_, nofun⟩, fun tidy => base tidy.1⟩
      simp [NameMap.get?_insert]
  | some token =>
      refine ⟨fun all => ⟨all "host" _ ?_, fun _ same => ?_⟩, fun tidy => ?_⟩
      · simp [NameMap.get?_insert]
      · cases same
        exact all "x-amz-security-token" _ (by simp [NameMap.get?_insert])
      · exact allCollapsed_insert (tidy.2 token rfl) (base tidy.1)

/-- What signing returns can be verified: the names that are signed are those of the headers that
were returned but for the authorization, and the text that a receiver rebuilds is the one whose hash
was signed. -/
structure Verifiable (s : Signer) (request : Request) (seconds : Int) (headers : Headers) :
    Prop where
  listed : (s.signedHeaders request seconds).keys =
    headers.keys.filter fun name => name ≠ "authorization"
  rebuilt : (s.canonicalRequest request (received headers)).text =
    (s.canonicalRequest request (s.signedHeaders request seconds)).text

theorem eq_of_sign {headers : Headers} (signed : s.sign request seconds = .ok headers) :
    headers = (s.signedHeaders request seconds).insert "authorization"
      (s.authorization (s.canonicalRequest request (s.signedHeaders request seconds)) seconds) := by
  unfold sign at signed
  split at signed
  · cases signed
  · split at signed
    · cases signed
    · cases signed
      rfl

theorem headerBlock_inj {left right : Headers} (names : left.keys = right.keys)
    (same : (s.canonicalRequest request left).text = (s.canonicalRequest request right).text) :
    headerBlock left = headerBlock right := by
  simpa [CanonicalRequest.text, canonicalRequest, signedNames, names, String.append_assoc] using same

/-- The authorization that signing returns is that of the canonical request with the signed headers.
It can be verified exactly if the request has no header with the name of the authorization and the
values that signing adds itself, the host and the token, are collapsed. -/
theorem sign_verifiable_iff (s : Signer) (request : Request) (seconds : Int) (headers : Headers)
    (signed : s.sign request seconds = .ok headers) :
    headers.get? "authorization" = some (s.authorization
        (s.canonicalRequest request (s.signedHeaders request seconds)) seconds) ∧
      (s.Verifiable request seconds headers ↔
        (∀ header ∈ request.headers, headerName header.1 ≠ "authorization") ∧
          IsCollapsed (Text.trim request.host) ∧
            ∀ token ∈ s.credentials.sessionToken, IsCollapsed token) := by
  rw [eq_of_sign signed]
  refine ⟨by simp [NameMap.get?_insert], ?_⟩
  have unclaimed : "authorization" ∉ (s.signedHeaders request seconds).keys ↔
      ∀ header ∈ request.headers, headerName header.1 ≠ "authorization" := by
    rw [authorization_mem_keys_signedHeaders]
    simp only [not_exists, not_and, ne_eq]
  rw [← unclaimed, ← allCollapsed_signedHeaders_iff s request seconds]
  constructor
  · rintro ⟨listed, rebuilt⟩
    have absent : "authorization" ∉ (s.signedHeaders request seconds).keys := by
      intro claimed
      rw [listed] at claimed
      simpa using (List.mem_filter.1 claimed).2
    rw [received_insert absent] at rebuilt
    exact ⟨absent, allCollapsed_of_headerBlock (headerBlock_inj NameMap.keys_mapValues rebuilt)⟩
  · rintro ⟨absent, collapsed⟩
    constructor
    · rw [← NameMap.keys_without, NameMap.without_insert, NameMap.without_eq_self absent]
    · rw [received_insert absent, NameMap.mapValues_eq_self collapsed]

end Signer

/-- The signer of the published examples of the signing process. -/
def exampleSigner : Signer :=
  ⟨⟨"AKIDEXAMPLE", "wJalrXUtnFEMI/K7MDENG+bPxRfiCYEXAMPLEKEY", none⟩, "service", "us-east-1", true⟩

/-- A request for the root of the host of the published examples. -/
def exampleRequest (headers : List (String × String)) : Request :=
  ⟨"GET", "example.amazonaws.com", "/", [], headers, ""⟩

/-- What signing returns for the request without headers can be verified. -/
theorem plain_request_is_verifiable :
    ∃ headers, exampleSigner.sign (exampleRequest []) 1440938160 = .ok headers ∧
      exampleSigner.Verifiable (exampleRequest []) 1440938160 headers := by
  refine ⟨_, rfl, (Signer.sign_verifiable_iff _ _ _ _ rfl).2.2 ⟨nofun, ?_, nofun⟩⟩
  exact Text.IsSolid.isCollapsed (by decide)

/-- What signing returns for a request that brings an authorization cannot: the one that was brought
is signed, and another one is returned. -/
theorem brought_authorization_is_not_verifiable :
    ∃ headers,
      exampleSigner.sign (exampleRequest [("Authorization", "Basic x")]) 1440938160 = .ok headers ∧
        ¬ exampleSigner.Verifiable (exampleRequest [("Authorization", "Basic x")]) 1440938160
          headers := by
  have lower : headerName "Authorization" = "authorization" := by
    rw [← String.toList_inj, headerName, String.toList_map]
    decide
  have claimed : "authorization" ∈ (exampleSigner.signedHeaders
      (exampleRequest [("Authorization", "Basic x")]) 1440938160).keys :=
    Signer.authorization_mem_keys_signedHeaders.2 ⟨_, List.mem_cons_self, lower⟩
  refine ⟨_, rfl, fun verifiable => ?_⟩
  rw [verifiable.listed] at claimed
  simpa using (List.mem_filter.1 claimed).2

end Signing

end StackDeploy
