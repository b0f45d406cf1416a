/-
# Canonical requests are told apart by their texts

What is signed is a text of lines: the method, the path, the query, a line for each header, an empty
line, the names of the headers, and the hash of the payload. All parts are of variable length, and
the number of headers is not stated anywhere. Still the text can be taken apart in one way only,
from its beginning: no part before the hash has a line feed inside, a header line is never empty,
and its first colon ends the name. So a signature stands for one request, as far as a canonical
request knows it: the pairs of the query are known, but not their order.

A method and the name of a header are words of the protocol, so they have neither line feeds nor
colons. Of the value of a header nothing is asked but that it has no line feed. Canonical values
never have one; the host and the token could, but nothing is sent then.
-/

import StackDeploy.Proofs.Provider.Transmission
import StackDeploy.Proofs.Signing.Verification

namespace StackDeploy

open Signing (Headers Request Signer canonicalPath)

/-! ## Words of the protocol -/

theorem toNat_lt_of_isTokenChar {c : Char} (token : isTokenChar c = true) : c.toNat < 128 := by
  simp only [isTokenChar, Bool.or_eq_true, beq_iff_eq, List.contains_iff_mem] at token
  rcases token with (alphanumeric | rfl) | sign
  · exact Text.toNat_lt_of_isAlphanum alphanumeric
  · decide
  · have ascii : ("!#$%&'*+-.^_|~".toList.all fun d => d.toNat < 128) = true := by decide
    exact of_decide_eq_true (List.all_eq_true.1 ascii c sign)

/-- What may not stand in a word does not stand in one. -/
theorem notMem_of_isToken {word : String} {c : Char} (token : isToken word = true)
    (other : isTokenChar c = false) : c ∉ word.toList := by
  intro mem
  have allowed := List.all_eq_true.1 (Bool.and_eq_true_iff.1 token).2 c mem
  rw [other] at allowed
  cases allowed

/-- A word in capital letters is a word. -/
theorem isToken_map_toUpper {word : String} (token : isToken word = true) :
    isToken (word.map Char.toUpper) = true := by
  have capital : ∀ n < 128, isTokenChar (Char.ofNat n) = true →
      isTokenChar (Char.ofNat n).toUpper = true := by decide
  obtain ⟨nonempty, allowed⟩ := Bool.and_eq_true_iff.1 token
  refine Bool.and_eq_true_iff.2 ⟨?_, List.all_eq_true.2 fun c mem => ?_⟩
  · rwa [String.toList_map, List.isEmpty_map]
  · rw [String.toList_map] at mem
    obtain ⟨d, inside, rfl⟩ := List.mem_map.1 mem
    have letter := List.all_eq_true.1 allowed d inside
    exact Text.forall_of_ascii (toNat_lt_of_isTokenChar letter) capital letter

namespace Signing

/-! ## Texts of lines -/

/-- A header can be read from its line: no line feed is part of it, and no colon of its name. -/
structure IsLine (header : String × String) : Prop where
  colon : ':' ∉ header.1.toList
  name : '\n' ∉ header.1.toList
  value : '\n' ∉ header.2.toList

namespace IsLine

variable {header other : String × String}

/-- The characters of a line before its end. -/
def content (header : String × String) : List Char :=
  header.1.toList ++ ':' :: header.2.toList

theorem headerLine_append (header : String × String) (rest : List Char) :
    headerLine header.1 header.2 ++ rest = content header ++ '\n' :: rest := by
  simp [headerLine, content]

theorem lineFeed_notMem (line : IsLine header) : '\n' ∉ content header := by
  rw [content, List.mem_append, List.mem_cons, not_or, not_or]
  exact ⟨line.name, by decide, line.value⟩

theorem content_inj (line : IsLine header) (line' : IsLine other) :
    content header = content other ↔ header = other := by
  rw [content, content, Text.append_cons_inj line.colon line'.colon, String.toList_inj,
    String.toList_inj, Prod.ext_iff]

theorem content_ne_nil (header : String × String) : content header ≠ [] := by
  simp [content]

end IsLine

open IsLine in
/-- The lines of headers are told from each other and from what follows the empty line after
them. -/
theorem headerLines_inj {left right : List (String × String)} {rest others : List Char}
    (lines : ∀ header ∈ left, IsLine header) (lines' : ∀ header ∈ right, IsLine header) :
    (left.flatMap fun header => headerLine header.1 header.2) ++ '\n' :: rest =
        (right.flatMap fun header => headerLine header.1 header.2) ++ '\n' :: others ↔
      left = right ∧ rest = others := by
  have empty : '\n' ∉ ([] : List Char) := List.not_mem_nil
  induction left generalizing right with
  | nil =>
      cases right with
      | nil => simp
      | cons header later =>
          have line := (lines' header List.mem_cons_self).lineFeed_notMem
          rw [List.flatMap_nil, List.flatMap_cons, List.append_assoc, headerLine_append,
            Text.append_cons_inj empty line]
          simp [content_ne_nil]
  | cons header later ih =>
      obtain ⟨line, follow⟩ := List.forall_mem_cons.1 lines
      cases right with
      | nil =>
          rw [List.flatMap_nil, List.flatMap_cons, List.append_assoc, headerLine_append,
            Text.append_cons_inj line.lineFeed_notMem empty]
          simp [content_ne_nil]
      | cons header' later' =>
          obtain ⟨line', follow'⟩ := List.forall_mem_cons.1 lines'
          have behind := (ih follow follow').eq
          rw [List.flatMap_cons, List.flatMap_cons, List.append_assoc, List.append_assoc,
            headerLine_append, headerLine_append,
            Text.append_cons_inj line.lineFeed_notMem line'.lineFeed_notMem,
            content_inj line line', behind, List.cons.injEq, and_assoc]

namespace CanonicalRequest

/-- The parts of a canonical request stand on lines of their own. -/
structure Lined (r : CanonicalRequest) : Prop where
  method : '\n' ∉ r.method.toList
  path : '\n' ∉ r.path.toList
  query : '\n' ∉ r.query.toList
  headers : ∀ header ∈ r.headers.entries, IsLine header

theorem toList_text (r : CanonicalRequest) :
    r.text.toList = r.method.toList ++ '\n' :: (r.path.toList ++ '\n' :: (r.query.toList ++ '\n' ::
      ((r.headers.entries.flatMap fun header => headerLine header.1 header.2) ++
        '\n' :: (signedNames r.headers ++ "\n" ++ r.payloadHash).toList))) := by
  rw [← toList_headerBlock]
  simp [text]

/-- The text of a canonical request tells its parts, if they stand on lines of their own. -/
theorem text_inj {left right : CanonicalRequest} (lined : left.Lined) (lined' : right.Lined) :
    left.text = right.text ↔ left = right := by
  refine ⟨fun same => ?_, congrArg text⟩
  have chars := congrArg String.toList same
  rw [toList_text, toList_text, Text.append_cons_inj lined.method lined'.method,
    Text.append_cons_inj lined.path lined'.path, Text.append_cons_inj lined.query lined'.query,
    headerLines_inj lined.headers lined'.headers, String.toList_inj, String.toList_inj,
    String.toList_inj, String.toList_inj] at chars
  obtain ⟨method, path, query, entries, after⟩ := chars
  have headers : left.headers = right.headers := NameMap.eq_of_entries entries
  rw [headers] at after
  have payload : left.payloadHash = right.payloadHash := (String.append_right_inj _).1 after
  cases left
  cases right
  simp_all

end CanonicalRequest

/-! ## Canonical forms of requests -/

/-- The method and the names of the headers are words of the protocol, and no value of a header has
a line feed. -/
structure Worded (request : Request) (headers : Headers) : Prop where
  method : isToken request.method = true
  names : ∀ name ∈ headers.keys, isToken name = true
  values : ∀ name value, headers.get? name = some value → '\n' ∉ value.toList

theorem lineFeed_notMem_encode (s : String) (keepSlash : Bool) :
    '\n' ∉ (Text.Percent.encode s keepSlash).toList := fun mem =>
  absurd (isEncodedChar_of_mem_encode mem) (by decide)

theorem lineFeed_notMem_canonicalPath (path : String) : '\n' ∉ (canonicalPath path).toList := by
  obtain ⟨cs, encoded, -⟩ := exists_toList_canonicalPath path
  rw [encoded, List.mem_cons, not_or]
  exact ⟨by decide, fun mem => absurd (Web.Url.isEncodedChar_of_mem_encodeChars mem) (by decide)⟩

/-- The parts of the canonical form of a request stand on lines of their own, whatever hash of the
body it has. -/
theorem Worded.lined {request : Request} {headers : Headers} (worded : Worded request headers)
    (s : Signer) (payload : String) :
    { s.canonicalRequest request headers with payloadHash := payload }.Lined where
  method := notMem_of_isToken (isToken_map_toUpper worded.method) (by decide)
  path := by
    show '\n' ∉ (s.signingPath request.path).toList
    unfold Signer.signingPath
    split
    · exact lineFeed_notMem_encode _ _
    · exact lineFeed_notMem_canonicalPath _
  query := fun mem => absurd (isEncodedChar_of_mem_canonicalQuery mem) (by decide)
  headers := fun header mem =>
    have word := worded.names _ (List.mem_map_of_mem mem)
    ⟨notMem_of_isToken word (by decide), notMem_of_isToken word (by decide),
      worded.values _ _ (NameMap.get?_eq_some_iff.2 mem)⟩

end Signing

/-- Two canonical requests have the same text exactly if they have the same method in capital
letters, the same canonical path, the same pairs of the query in any order, the same headers and the
same hash of the payload. It does not matter whether the path is encoded once or twice, as long as
it is the same for both. -/
theorem canonical_text_eq_iff (s s' : Signer) (mode : s.encodesTwice = s'.encodesTwice)
    (left right : Request) (headers headers' : Headers) (payload payload' : String)
    (worded : Signing.Worded left headers) (worded' : Signing.Worded right headers') :
    ({ s.canonicalRequest left headers with payloadHash := payload }.text =
        { s'.canonicalRequest right headers' with payloadHash := payload' }.text) ↔
      left.method.map Char.toUpper = right.method.map Char.toUpper ∧
        canonicalPath left.path = canonicalPath right.path ∧
          left.query.Perm right.query ∧ headers = headers' ∧ payload = payload' := by
  have path : s.signingPath left.path = s'.signingPath right.path ↔
      canonicalPath left.path = canonicalPath right.path := by
    have form : s.signingPath left.path = s'.signedForm (canonicalPath left.path) := by
      rw [Signer.signingPath, Signer.signedForm, mode]
    exact form ▸ Signer.signedForm_inj
  rw [Signing.CanonicalRequest.text_inj (worded.lined s payload) (worded'.lined s' payload'),
    Signing.CanonicalRequest.mk.injEq]
  exact and_congr Iff.rfl (and_congr path (and_congr Signing.canonicalQuery_eq_iff_perm Iff.rfl))

/-- A request for the root of the host of the published examples. -/
def exampleQuery (method : String) (query : List (String × String)) : Request :=
  ⟨method, "example.amazonaws.com", "/", query, [], ""⟩

/-- The headers signed for it. -/
def exampleHeaders : Headers :=
  NameMap.ofList [("x-amz-date", "20150830T123600Z"), ("host", "example.amazonaws.com")]

/-- The text signed for it, with a hash. -/
def exampleText (method : String) (query : List (String × String)) : String :=
  { Signing.exampleSigner.canonicalRequest (exampleQuery method query) exampleHeaders with
    payloadHash := "00" }.text

/-- Neither the order of two pairs nor the case of the method leaves a trace in the text. But one
pair whose value looks like the rest of the query is told from the two. -/
theorem pairs_of_a_query_are_told_by_the_text :
    exampleText "get" [("a", "1"), ("b", "2")] = exampleText "GET" [("b", "2"), ("a", "1")] ∧
      exampleText "GET" [("b", "2"), ("a", "1")] ≠ exampleText "GET" [("b", "2&a=1")] := by
  have names : ∀ name ∈ exampleHeaders.keys, isToken name = true := by decide
  have values : ∀ name value, exampleHeaders.get? name = some value → '\n' ∉ value.toList := by
    decide
  have worded (method : String) (query : List (String × String)) (token : isToken method = true) :
      Signing.Worded (exampleQuery method query) exampleHeaders := ⟨token, names, values⟩
  have lower := worded "get" [("a", "1"), ("b", "2")] (by decide)
  have upper := worded "GET" [("b", "2"), ("a", "1")] (by decide)
  have single := worded "GET" [("b", "2&a=1")] (by decide)
  have capital : "get".map Char.toUpper = "GET".map Char.toUpper := by
    rw [← String.toList_inj, String.toList_map, String.toList_map]
    decide
  constructor
  · apply (canonical_text_eq_iff _ _ rfl _ _ _ _ "00" "00" lower upper).2
    exact ⟨capital, rfl, List.Perm.swap _ _ [], rfl, rfl⟩
  · intro same
    have told := (canonical_text_eq_iff _ _ rfl _ _ _ _ "00" "00" upper single).1 same
    exact absurd told.2.2.1.length_eq (by decide)

end StackDeploy
