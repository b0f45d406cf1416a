/-
# The content of a request

Two requests have the same content if nothing that signing looks at tells them apart: the path and
the body are the same, the methods and the header names up to the case of letters, the host and the
header values up to their blanks, and the query up to its order. Headers of different names may
stand in any order, only the values of one name have to come in the same one. Signing then gives the
same result for both requests.

The headers are folded into a map value by value. What such a map holds under a name is determined
by the values of that name alone, and a map is determined by what it holds.
-/

import StackDeploy.Proofs.Names.Lookup
import StackDeploy.Proofs.Signing.Query
import StackDeploy.Proofs.Signing.Verification

namespace StackDeploy

namespace Text

/-! ## Letters and blanks -/

/-- A character is in lower case already, or it is one of the letters in upper case. -/
theorem toLower_cases (c : Char) : c.toLower = c ∨ ∃ n < 26, c = Char.ofNat (65 + n) := by
  by_cases upper : c.val ≥ 'A'.val ∧ c.val ≤ 'Z'.val
  · have bounds : 65 ≤ c.toNat ∧ c.toNat ≤ 90 := by
      simpa [UInt32.le_iff_toNat_le] using upper
    refine .inr ⟨c.toNat - 65, by omega, ?_⟩
    rw [Nat.add_sub_cancel' bounds.1, Char.ofNat_toNat]
  · exact .inl (dif_neg upper)

theorem isBlank_toLower (c : Char) : isBlank c.toLower = isBlank c := by
  obtain same | ⟨n, letter, rfl⟩ := toLower_cases c
  · rw [same]
  · revert n
    decide

theorem toUpper_toLower (c : Char) : c.toLower.toUpper = c.toUpper := by
  obtain same | ⟨n, letter, rfl⟩ := toLower_cases c
  · rw [same]
  · revert n
    decide

theorem isBlankText_map_toLower (s : String) :
    isBlankText (s.map Char.toLower) = isBlankText s := by
  rw [isBlankText, String.toList_map, List.all_map, isBlankText]
  congr 1
  funext c
  exact isBlank_toLower c

theorem map_toUpper_map_toLower (s : String) :
    (s.map Char.toLower).map Char.toUpper = s.map Char.toUpper := by
  rw [← String.toList_inj, String.toList_map, String.toList_map, String.toList_map, List.map_map]
  congr 1
  funext c
  exact toUpper_toLower c

theorem all_dropWhile {α : Type} (p : α → Bool) (items : List α) :
    (items.dropWhile p).all p = items.all p := by
  induction items with
  | nil => rfl
  | cons first rest ih =>
      cases keeps : p first with
      | true => rw [List.dropWhile_cons_of_pos keeps, List.all_cons, keeps, Bool.true_and, ih]
      | false => rw [List.dropWhile_cons_of_neg (Bool.eq_false_iff.1 keeps)]

/-- Trimming leaves nothing exactly of a text that is blank. -/
theorem isBlankText_trim (s : String) : isBlankText (trim s) = isBlankText s := by
  rw [isBlankText, trim, String.toList_ofList, trimChars, trimRight, List.all_reverse,
    all_dropWhile, List.all_reverse, trimLeft, all_dropWhile, isBlankText]

end Text

namespace Signing

/-! ## The headers of a request -/

/-- The values of a header in canonical form, in their order. -/
def headerValues (name : String) (headers : List (String × String)) : List String :=
  (headers.filter fun header => headerName header.1 == name).map fun header =>
    Text.collapse header.2

/-- Values of one header joined by commas; a header without values is absent. -/
def joinValues : List String → Option String
  | [] => none
  | value :: rest => some (String.intercalate "," (value :: rest))

theorem joinValues_concat (values : List String) (value : String) :
    joinValues (values ++ [value]) = match joinValues values with
      | some earlier => some (earlier ++ "," ++ value)
      | none => some value := by
  cases values with
  | nil => rfl
  | cons first rest =>
      rw [List.cons_append, joinValues, joinValues, ← List.cons_append,
        String.intercalate_append_of_ne_nil (List.cons_ne_nil _ _) (List.cons_ne_nil _ _)]
      rfl

theorem headerValues_concat (name : String) (headers : List (String × String))
    (header : String × String) :
    headerValues name (headers ++ [header]) =
      if headerName header.1 = name then headerValues name headers ++ [Text.collapse header.2]
      else headerValues name headers := by
  rw [headerValues, headerValues, map_filter_concat fun header : String × String =>
    headerName header.1]

theorem get?_joinHeader (name : String) (headers : Headers) (header : String × String) :
    (joinHeader headers header).get? name =
      if headerName header.1 = name then
        match headers.get? name with
        | some earlier => some (earlier ++ "," ++ Text.collapse header.2)
        | none => some (Text.collapse header.2)
      else headers.get? name := by
  rw [joinHeader]
  by_cases same : headerName header.1 = name
  · subst same
    rw [if_pos rfl]
    cases headers.get? (headerName header.1) with
    | none => exact NameMap.get?_insert.trans (if_pos rfl)
    | some earlier => exact NameMap.get?_insert.trans (if_pos rfl)
  · rw [if_neg same]
    cases headers.get? (headerName header.1) with
    | none => exact NameMap.get?_insert.trans (if_neg same)
    | some earlier => exact NameMap.get?_insert.trans (if_neg same)

/-- The canonical headers hold under a name the values of that name, joined in their order. -/
theorem get?_canonicalHeaders (name : String) (headers : List (String × String)) :
    (canonicalHeaders headers).get? name = joinValues (headerValues name headers) := by
  induction headers using List.reverseRecOn with
  | nil => rfl
  | append_singleton headers header ih =>
      have step : canonicalHeaders (headers ++ [header]) =
          joinHeader (canonicalHeaders headers) header := List.foldl_concat ..
      rw [step, get?_joinHeader, ih, headerValues_concat]
      split
      · rw [joinValues_concat]
      · rfl

/-- Canonical headers depend only on the sequence of values that each name has. -/
theorem canonicalHeaders_congr {left right : List (String × String)}
    (same : ∀ name, headerValues name left = headerValues name right) :
    canonicalHeaders left = canonicalHeaders right := by
  apply NameMap.eq_of_get?
  intro name
  rw [get?_canonicalHeaders, get?_canonicalHeaders, same]

/-! ## Requests of the same content -/

/-- Two requests that differ at most in the case of the method and of the header names, in blanks
around the host and in header values, and in the order of the query and of different headers. -/
structure Request.SameContent (a b : Request) : Prop where
  method : a.method.map Char.toLower = b.method.map Char.toLower
  host : Text.trim a.host = Text.trim b.host
  path : a.path = b.path
  query : a.query.Perm b.query
  headers : ∀ name, headerValues name a.headers = headerValues name b.headers
  body : a.body = b.body

namespace Request.SameContent

variable {a b : Request}

theorem isBlankText_method (same : a.SameContent b) :
    Text.isBlankText a.method = Text.isBlankText b.method := by
  rw [← Text.isBlankText_map_toLower, same.method, Text.isBlankText_map_toLower]

theorem isBlankText_host (same : a.SameContent b) :
    Text.isBlankText a.host = Text.isBlankText b.host := by
  rw [← Text.isBlankText_trim, same.host, Text.isBlankText_trim]

theorem method_toUpper (same : a.SameContent b) :
    a.method.map Char.toUpper = b.method.map Char.toUpper := by
  rw [← Text.map_toUpper_map_toLower, same.method, Text.map_toUpper_map_toLower]

end Request.SameContent

namespace Signer

variable {s : Signer} {a b : Request} {seconds : Int}

theorem signedHeaders_congr (same : a.SameContent b) :
    s.signedHeaders a seconds = s.signedHeaders b seconds := by
  rw [signedHeaders, signedHeaders, canonicalHeaders_congr same.headers, same.host]

theorem canonicalRequest_congr (same : a.SameContent b) :
    s.canonicalRequest a = s.canonicalRequest b := by
  funext headers
  rw [canonicalRequest, canonicalRequest, same.method_toUpper, same.path, same.body,
    canonicalQuery_eq_iff_perm.2 same.query]

/-- Signing gives the same headers, the authorization among them, for two requests of the same
content, or refuses both for the same cause. -/
theorem sign_depends_on_canonical_content (s : Signer) (seconds : Int) (same : a.SameContent b) :
    s.sign a seconds = s.sign b seconds := by
  rw [sign, sign, same.isBlankText_method, same.isBlankText_host, signedHeaders_congr same,
    canonicalRequest_congr same]

end Signer

/-- A request with its parts in no particular form. -/
def loosePut : Request :=
  ⟨"put", " example.amazonaws.com", "/", [("b", "2"), ("a", "1")],
    [(" X-One", " a \t b "), ("Y", "1"), ("x-one", "c")], "{}"⟩

/-- The same request with its parts in other forms. -/
def tidyPut : Request :=
  ⟨"PUT", "example.amazonaws.com", "/", [("a", "1"), ("b", "2")],
    [("Y", "1"), ("x-one", "a b"), (" X-One", "c")], "{}"⟩

theorem sameContent_loosePut_tidyPut : loosePut.SameContent tidyPut := by
  have upper : headerName " X-One" = "x-one" := by
    rw [← String.toList_inj, headerName, String.toList_map]
    decide
  have lower : headerName "x-one" = "x-one" := by
    rw [← String.toList_inj, headerName, String.toList_map]
    decide
  have other : headerName "Y" = "y" := by
    rw [← String.toList_inj, headerName, String.toList_map]
    decide
  have collapsed : Text.collapse " a \t b " = Text.collapse "a b" := by decide +kernel
  constructor
  case method =>
    rw [← String.toList_inj, String.toList_map, String.toList_map]
    decide
  case host => decide
  case path => rfl
  case query => exact List.Perm.swap _ _ _
  case headers =>
    intro name
    by_cases one : "x-one" = name
    · subst one
      simp [headerValues, loosePut, tidyPut, upper, lower, other, collapsed]
    · simp [headerValues, loosePut, tidyPut, List.filter_cons, upper, lower, other, one]
  case body => rfl

theorem loosePut_is_signed_like_tidyPut : loosePut.SameContent tidyPut ∧
    ∃ headers, exampleSigner.sign loosePut 1440938160 = .ok headers ∧
      exampleSigner.sign tidyPut 1440938160 = .ok headers := by
  have same := sameContent_loosePut_tidyPut
  exact ⟨same, _, rfl, (Signer.sign_depends_on_canonical_content _ _ same).symm⟩

end Signing

end StackDeploy
