/-
# Encoded paths in URLs

An encoded path holds nothing that a URL would escape. So setting it in a URL changes it only by
resolving its dot segments, and encoding neither makes a dot segment nor hides one: the segments
that are resolved are those of the path that are a dot or two. A path that is resolved has no dot
segment left, so every path with one is changed.
-/

import StackDeploy.Proofs.Text.EncodedSegments
import StackDeploy.Signing.Canonical
import StackDeploy.Web.Url

namespace StackDeploy

namespace Web.Url

open Text (splitAt joinWith)
open Text.Percent (SpellsDots encodeChars eq_replicate_of_spellsDots)

/-! ## Dot segments -/

/-- A segment is a dot or two. -/
def IsDots (segment : List Char) : Prop :=
  segment = ['.'] ∨ segment = ['.', '.']

instance (segment : List Char) : Decidable (IsDots segment) :=
  inferInstanceAs (Decidable (_ ∨ _))

/-- A segment of a URL stands neither for its own directory nor for the one above. -/
def IsKept (segment : List Char) : Prop :=
  isSingleDot segment = false ∧ isDoubleDot segment = false

variable {keepSlash : Bool} {segment : List Char}

theorem spellsDots_of_isSingleDot (dot : isSingleDot segment = true) :
    SpellsDots 1 (segment.map Char.toLower) := by
  simp only [isSingleDot, List.any_cons, List.any_nil, Bool.or_false, Bool.or_eq_true,
    beq_iff_eq] at dot
  rcases dot with same | same <;> rw [same]
  · exact .plain .none
  · exact .escaped .none

theorem spellsDots_of_isDoubleDot (dots : isDoubleDot segment = true) :
    SpellsDots 2 (segment.map Char.toLower) := by
  simp only [isDoubleDot, List.any_cons, List.any_nil, Bool.or_false, Bool.or_eq_true,
    beq_iff_eq] at dots
  rcases dots with same | same | same | same <;> rw [same]
  · exact .plain (.plain .none)
  · exact .plain (.escaped .none)
  · exact .escaped (.plain .none)
  · exact .escaped (.escaped .none)

/-- Encoding makes no segment a dot segment, and it hides none. -/
theorem isKept_encodeChars_iff : IsKept (encodeChars true segment) ↔ ¬ IsDots segment := by
  constructor
  · rintro ⟨single, double⟩ (rfl | rfl)
    · cases single
    · cases double
  · intro plain
    constructor
    · exact Bool.eq_false_iff.2 fun dot =>
        plain (.inl (eq_replicate_of_spellsDots (spellsDots_of_isSingleDot dot)))
    · exact Bool.eq_false_iff.2 fun dots =>
        plain (.inr (eq_replicate_of_spellsDots (spellsDots_of_isDoubleDot dots)))

/-! ## Resolved paths -/

variable {kept later : List (List Char)}

/-- Segments that are no dot segments are kept. -/
theorem resolve_eq_append (plain : ∀ s ∈ later, IsKept s) : resolve kept later = kept ++ later := by
  induction later generalizing kept with
  | nil => exact (List.append_nil kept).symm
  | cons s rest ih =>
      obtain ⟨⟨single, double⟩, others⟩ := List.forall_mem_cons.1 plain
      rw [resolve, double, single]
      exact (ih others).trans (List.append_assoc kept [s] rest)

theorem mem_of_mem_parent {s : List Char} (mem : s ∈ parent kept) : s ∈ kept := by
  unfold parent at mem
  split at mem
  · exact mem
  · exact List.dropLast_subset _ mem

/-- What holds of the empty segment, of those that are kept already and of those that are no dot
segments, holds of all that a path leads through. -/
theorem forall_mem_resolve {P : List Char → Prop} (empty : P []) (before : ∀ s ∈ kept, P s)
    (after : ∀ s ∈ later, IsKept s → P s) : ∀ s ∈ resolve kept later, P s := by
  induction later generalizing kept with
  | nil => exact before
  | cons s rest ih =>
      obtain ⟨here, others⟩ := List.forall_mem_cons.1 after
      have ended {segments : List (List Char)} (all : ∀ s ∈ segments, P s) :
          ∀ s ∈ (if rest.isEmpty then segments ++ [[]] else segments), P s := by
        split
        · exact List.forall_mem_append.2 ⟨all, List.forall_mem_singleton.2 empty⟩
        · exact all
      rw [resolve]
      split
      · exact ih (ended fun s mem => before s (mem_of_mem_parent mem)) others
      next double =>
        split
        · exact ih (ended before) others
        next single =>
          refine ih (List.forall_mem_append.2 ⟨before, List.forall_mem_singleton.2 ?_⟩) others
          exact here ⟨Bool.eq_false_iff.2 single, Bool.eq_false_iff.2 double⟩

/-- A path leads through some segment. -/
theorem resolve_ne_nil (more : later ≠ [] ∨ kept ≠ []) : resolve kept later ≠ [] := by
  induction later generalizing kept with
  | nil => exact more.resolve_left (not_not_intro rfl)
  | cons s rest ih =>
      have ended (segments : List (List Char)) :
          rest ≠ [] ∨ (if rest.isEmpty then segments ++ [[]] else segments) ≠ [] := by
        cases rest with
        | nil => exact .inr (by simp)
        | cons => exact .inl (List.cons_ne_nil _ _)
      rw [resolve]
      split
      · exact ih (ended _)
      · split
        · exact ih (ended _)
        · exact ih (.inr (by simp))

/-- A path that is resolved stays what it was exactly if it has no dot segment. -/
theorem joinWith_resolve_eq_iff (nonempty : later ≠ []) (pieces : ∀ s ∈ later, '/' ∉ s) :
    joinWith '/' (resolve [] later) = joinWith '/' later ↔ ∀ s ∈ later, IsKept s := by
  constructor
  · intro same
    have whole : ∀ s ∈ resolve [] later, '/' ∉ s :=
      forall_mem_resolve List.not_mem_nil (List.forall_mem_nil _) fun s mem _ => pieces s mem
    have unchanged : resolve [] later = later := by
      rw [← Text.splitAt_joinWith whole (resolve_ne_nil (.inl nonempty)), same,
        Text.splitAt_joinWith pieces nonempty]
    have plain : ∀ s ∈ resolve [] later, IsKept s :=
      forall_mem_resolve ⟨rfl, rfl⟩ (List.forall_mem_nil _) fun _ _ => id
    rwa [unchanged] at plain
  · intro plain
    rw [resolve_eq_append plain, List.nil_append]

/-! ## Encoded texts in URLs -/

/-- A character of encoded texts, or one that joins them. -/
def IsEncodedChar (c : Char) : Prop :=
  Text.isUnreserved c = true ∨ c ∈ ['%', '/', '&', '=']

instance (c : Char) : Decidable (IsEncodedChar c) :=
  inferInstanceAs (Decidable (_ ∨ _))

theorem isEncodedChar_of_mem_encodeChars {c : Char} {cs : List Char}
    (mem : c ∈ encodeChars keepSlash cs) : IsEncodedChar c := by
  rcases Text.Percent.mem_encodeChars mem with unreserved | rfl | ⟨-, rfl⟩
  · exact .inl unreserved
  · exact .inr (by decide)
  · exact .inr (by decide)

namespace IsEncodedChar

variable {c : Char}

theorem toNat_lt (encoded : IsEncodedChar c) : c.toNat < 128 := by
  rcases encoded with unreserved | sign
  · exact Text.toNat_lt_of_isUnreserved unreserved
  · simp only [List.mem_cons, List.not_mem_nil, or_false] at sign
    rcases sign with rfl | rfl | rfl | rfl <;> decide

/-- It is not escaped in a path. -/
theorem kept_in_path (encoded : IsEncodedChar c) :
    (isAlwaysEscaped c || pathEscapes.contains c) = false := by
  have ascii := encoded.toNat_lt
  revert encoded
  exact Text.forall_of_ascii ascii (by decide +kernel)

/-- It is not escaped in a query. -/
theorem kept_in_query (encoded : IsEncodedChar c) (scheme : String) :
    (isAlwaysEscaped c || (queryEscapes scheme).contains c) = false := by
  have ascii := encoded.toNat_lt
  revert encoded
  unfold queryEscapes
  cases isSpecial scheme
  · exact Text.forall_of_ascii ascii (by decide +kernel)
  · exact Text.forall_of_ascii ascii (by decide +kernel)

/-- It separates segments only if it is the slash. -/
theorem isSlash_eq (encoded : IsEncodedChar c) : isSlash true c = (c == '/') := by
  have ascii := encoded.toNat_lt
  revert encoded
  exact Text.forall_of_ascii ascii (by decide +kernel)

end IsEncodedChar

theorem escapeChars_eq_self {more cs : List Char}
    (plain : ∀ c ∈ cs, (isAlwaysEscaped c || more.contains c) = false) :
    escapeChars more cs = cs := by
  induction cs with
  | nil => rfl
  | cons c rest ih =>
      obtain ⟨first, others⟩ := List.forall_mem_cons.1 plain
      have rest_same := ih others
      unfold escapeChars at rest_same ⊢
      rw [List.flatMap_cons, first, if_neg Bool.false_ne_true, rest_same]
      rfl

/-- Encoded characters are not escaped in a path. -/
theorem escapeChars_encodeChars (cs : List Char) :
    escapeChars pathEscapes (encodeChars keepSlash cs) = encodeChars keepSlash cs :=
  escapeChars_eq_self fun _ mem => (isEncodedChar_of_mem_encodeChars mem).kept_in_path

/-- The segments of an encoded path in a URL. -/
theorem resolved_encodeChars (cs : List Char) :
    resolved true ('/' :: encodeChars true cs) =
      resolve [] (splitAt '/' (encodeChars true cs)) := by
  have slashes : ('/' :: encodeChars true cs).map (fun c => if isSlash true c then '/' else c) =
      '/' :: encodeChars true cs := by
    refine (List.map_congr_left fun c mem => ?_).trans (List.map_id _)
    rcases List.mem_cons.1 mem with rfl | inside
    · rfl
    · rw [(isEncodedChar_of_mem_encodeChars inside).isSlash_eq]
      by_cases slash : c = '/'
      · rw [slash]
        rfl
      · rw [beq_false_of_ne slash]
        rfl
  have cut : segments true ('/' :: encodeChars true cs) = splitAt '/' (encodeChars true cs) := by
    rw [segments, slashes]
    rfl
  rw [resolved, cut, Text.Percent.splitAt_encodeChars, List.map_map]
  congr 1
  exact List.map_congr_left fun piece _ => escapeChars_encodeChars piece

/-- A URL of the web keeps an encoded path as it is exactly if no segment is a dot or two. -/
theorem pathText_encodeChars_iff {scheme : String} (special : isSpecial scheme = true)
    (web : scheme ≠ fileScheme) (cs : List Char) :
    pathText scheme ('/' :: encodeChars true cs) = String.ofList ('/' :: encodeChars true cs) ↔
      ∀ segment ∈ splitAt '/' cs, ¬ IsDots segment := by
  have text : pathText scheme ('/' :: encodeChars true cs) =
      String.ofList ('/' :: joinWith '/' (resolve [] (splitAt '/' (encodeChars true cs)))) := by
    rw [pathText, special, resolved_encodeChars, beq_false_of_ne web]
    rfl
  have pieces : ∀ s ∈ splitAt '/' (encodeChars true cs), '/' ∉ s :=
    fun _ => Text.notMem_of_mem_splitAt
  calc pathText scheme ('/' :: encodeChars true cs) = String.ofList ('/' :: encodeChars true cs)
      ↔ joinWith '/' (resolve [] (splitAt '/' (encodeChars true cs))) =
          joinWith '/' (splitAt '/' (encodeChars true cs)) := by
        rw [text, String.ofList_inj, List.cons.injEq, Text.joinWith_splitAt]
        exact and_iff_right rfl
    _ ↔ ∀ s ∈ splitAt '/' (encodeChars true cs), IsKept s :=
        joinWith_resolve_eq_iff (Text.splitAt_ne_nil _ _) pieces
    _ ↔ ∀ segment ∈ splitAt '/' cs, ¬ IsDots segment := by
        rw [Text.Percent.splitAt_encodeChars, List.forall_mem_map]
        simp only [isKept_encodeChars_iff]

end Web.Url

namespace Signing

open Text (splitAt)
open Text.Percent (encodeChars)
open Web.Url (IsDots)

/-- A path has a segment that is a dot or two. -/
def HasDotSegment (path : String) : Prop :=
  ∃ segment ∈ splitAt '/' path.toList, IsDots segment

instance (path : String) : Decidable (HasDotSegment path) :=
  inferInstanceAs (Decidable (∃ segment ∈ splitAt '/' path.toList, IsDots segment))

/-- The encoded form of a path starts with a slash exactly if the path does. -/
theorem startsWith_encode_iff {path : String} {c : Char} {rest : List Char}
    (chars : path.toList = c :: rest) :
    Text.startsWith (Text.Percent.encode path true) "/" = true ↔ c = '/' := by
  have first : encodeChars true [c] ≠ [] := by
    intro nothing
    have blank : [c] = [] := by
      apply Text.Percent.eq_of_decodeBytes_encodeChars
      rw [nothing]
      rfl
    cases blank
  obtain ⟨d, more, started⟩ := List.exists_cons_of_ne_nil first
  have same : c = '/' ↔ d = '/' := by
    constructor
    · rintro rfl
      cases started
      rfl
    · rintro rfl
      refine Decidable.byContradiction fun other => ?_
      have absent : '/' ∉ encodeChars true [c] :=
        Text.Percent.slash_notMem_encodeChars (by simpa using Ne.symm other)
      exact absent (started ▸ List.mem_cons_self)
  have sign : "/".toList = ['/'] := rfl
  rw [Text.startsWith, Text.Percent.toList_encode, chars, Text.Percent.encodeChars_cons, started,
    same, sign, List.cons_append, List.isPrefixOf_cons_cons, List.isPrefixOf_nil_left, Bool.and_true,
    beq_iff_eq, eq_comm]

/-- The canonical path is a slash and the encoded form of what follows the first slash of the path,
or of the whole path if it does not start with one. -/
theorem exists_toList_canonicalPath (path : String) :
    ∃ cs, (canonicalPath path).toList = '/' :: encodeChars true cs ∧
      (HasDotSegment path ↔ ∃ segment ∈ splitAt '/' cs, IsDots segment) := by
  cases chars : path.toList with
  | nil =>
      have blank : path = "" := String.toList_inj.1 chars
      exact ⟨[], by rw [blank]; rfl, by rw [HasDotSegment, chars]⟩
  | cons c rest =>
      have given : path.isEmpty = false := by
        rw [← Bool.not_eq_true, String.isEmpty_iff, ← String.toList_inj, chars]
        exact List.cons_ne_nil _ _
      have encoded := Text.Percent.toList_encode path true
      rw [chars] at encoded
      rw [canonicalPath, given, if_neg Bool.false_ne_true]
      dsimp only
      by_cases slash : c = '/'
      · refine ⟨rest, ?_, ?_⟩
        · rw [if_pos ((startsWith_encode_iff chars).2 slash), encoded, slash]
          rfl
        · rw [HasDotSegment, chars, slash, splitAt, if_pos rfl]
          simp [IsDots]
      · refine ⟨c :: rest, ?_, by rw [HasDotSegment, chars]⟩
        rw [if_neg (slash ∘ (startsWith_encode_iff chars).1), String.toList_append, encoded]
        rfl

/-- A URL of the web keeps a canonical path exactly if the path has no dot segment. -/
theorem pathText_canonicalPath_iff {scheme : String} (special : Web.isSpecial scheme = true)
    (web : scheme ≠ Web.fileScheme) (path : String) :
    Web.Url.pathText scheme (canonicalPath path).toList = canonicalPath path ↔
      ¬ HasDotSegment path := by
  obtain ⟨cs, chars, dots⟩ := exists_toList_canonicalPath path
  have whole : canonicalPath path = String.ofList ('/' :: encodeChars true cs) := by
    rw [← chars, String.ofList_toList]
  rw [dots, whole, String.toList_ofList, Web.Url.pathText_encodeChars_iff special web]
  simp only [not_exists, not_and]

end Signing

end StackDeploy
