/-
# Escaped text

A text is written as character data by escaping the characters that markup uses. What is written
holds no opening bracket, it is read as the text again, and it begins and ends with a blank only if
the text does, so that no trimming changes it.
-/

import StackDeploy.Xml.Markup
import StackDeploy.Xml.Reference

namespace StackDeploy.Xml

variable {c : Char} {text : List Char}

/-- The characters that are written by their names. -/
def escapedByName : List Char := ['<', '>', '&', '\'', '"']

theorem escapeChar_of_notMem (plain : c ∉ escapedByName) : escapeChar c = [c] := by
  have unknown : (namedCharacters.find? fun known => known.2 == c) = none := by
    rw [List.find?_eq_none]
    intro known mem same
    have named : ∀ known ∈ namedCharacters, known.2 ∈ escapedByName := by decide +kernel
    rw [← beq_iff_eq.1 same] at plain
    exact plain (named known mem)
  rw [escapeChar, unknown]

/-- A character with a name is written as the name between its two marks. -/
theorem exists_escapeChar_eq :
    ∀ c ∈ escapedByName, ∃ word, escapeChar c = '&' :: (word ++ [';']) ∧ '<' ∉ word := by
  simp only [escapedByName, List.forall_mem_cons]
  exact ⟨⟨['l', 't'], rfl, by decide⟩, ⟨['g', 't'], rfl, by decide⟩,
    ⟨['a', 'm', 'p'], rfl, by decide⟩, ⟨['a', 'p', 'o', 's'], rfl, by decide⟩,
    ⟨['q', 'u', 'o', 't'], rfl, by decide⟩, List.forall_mem_nil _⟩

/-! ## Reading what was escaped -/

private theorem unescapeFrom_named (rest : List Char) :
    ∀ c ∈ escapedByName,
      unescapeFrom none (escapeChar c ++ rest) = (unescapeFrom none rest).map (c :: ·) := by
  simp only [escapedByName, List.forall_mem_cons]
  exact ⟨rfl, rfl, rfl, rfl, rfl, List.forall_mem_nil _⟩

theorem unescapeFrom_escapeChar (c : Char) (rest : List Char) :
    unescapeFrom none (escapeChar c ++ rest) = (unescapeFrom none rest).map (c :: ·) := by
  by_cases named : c ∈ escapedByName
  · exact unescapeFrom_named rest c named
  · have notAmpersand : c ≠ '&' := fun same => named (by rw [same]; decide)
    rw [escapeChar_of_notMem named, List.singleton_append, unescapeFrom, if_neg notAmpersand]

/-- An escaped text is read as the text. -/
theorem unescape_escape (text : List Char) : unescape (escape text) = some text := by
  induction text with
  | nil => rfl
  | cons c rest ih =>
      rw [unescape] at ih
      rw [unescape, escape, List.flatMap_cons, unescapeFrom_escapeChar, ← escape, ih]
      rfl

theorem notMem_escapeChar (c : Char) : '<' ∉ escapeChar c := by
  by_cases named : c ∈ escapedByName
  · obtain ⟨word, written, absent⟩ := exists_escapeChar_eq c named
    rw [written, List.mem_cons, List.mem_append, not_or, not_or]
    exact ⟨by decide, absent, by decide⟩
  · rw [escapeChar_of_notMem named, List.mem_singleton]
    exact fun same => named (by rw [← same]; decide)

/-- No markup begins in an escaped text. -/
theorem notMem_escape (text : List Char) : '<' ∉ escape text := by
  intro mem
  obtain ⟨c, -, within⟩ := List.mem_flatMap.1 mem
  exact notMem_escapeChar c within

/-! ## Trimming -/

/-- A text neither begins nor ends with a blank. -/
structure Trimmed (text : List Char) : Prop where
  head : ∀ c, text.head? = some c → isBlank c = false
  last : ∀ c, text.getLast? = some c → isBlank c = false

instance (text : List Char) : Decidable (Trimmed text) :=
  decidable_of_iff ((text.head?.all fun c => !isBlank c) = true ∧
      (text.getLast?.all fun c => !isBlank c) = true) <| by
    simp only [Option.all_eq_true, Bool.not_eq_true']
    exact ⟨fun ends => ⟨ends.1, ends.2⟩, fun trimmed => ⟨trimmed.head, trimmed.last⟩⟩

theorem dropWhile_isBlank (head : ∀ c, text.head? = some c → isBlank c = false) :
    text.dropWhile isBlank = text := by
  cases text with
  | nil => rfl
  | cons c rest =>
      rw [List.dropWhile_cons_of_neg]
      rw [head c rfl]
      exact Bool.false_ne_true

theorem trimRight_of_trimmed (trimmed : Trimmed text) : trimRight text = text := by
  have reversed : ∀ c, text.reverse.head? = some c → isBlank c = false := by
    intro c first
    rw [List.head?_reverse] at first
    exact trimmed.last c first
  rw [trimRight, dropWhile_isBlank reversed, List.reverse_reverse]

theorem trim_of_trimmed (trimmed : Trimmed text) : trim text = text := by
  rw [trim, dropWhile_isBlank trimmed.head, trimRight_of_trimmed trimmed]

/-- A character is written with a blank at an end only if it is a blank. -/
theorem trimmed_escapeChar (solid : isBlank c = false) : Trimmed (escapeChar c) := by
  by_cases named : c ∈ escapedByName
  · obtain ⟨word, written, -⟩ := exists_escapeChar_eq c named
    rw [written]
    constructor
    · rintro _ ⟨⟩
      rfl
    · intro last given
      rw [← List.cons_append, List.getLast?_concat] at given
      cases given
      rfl
  · rw [escapeChar_of_notMem named]
    constructor <;> rintro _ ⟨⟩ <;> exact solid

theorem escapeChar_ne_nil (c : Char) : escapeChar c ≠ [] := by
  by_cases named : c ∈ escapedByName
  · obtain ⟨word, written, -⟩ := exists_escapeChar_eq c named
    rw [written]
    exact List.cons_ne_nil _ _
  · rw [escapeChar_of_notMem named]
    exact List.cons_ne_nil c []

theorem trimmed_escape (trimmed : Trimmed text) : Trimmed (escape text) where
  head := by
    cases text with
    | nil => exact nofun
    | cons c rest =>
        intro first given
        rw [escape, List.flatMap_cons, List.head?_append,
          Option.or_of_isSome (List.isSome_head?.2 (escapeChar_ne_nil c))] at given
        exact (trimmed_escapeChar (trimmed.head c rfl)).head first given
  last := by
    rcases List.eq_nil_or_concat text with rfl | ⟨rest, c, rfl⟩
    · exact nofun
    · intro last given
      rw [List.concat_eq_append] at trimmed given
      rw [escape, List.flatMap_append, List.flatMap_singleton, List.getLast?_append,
        Option.or_of_isSome (List.getLast?_isSome.2 (escapeChar_ne_nil c))] at given
      exact (trimmed_escapeChar (trimmed.last c List.getLast?_concat)).last last given

end StackDeploy.Xml
