/-
# Collapsed texts

A text is collapsed if collapsing does not change it. Such texts are exactly the words that are
joined by single spaces: splitting reads the words of a joined text back, because no word holds a
blank. So collapsing twice is the same as collapsing once, a text without blanks is collapsed, and
two collapsed texts stay collapsed when a character that is no blank joins them. Collapsing never
makes a text longer.
-/

import StackDeploy.Text.Blank
import StackDeploy.Text.Cut

namespace StackDeploy.Text

/-- A text that has no blanks but single spaces between words. -/
def IsCollapsed (s : String) : Prop := collapse s = s

/-- A text without blanks. -/
def IsSolid (s : String) : Prop := ∀ c ∈ s.toList, isBlank c = false

instance (s : String) : Decidable (IsSolid s) :=
  decidable_of_iff (s.toList.all fun c => !isBlank c) (by simp [IsSolid])

@[simp]
theorem isSolid_append {a b : String} : IsSolid (a ++ b) ↔ IsSolid a ∧ IsSolid b := by
  simp [IsSolid, or_imp, forall_and]

theorem isBlank_of_isDigit {c : Char} (digit : c.isDigit = true) : isBlank c = false := by
  have bounds : 48 ≤ c.val.toNat ∧ c.val.toNat ≤ 57 := by
    simpa [Char.isDigit, UInt32.le_iff_toNat_le] using digit
  rw [← Bool.not_eq_true]
  intro blank
  simp only [isBlank, Bool.or_eq_true, Bool.and_eq_true, decide_eq_true_eq, beq_iff_eq,
    UInt32.le_iff_toNat_le, ← UInt32.toNat_inj, UInt32.reduceToNat] at blank
  omega

@[simp]
theorem isSolid_decimal (n : Nat) : IsSolid (decimal n) := by
  intro c mem
  rw [decimal, String.toList_ofList] at mem
  exact isBlank_of_isDigit (Nat.isDigit_of_mem_toDigits (by decide) (by decide) mem)

@[simp]
theorem isSolid_decimalPadded (width n : Nat) : IsSolid (decimalPadded width n) := by
  intro c mem
  rw [decimalPadded, String.toList_ofList] at mem
  rcases List.mem_append.1 mem with zero | digit
  · rw [List.eq_of_mem_replicate zero]
    rfl
  · exact isBlank_of_isDigit (Nat.isDigit_of_mem_toDigits (by decide) (by decide) digit)

/-- A piece of text without blanks. -/
structure IsWord (cs : List Char) : Prop where
  nonempty : cs ≠ []
  solid : ∀ c ∈ cs, isBlank c = false

variable {c : Char} {cs ds : List Char} {ws : List (List Char)}

theorem splitBlanks_ne_nil (cs : List Char) : splitBlanks cs ≠ [] := by
  cases cs with
  | nil => simp [splitBlanks]
  | cons c rest =>
      simp only [splitBlanks]
      split
      · simp
      · split <;> simp

theorem splitBlanks_of_solid (solid : ∀ c ∈ cs, isBlank c = false) : splitBlanks cs = [cs] := by
  induction cs with
  | nil => rfl
  | cons c rest ih =>
      have first := solid c List.mem_cons_self
      have later := ih fun other mem => solid other (List.mem_cons_of_mem _ mem)
      simp [splitBlanks, first, later]

/-- A blank separates the pieces before it from those after it. -/
theorem splitBlanks_append (blank : isBlank c = true) :
    splitBlanks (cs ++ c :: ds) = splitBlanks cs ++ splitBlanks ds := by
  induction cs with
  | nil => simp [splitBlanks, blank]
  | cons first rest ih =>
      by_cases separates : isBlank first = true
      · simp [splitBlanks, separates, ih]
      · have some_piece := splitBlanks_ne_nil rest
        cases pieces : splitBlanks rest with
        | nil => exact absurd pieces some_piece
        | cons piece others => simp [splitBlanks, separates, ih, pieces]

theorem solid_of_mem_splitBlanks {piece : List Char} (mem : piece ∈ splitBlanks cs) :
    ∀ c ∈ piece, isBlank c = false := by
  induction cs generalizing piece with
  | nil =>
      simp [splitBlanks] at mem
      simp [mem]
  | cons first rest ih =>
      by_cases separates : isBlank first = true
      · simp [splitBlanks, separates] at mem
        rcases mem with rfl | later
        · simp
        · exact ih later
      · have some_piece := splitBlanks_ne_nil rest
        cases pieces : splitBlanks rest with
        | nil => exact absurd pieces some_piece
        | cons head others =>
            simp [splitBlanks, separates, pieces] at mem
            rw [pieces] at ih
            rcases mem with rfl | later
            · intro c here
              rcases List.mem_cons.1 here with rfl | inside
              · exact Bool.not_eq_true _ ▸ separates
              · exact ih List.mem_cons_self c inside
            · exact ih (List.mem_cons_of_mem _ later)

theorem isWord_of_mem_words (mem : cs ∈ words ds) : IsWord cs := by
  obtain ⟨piece, nonempty⟩ := List.mem_filter.1 mem
  exact ⟨by simpa using nonempty, solid_of_mem_splitBlanks piece⟩

theorem words_of_isWord (word : IsWord cs) : words cs = [cs] := by
  simp [words, splitBlanks_of_solid word.solid, word.nonempty]

theorem words_append (blank : isBlank c = true) :
    words (cs ++ c :: ds) = words cs ++ words ds := by
  simp [words, splitBlanks_append blank]

theorem joinWith_cons_cons (sep : Char) (cs ds : List Char) (rest : List (List Char)) :
    joinWith sep (cs :: ds :: rest) = cs ++ sep :: joinWith sep (ds :: rest) := rfl

theorem joinWith_cons_of_ne_nil (sep : Char) (cs : List Char) {rest : List (List Char)}
    (more : rest ≠ []) : joinWith sep (cs :: rest) = cs ++ sep :: joinWith sep rest := by
  obtain ⟨next, others, rfl⟩ := List.exists_cons_of_ne_nil more
  exact joinWith_cons_cons sep cs next others

theorem joinWith_eq_intercalate (sep : Char) (pieces : List (List Char)) :
    joinWith sep pieces = [sep].intercalate pieces := by
  induction pieces with
  | nil => rfl
  | cons first rest ih =>
      cases rest with
      | nil => simp [joinWith]
      | cons next others => simp [joinWith_cons_cons, ih]

/-- The words of a text that words are joined to are these words. -/
theorem words_joinWith (all_words : ∀ w ∈ ws, IsWord w) : words (joinWith ' ' ws) = ws := by
  induction ws with
  | nil => rfl
  | cons w rest ih =>
      have first := words_of_isWord (all_words w List.mem_cons_self)
      have later := ih fun other mem => all_words other (List.mem_cons_of_mem _ mem)
      cases rest with
      | nil => exact first
      | cons next others =>
          rw [joinWith_cons_cons, words_append rfl, first, later]
          rfl

theorem collapse_eq (s : String) : collapse s = String.ofList (joinWith ' ' (words s.toList)) := by
  rw [← String.toList_inj, collapse, String.toList_intercalate, joinWith_eq_intercalate]
  simp [Function.comp_def]

/-- The collapsed texts are the words joined by single spaces. -/
theorem isCollapsed_iff {s : String} :
    IsCollapsed s ↔ ∃ ws, (∀ w ∈ ws, IsWord w) ∧ s = String.ofList (joinWith ' ' ws) := by
  constructor
  · intro collapsed
    exact ⟨words s.toList, fun _ mem => isWord_of_mem_words mem, collapsed.symm.trans (collapse_eq s)⟩
  · rintro ⟨ws, all_words, rfl⟩
    rw [IsCollapsed, collapse_eq, String.toList_ofList, words_joinWith all_words]

theorem isCollapsed_collapse (s : String) : IsCollapsed (collapse s) :=
  isCollapsed_iff.2 ⟨words s.toList, fun _ mem => isWord_of_mem_words mem, collapse_eq s⟩

theorem IsSolid.isCollapsed {s : String} (solid : IsSolid s) : IsCollapsed s := by
  by_cases empty : s.toList = []
  · rw [String.toList_eq_nil_iff] at empty
    subst empty
    rfl
  · refine isCollapsed_iff.2 ⟨[s.toList], ?_, ?_⟩
    · intro w mem
      cases List.mem_singleton.1 mem
      exact ⟨empty, solid⟩
    · simp [joinWith]

/-- Splitting at blanks and joining by spaces keeps the length. -/
theorem length_joinWith_splitBlanks (cs : List Char) :
    (joinWith ' ' (splitBlanks cs)).length = cs.length := by
  induction cs with
  | nil => rfl
  | cons c rest ih =>
      have some_piece := splitBlanks_ne_nil rest
      by_cases blank : isBlank c = true
      · simp [splitBlanks, blank, joinWith_cons_of_ne_nil _ _ some_piece, ih]
      · cases pieces : splitBlanks rest with
        | nil => exact absurd pieces some_piece
        | cons piece others =>
            rw [pieces] at ih
            cases others with
            | nil => simpa [splitBlanks, blank, pieces, joinWith] using ih
            | cons next more => simpa [splitBlanks, blank, pieces, joinWith_cons_cons] using ih

theorem length_joinWith_cons_le (sep : Char) (cs : List Char) (rest : List (List Char)) :
    (joinWith sep (cs :: rest)).length ≤ cs.length + (joinWith sep rest).length + 1 := by
  cases rest with
  | nil => simp [joinWith]
  | cons next others => simp [joinWith_cons_cons, Nat.add_assoc]

theorem length_joinWith_filter_le (sep : Char) (keep : List Char → Bool)
    (pieces : List (List Char)) :
    (joinWith sep (pieces.filter keep)).length ≤ (joinWith sep pieces).length := by
  induction pieces with
  | nil => exact Nat.le_refl _
  | cons first rest ih =>
      cases rest with
      | nil => cases keeps : keep first <;> simp [keeps, joinWith]
      | cons next others =>
          have longer : (joinWith sep (first :: next :: others)).length =
              first.length + (joinWith sep (next :: others)).length + 1 := by
            simp [joinWith_cons_cons, Nat.add_assoc]
          by_cases keeps : keep first = true
          · have bound := length_joinWith_cons_le sep first ((next :: others).filter keep)
            rw [List.filter_cons_of_pos keeps]
            omega
          · rw [List.filter_cons_of_neg keeps]
            omega

/-- Collapsing never makes a text longer. -/
theorem length_collapse_le (s : String) : (collapse s).toList.length ≤ s.toList.length := by
  rw [collapse_eq, String.toList_ofList, ← length_joinWith_splitBlanks s.toList]
  exact length_joinWith_filter_le ' ' _ _

/-- A word that is put in front of a text becomes a part of its first word. -/
private theorem exists_joinWith_of_word {vs : List (List Char)} (word : IsWord cs)
    (after : ∀ w ∈ vs, IsWord w) :
    ∃ us, (∀ w ∈ us, IsWord w) ∧ us ≠ [] ∧ cs ++ joinWith ' ' vs = joinWith ' ' us := by
  cases vs with
  | nil => exact ⟨[cs], by simpa using word, List.cons_ne_nil _ _, by simp [joinWith]⟩
  | cons v rest =>
      have longer : IsWord (cs ++ v) := by
        refine ⟨by simp [word.nonempty], fun c mem => ?_⟩
        rcases List.mem_append.1 mem with left | right
        · exact word.solid c left
        · exact (after v List.mem_cons_self).solid c right
      refine ⟨(cs ++ v) :: rest, fun w mem => ?_, List.cons_ne_nil _ _, ?_⟩
      · rcases List.mem_cons.1 mem with rfl | later
        · exact longer
        · exact after w (List.mem_cons_of_mem _ later)
      · cases rest with
        | nil => rfl
        | cons next others => simp [joinWith_cons_cons]

/-- A character that is no blank makes one word of the last word before it and the first one
after it. -/
private theorem exists_joinWith_append {vs : List (List Char)} (solid : isBlank c = false)
    (before : ∀ w ∈ ws, IsWord w) (after : ∀ w ∈ vs, IsWord w) :
    ∃ us, (∀ w ∈ us, IsWord w) ∧ us ≠ [] ∧
      joinWith ' ' ws ++ c :: joinWith ' ' vs = joinWith ' ' us := by
  induction ws with
  | nil =>
      have word : IsWord [c] := ⟨List.cons_ne_nil _ _, by simpa using solid⟩
      exact exists_joinWith_of_word word after
  | cons w rest ih =>
      cases rest with
      | nil =>
          have word := before w List.mem_cons_self
          have longer : IsWord (w ++ [c]) := by
            refine ⟨by simp, fun other mem => ?_⟩
            rcases List.mem_append.1 mem with left | right
            · exact word.solid other left
            · exact List.mem_singleton.1 right ▸ solid
          simpa [joinWith] using exists_joinWith_of_word longer after
      | cons next others =>
          obtain ⟨us, all_words, nonempty, same⟩ := ih fun other mem =>
            before other (List.mem_cons_of_mem _ mem)
          obtain ⟨first, more, rfl⟩ := List.exists_cons_of_ne_nil nonempty
          refine ⟨w :: first :: more, fun other mem => ?_, List.cons_ne_nil _ _, ?_⟩
          · rcases List.mem_cons.1 mem with rfl | later
            · exact before other List.mem_cons_self
            · exact all_words other later
          · rw [joinWith_cons_cons, joinWith_cons_cons, ← same, List.append_assoc, List.cons_append]

/-- Collapsed texts stay collapsed when a character that is no blank joins them. -/
theorem isCollapsed_append {a glue b : String} (single : glue.toList = [c])
    (solid : isBlank c = false) (before : IsCollapsed a) (after : IsCollapsed b) :
    IsCollapsed (a ++ glue ++ b) := by
  obtain ⟨ws, all_before, rfl⟩ := isCollapsed_iff.1 before
  obtain ⟨vs, all_after, rfl⟩ := isCollapsed_iff.1 after
  obtain ⟨us, all_words, -, same⟩ := exists_joinWith_append solid all_before all_after
  refine isCollapsed_iff.2 ⟨us, all_words, ?_⟩
  rw [← same, ← String.toList_inj]
  simp [single]

end StackDeploy.Text
