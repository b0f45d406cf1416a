/-
# Joined texts are split again

Pieces that are joined by a character which none of them holds come back, in order, when the text is
split at that character. The same goes for a text that is cut at a character or at a phrase: it is
cut where the separator was put if there is none before. Numbers in decimal digits hold no such
character, and are told apart by their digits. Pieces that are put together without a separator are
told apart by their lengths.
-/

import StackDeploy.Proofs.Text.Collapse

namespace StackDeploy.Text

variable {sep : Char} {cs ds : List Char} {pieces : List (List Char)}

theorem splitAt_of_notMem (absent : sep ∉ cs) : splitAt sep cs = [cs] := by
  induction cs with
  | nil => rfl
  | cons c rest ih =>
      rw [List.mem_cons, not_or] at absent
      rw [splitAt, if_neg (Ne.symm absent.1), ih absent.2]

theorem splitAt_append (absent : sep ∉ cs) :
    splitAt sep (cs ++ sep :: ds) = cs :: splitAt sep ds := by
  induction cs with
  | nil => rw [List.nil_append, splitAt, if_pos rfl]
  | cons c rest ih =>
      rw [List.mem_cons, not_or] at absent
      rw [List.cons_append, splitAt, if_neg (Ne.symm absent.1), ih absent.2]

theorem cutFirst_eq_none (absent : sep ∉ cs) : cutFirst sep cs = none := by
  induction cs with
  | nil => rfl
  | cons c rest ih =>
      rw [List.mem_cons, not_or] at absent
      rw [cutFirst, if_neg (Ne.symm absent.1), ih absent.2]
      rfl

theorem cutFirst_append (absent : sep ∉ cs) :
    cutFirst sep (cs ++ sep :: ds) = some (cs, ds) := by
  induction cs with
  | nil => exact if_pos rfl
  | cons c rest ih =>
      rw [List.mem_cons, not_or] at absent
      rw [List.cons_append, cutFirst, if_neg (Ne.symm absent.1), ih absent.2]
      rfl

/-- No proper ending of a phrase is a beginning of it, so that two occurrences of the phrase never
overlap. -/
def IsUnbordered (phrase : List Char) : Prop :=
  ∀ n < phrase.length, n ≠ 0 → ¬ phrase.drop n <+: phrase

instance (phrase : List Char) : Decidable (IsUnbordered phrase) :=
  inferInstanceAs (Decidable (∀ n < phrase.length, n ≠ 0 → ¬ phrase.drop n <+: phrase))

/-- A phrase that is put behind a text without it does not begin inside the text. -/
theorem not_isPrefix_append {phrase : List Char} (unbordered : IsUnbordered phrase)
    (nonempty : cs ≠ []) (absent : ¬ phrase <:+: cs) : ¬ phrase <+: cs ++ (phrase ++ ds) := by
  intro begins
  rcases Nat.lt_or_ge cs.length phrase.length with short | long
  · have front : cs <+: phrase :=
      List.prefix_of_prefix_length_le (List.prefix_append ..) begins (Nat.le_of_lt short)
    obtain ⟨ending, split⟩ := front
    have rest : phrase.drop cs.length = ending := by rw [← split, List.drop_left]
    have within : ending <+: phrase ++ ds := by
      rw [← List.prefix_append_right_inj cs, split]
      exact begins
    have whole : ending <+: phrase :=
      List.prefix_of_prefix_length_le within (List.prefix_append ..)
        (by rw [← rest, List.length_drop]; exact Nat.sub_le ..)
    exact unbordered cs.length short (fun empty => nonempty (List.length_eq_zero_iff.1 empty))
      (rest ▸ whole)
  · exact absent (List.prefix_of_prefix_length_le begins (List.prefix_append ..) long).isInfix

theorem cutPhrase_append {phrase : List Char} (unbordered : IsUnbordered phrase)
    (absent : ¬ phrase <:+: cs) (ds : List Char) :
    cutPhrase phrase (cs ++ (phrase ++ ds)) = some (cs, ds) := by
  induction cs with
  | nil =>
      cases phrase with
      | nil => exact absurd List.nil_infix absent
      | cons c rest =>
          have begins : (c :: rest).isPrefixOf (c :: (rest ++ ds)) = true :=
            List.isPrefixOf_iff_prefix.2 (List.prefix_append ..)
          rw [List.nil_append, List.cons_append, cutPhrase, if_pos begins, ← List.cons_append,
            List.drop_left]
  | cons c rest ih =>
      have later : ¬ phrase.isPrefixOf (c :: (rest ++ (phrase ++ ds))) = true := fun begins =>
        not_isPrefix_append unbordered (List.cons_ne_nil c rest) absent
          (List.isPrefixOf_iff_prefix.1 begins)
      rw [List.cons_append, cutPhrase, if_neg later,
        ih fun inside => absent (inside.trans (List.suffix_cons c rest).isInfix)]
      rfl

/-- What stands before and after the first separator of a text is told by the text. -/
theorem append_cons_inj {rest others : List Char} (absent : sep ∉ cs) (absent' : sep ∉ ds) :
    cs ++ sep :: rest = ds ++ sep :: others ↔ cs = ds ∧ rest = others := by
  constructor
  · intro same
    have pieces := congrArg (splitAt sep) same
    rw [splitAt_append absent, splitAt_append absent'] at pieces
    obtain ⟨rfl, -⟩ := List.cons.inj pieces
    exact ⟨rfl, (List.cons.inj (List.append_cancel_left same)).2⟩
  · rintro ⟨rfl, rfl⟩
    rfl

theorem splitAt_joinWith (absent : ∀ piece ∈ pieces, sep ∉ piece) (nonempty : pieces ≠ []) :
    splitAt sep (joinWith sep pieces) = pieces := by
  induction pieces with
  | nil => exact absurd rfl nonempty
  | cons piece rest ih =>
      obtain ⟨first, others⟩ := List.forall_mem_cons.1 absent
      by_cases last : rest = []
      · rw [last]
        exact splitAt_of_notMem first
      · rw [joinWith_cons_of_ne_nil sep piece last, splitAt_append first, ih others last]

theorem mem_joinWith {c : Char} (mem : c ∈ joinWith sep pieces) :
    c = sep ∨ ∃ piece ∈ pieces, c ∈ piece := by
  induction pieces with
  | nil => cases mem
  | cons piece rest ih =>
      by_cases last : rest = []
      · rw [last] at mem ⊢
        exact .inr ⟨piece, List.mem_cons_self, mem⟩
      · rw [joinWith_cons_of_ne_nil sep piece last, List.mem_append, List.mem_cons] at mem
        rcases mem with here | rfl | later
        · exact .inr ⟨piece, List.mem_cons_self, here⟩
        · exact .inl rfl
        · refine (ih later).imp_right ?_
          rintro ⟨other, among, inside⟩
          exact ⟨other, List.mem_cons_of_mem _ among, inside⟩

theorem toList_intercalate (sep : Char) (texts : List String) :
    (String.intercalate (String.singleton sep) texts).toList =
      joinWith sep (texts.map String.toList) := by
  rw [String.toList_intercalate, joinWith_eq_intercalate, String.toList_singleton]

theorem notMem_decimal (mark : sep.isDigit = false) (n : Nat) : sep ∉ (decimal n).toList := by
  intro mem
  rw [decimal, String.toList_ofList] at mem
  have digit := Nat.isDigit_of_mem_toDigits (by omega) (by omega) mem
  rw [mark] at digit
  cases digit

theorem decimal_inj {m n : Nat} : decimal m = decimal n ↔ m = n := by
  constructor
  · intro same
    have digits : Nat.toDigits 10 m = Nat.toDigits 10 n := by
      simpa only [decimal, String.toList_ofList] using congrArg String.toList same
    rw [← Nat.ofDigitChars_ten_toDigits (n := m), digits, Nat.ofDigitChars_ten_toDigits]
  · intro same
    rw [same]

/-! ## Pieces without a separator -/

section

variable {α β : Type} {f g : α → List β} {items : List α}

private theorem length_flatMap_le (shorter : ∀ item ∈ items, (f item).length ≤ (g item).length) :
    (items.flatMap f).length ≤ (items.flatMap g).length := by
  induction items with
  | nil => exact Nat.le_refl _
  | cons first rest ih =>
      have head := shorter first List.mem_cons_self
      have tail := ih fun item mem => shorter item (List.mem_cons_of_mem _ mem)
      rw [List.flatMap_cons, List.flatMap_cons, List.length_append, List.length_append]
      omega

/-- Two texts that are the same have the same pieces, if each piece of the first is at most as long
as its counterpart: no piece can make up for another one that is shorter. -/
theorem eq_of_flatMap_eq (shorter : ∀ item ∈ items, (f item).length ≤ (g item).length)
    (same : items.flatMap f = items.flatMap g) : ∀ item ∈ items, f item = g item := by
  induction items with
  | nil => exact nofun
  | cons first rest ih =>
      have head := shorter first List.mem_cons_self
      have others := fun item mem => shorter item (List.mem_cons_of_mem _ mem)
      have tail := length_flatMap_le others
      rw [List.flatMap_cons, List.flatMap_cons] at same
      have total := congrArg List.length same
      rw [List.length_append, List.length_append] at total
      obtain ⟨first_same, rest_same⟩ := List.append_inj same (by omega)
      intro item mem
      rcases List.mem_cons.1 mem with rfl | later
      · exact first_same
      · exact ih others rest_same item later

/-- Pieces that are not empty make up the items themselves exactly if each is the item that it
stands for. -/
theorem flatMap_eq_self_iff {f : α → List α} (nonempty : ∀ item, f item ≠ []) :
    items.flatMap f = items ↔ ∀ item ∈ items, f item = [item] := by
  have singletons : items.flatMap (fun item => [item]) = items := List.flatMap_singleton' items
  constructor
  · intro same item mem
    have longer : ∀ item ∈ items, [item].length ≤ (f item).length := fun item _ =>
      List.length_pos_iff.2 (nonempty item)
    exact (eq_of_flatMap_eq longer (singletons.trans same.symm) item mem).symm
  · intro single
    rw [List.flatMap_def, List.map_congr_left single, ← List.flatMap_def, singletons]

end

end StackDeploy.Text
