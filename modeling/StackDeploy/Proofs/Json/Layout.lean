/-
# Layouts

The compact and the pretty text of a value differ in their blanks only. Both are instances of one
layout, which says what stands after a colon and what before an item and before a closing bracket;
all that is asked of it is that these are blanks. The tokens of a value are the same in every
layout, its tree is made of them, and from its tree the value is read again.
-/

import StackDeploy.Proofs.Json.Scanning

namespace StackDeploy.Json

open Token

/-- A layout: the blanks after a colon, and those that start a line at a level of indentation. -/
structure Layout where
  gap : List Char
  line : Nat → List Char
  blank_gap : ∀ c ∈ gap, isSpace c = true
  blank_line : ∀ level, ∀ c ∈ line level, isSpace c = true

namespace Layout

mutual

/-- The characters of a value in a layout at a level of indentation. -/
def chars (layout : Layout) (level : Nat) : Value → List Char
  | .null => "null".toList
  | .bool true => "true".toList
  | .bool false => "false".toList
  | .number n => n.text.toList
  | .string s => quote s
  | .array [] => ['[', ']']
  | .array (first :: rest) =>
    '[' :: (layout.line (level + 1) ++ chars layout (level + 1) first ++
      itemChars layout (level + 1) rest ++ layout.line level ++ [']'])
  | .object [] => ['\x7b', '\x7d']
  | .object ((key, first) :: rest) =>
    '\x7b' :: (layout.line (level + 1) ++ quote key ++ ':' :: (layout.gap ++
      chars layout (level + 1) first ++ memberChars layout (level + 1) rest ++
      layout.line level ++ ['\x7d']))

/-- The further items of an array. -/
def itemChars (layout : Layout) (level : Nat) : List Value → List Char
  | [] => []
  | item :: rest =>
    ',' :: (layout.line level ++ chars layout level item ++ itemChars layout level rest)

/-- The further members of an object. -/
def memberChars (layout : Layout) (level : Nat) : List (String × Value) → List Char
  | [] => []
  | (key, value) :: rest =>
    ',' :: (layout.line level ++ quote key ++ ':' :: (layout.gap ++ chars layout level value ++
      memberChars layout level rest))

end

/-- The layout without blanks. -/
def compact : Layout where
  gap := []
  line := fun _ => []
  blank_gap := fun _ mem => nomatch mem
  blank_line := fun _ _ mem => nomatch mem

/-- The layout with a line for every item. -/
def pretty : Layout where
  gap := [' ']
  line := Value.newLine
  blank_gap := fun c mem => by
    rw [List.mem_singleton.1 mem]
    rfl
  blank_line := fun level c mem => by
    rcases List.mem_cons.1 mem with rfl | mem
    · rfl
    · rw [(List.mem_replicate.1 mem).2]
      rfl

mutual

theorem chars_compact (level : Nat) : ∀ v, compact.chars level v = v.compactChars
  | .null | .bool true | .bool false | .number _ | .string _ | .array [] | .object [] => rfl
  | .array (first :: rest) => by
      rw [chars, Value.compactChars, chars_compact, itemChars_compact]
      simp [compact]
  | .object ((key, first) :: rest) => by
      rw [chars, Value.compactChars, chars_compact, memberChars_compact]
      simp [compact]

theorem itemChars_compact (level : Nat) : ∀ items,
    compact.itemChars level items = Value.compactItems items
  | [] => rfl
  | item :: rest => by
      rw [itemChars, Value.compactItems, chars_compact, itemChars_compact]
      rfl

theorem memberChars_compact (level : Nat) : ∀ members,
    compact.memberChars level members = Value.compactMembers members
  | [] => rfl
  | (key, value) :: rest => by
      rw [memberChars, Value.compactMembers, chars_compact, memberChars_compact]
      rfl

end

mutual

theorem chars_pretty (level : Nat) : ∀ v, pretty.chars level v = v.prettyChars level
  | .null | .bool true | .bool false | .number _ | .string _ | .array [] | .object [] => by
      simp [chars, Value.prettyChars]
  | .array (first :: rest) => by
      rw [chars, Value.prettyChars, chars_pretty, itemChars_pretty]
      rfl
  | .object ((key, first) :: rest) => by
      rw [chars, Value.prettyChars, chars_pretty, memberChars_pretty]
      simp [pretty]

theorem itemChars_pretty (level : Nat) : ∀ items,
    pretty.itemChars level items = Value.prettyItems level items
  | [] => by simp [itemChars, Value.prettyItems]
  | item :: rest => by
      rw [itemChars, Value.prettyItems, chars_pretty, itemChars_pretty]
      rfl

theorem memberChars_pretty (level : Nat) : ∀ members,
    pretty.memberChars level members = Value.prettyMembers level members
  | [] => by simp [memberChars, Value.prettyMembers]
  | (key, value) :: rest => by
      rw [memberChars, Value.prettyMembers, chars_pretty, memberChars_pretty]
      simp [pretty]

end

end Layout

namespace Value

mutual

/-- The numbers in a value. -/
def numbers : Value → List Number
  | .number n => [n]
  | .array items => numbersOfItems items
  | .object members => numbersOfMembers members
  | _ => []

/-- The numbers in the items of an array. -/
def numbersOfItems : List Value → List Number
  | [] => []
  | item :: rest => numbers item ++ numbersOfItems rest

/-- The numbers in the members of an object. -/
def numbersOfMembers : List (String × Value) → List Number
  | [] => []
  | (_, value) :: rest => numbers value ++ numbersOfMembers rest

end

theorem numbersOfItems_eq_flatMap (items : List Value) :
    numbersOfItems items = items.flatMap numbers := by
  induction items with
  | nil => rfl
  | cons item rest ih => rw [numbersOfItems, ih, List.flatMap_cons]

theorem numbersOfMembers_eq_flatMap (members : Members) :
    numbersOfMembers members = members.flatMap fun member => numbers member.2 := by
  induction members with
  | nil => rfl
  | cons member rest ih => rw [numbersOfMembers, ih, List.flatMap_cons]

@[simp]
theorem mem_numbers_array {items : List Value} {n : Number} :
    n ∈ (array items).numbers ↔ ∃ item ∈ items, n ∈ item.numbers := by
  rw [numbers, numbersOfItems_eq_flatMap, List.mem_flatMap]

@[simp]
theorem mem_numbers_object {members : Members} {n : Number} :
    n ∈ (object members).numbers ↔ ∃ member ∈ members, n ∈ member.2.numbers := by
  rw [numbers, numbersOfMembers_eq_flatMap, List.mem_flatMap]

mutual

/-- The tokens of a value. -/
def tokens : Value → List Token
  | .null => [.null]
  | .bool value => [.bool value]
  | .number n => [.number (.ok n)]
  | .string s => [.string (.ok s)]
  | .array [] => [.openBracket, .closeBracket]
  | .array (first :: rest) => .openBracket :: (tokens first ++ itemTokens rest ++ [.closeBracket])
  | .object [] => [.openBrace, .closeBrace]
  | .object ((key, first) :: rest) =>
    .openBrace :: .string (.ok key) :: .colon ::
      (tokens first ++ memberTokens rest ++ [.closeBrace])

/-- The tokens of the further items of an array. -/
def itemTokens : List Value → List Token
  | [] => []
  | item :: rest => .comma :: (tokens item ++ itemTokens rest)

/-- The tokens of the further members of an object. -/
def memberTokens : List (String × Value) → List Token
  | [] => []
  | (key, value) :: rest =>
    .comma :: .string (.ok key) :: .colon :: (tokens value ++ memberTokens rest)

end

end Value

namespace Layout

variable (layout : Layout)

private theorem delimited_itemChars (level : Nat) (items : List Value) {tail : List Char}
    (ends : Delimited tail) : Delimited (layout.itemChars level items ++ tail) := by
  cases items with
  | nil => exact ends
  | cons item rest => exact Or.inr (Or.inl rfl)

private theorem delimited_memberChars (level : Nat) (members : List (String × Value))
    {tail : List Char} (ends : Delimited tail) :
    Delimited (layout.memberChars level members ++ tail) := by
  cases members with
  | nil => exact ends
  | cons member rest => exact Or.inr (Or.inl rfl)

/-- A closing bracket on a line of its own. -/
private theorem emits_close {level : Nat} {c : Char} {token : Token} {tail : List Char}
    (solid : isSpace c = false) (scanned : ∀ rest, scan c rest = (token, rest)) :
    Emits (layout.line level ++ [c]) [token] tail :=
  (emits_of_blank (layout.blank_line level) _).append (.cons solid scanned emits_nil)

private theorem delimited_close {level : Nat} {c : Char} {tail : List Char}
    (closes : c = ']' ∨ c = '\x7d') : Delimited (layout.line level ++ [c] ++ tail) := by
  rw [List.append_assoc]
  exact delimited_append_of_blank (layout.blank_line level) (Or.inr (Or.inr closes))

/-- A key on a line of its own, before its value. -/
private theorem emits_key (level : Nat) (key : String) {cs tail : List Char} {tokens : List Token}
    (value : Emits cs tokens tail) :
    Emits (layout.line level ++ quote key ++ ':' :: (layout.gap ++ cs))
      (.string (.ok key) :: .colon :: tokens) tail := by
  have colon : Emits (':' :: (layout.gap ++ cs)) (.colon :: tokens) tail :=
    .cons rfl (fun _ => rfl) ((emits_of_blank layout.blank_gap _).append value)
  exact ((emits_of_blank (layout.blank_line level) _).append (emits_quote key)).append colon

mutual

/-- In every layout the characters of a value are scanned into its tokens, before anything that ends
a number. -/
theorem emits_chars (level : Nat) : ∀ v : Value, (∀ n ∈ v.numbers, n.ReadsBack) →
    ∀ {tail : List Char}, Delimited tail → Emits (layout.chars level v) v.tokens tail
  | .null, _, _, _ => emits_of_scan rfl scanWord_append
  | .bool true, _, _, _ => emits_of_scan rfl scanWord_append
  | .bool false, _, _, _ => emits_of_scan rfl scanWord_append
  | .number n, readsBack, _, ends => (readsBack n List.mem_cons_self).emits ends
  | .string s, _, _, _ => emits_quote s
  | .array [], _, tail, _ => .cons rfl (fun _ => rfl) (.cons rfl (fun _ => rfl) emits_nil)
  | .object [], _, tail, _ => .cons rfl (fun _ => rfl) (.cons rfl (fun _ => rfl) emits_nil)
  | .array (first :: rest), readsBack, tail, ends => by
      have close : Emits (layout.line level ++ [']']) [.closeBracket] tail :=
        layout.emits_close rfl fun _ => rfl
      have after_items : Delimited (layout.line level ++ [']'] ++ tail) :=
        layout.delimited_close (Or.inl rfl)
      have later := (emits_itemChars (level + 1) rest
        (fun n mem => readsBack n (List.mem_append_right _ mem)) after_items).append close
      have after_first : Delimited (layout.itemChars (level + 1) rest ++
          (layout.line level ++ [']']) ++ tail) := by
        rw [List.append_assoc]
        exact layout.delimited_itemChars (level + 1) rest after_items
      have head := emits_chars (level + 1) first
        (fun n mem => readsBack n (List.mem_append_left _ mem)) after_first
      have inside := (emits_of_blank (layout.blank_line (level + 1)) _).append (head.append later)
      rw [chars, Value.tokens]
      simp only [List.append_assoc, List.nil_append] at inside ⊢
      exact .cons rfl (fun _ => rfl) inside
  | .object ((key, first) :: rest), readsBack, tail, ends => by
      have close : Emits (layout.line level ++ ['\x7d']) [.closeBrace] tail :=
        layout.emits_close rfl fun _ => rfl
      have after_members : Delimited (layout.line level ++ ['\x7d'] ++ tail) :=
        layout.delimited_close (Or.inr rfl)
      have later := (emits_memberChars (level + 1) rest
        (fun n mem => readsBack n (List.mem_append_right _ mem)) after_members).append close
      have after_first : Delimited (layout.memberChars (level + 1) rest ++
          (layout.line level ++ ['\x7d']) ++ tail) := by
        rw [List.append_assoc]
        exact layout.delimited_memberChars (level + 1) rest after_members
      have head := emits_chars (level + 1) first
        (fun n mem => readsBack n (List.mem_append_left _ mem)) after_first
      have inside := layout.emits_key (level + 1) key (head.append later)
      rw [chars, Value.tokens]
      simp only [List.append_assoc] at inside ⊢
      exact .cons rfl (fun _ => rfl) inside

theorem emits_itemChars (level : Nat) : ∀ items : List Value,
    (∀ n ∈ Value.numbersOfItems items, n.ReadsBack) →
    ∀ {tail : List Char}, Delimited tail →
      Emits (layout.itemChars level items) (Value.itemTokens items) tail
  | [], _, _, _ => emits_nil
  | item :: rest, readsBack, tail, ends => by
      have later := emits_itemChars level rest
        (fun n mem => readsBack n (List.mem_append_right _ mem)) ends
      have head := emits_chars level item
        (fun n mem => readsBack n (List.mem_append_left _ mem))
        (layout.delimited_itemChars level rest ends)
      have line := (emits_of_blank (layout.blank_line level) _).append (head.append later)
      rw [itemChars, Value.itemTokens, List.append_assoc]
      exact .cons rfl (fun _ => rfl) line

theorem emits_memberChars (level : Nat) : ∀ members : List (String × Value),
    (∀ n ∈ Value.numbersOfMembers members, n.ReadsBack) →
    ∀ {tail : List Char}, Delimited tail →
      Emits (layout.memberChars level members) (Value.memberTokens members) tail
  | [], _, _, _ => emits_nil
  | (key, value) :: rest, readsBack, tail, ends => by
      have later := emits_memberChars level rest
        (fun n mem => readsBack n (List.mem_append_right _ mem)) ends
      have head := emits_chars level value
        (fun n mem => readsBack n (List.mem_append_left _ mem))
        (layout.delimited_memberChars level rest ends)
      have line := layout.emits_key level key (head.append later)
      rw [memberChars, Value.memberTokens]
      simp only [List.append_assoc] at line ⊢
      exact .cons rfl (fun _ => rfl) line

end

end Layout

end StackDeploy.Json
