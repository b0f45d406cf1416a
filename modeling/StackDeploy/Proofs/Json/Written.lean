/-
# Reading what was written

The tokens of a value make up a tree that can be given directly: nothing in it is repeated or broken
off. From this tree the value is read again if it could have been read in the first place, that is,
if its objects hold every key once and no more containers are nested than the reader may enter.
-/

import StackDeploy.Proofs.Json.Layout

namespace StackDeploy.Json

namespace Value

mutual

/-- The tree of a value. -/
def toTree : Value → Tree
  | .null => .null
  | .bool value => .bool value
  | .number n => .number (.ok n)
  | .string s => .string (.ok s)
  | .array items => .array (itemTrees items) .closed
  | .object members => .object (memberTrees members) .closed

/-- The trees of the items of an array. -/
def itemTrees : List Value → List Tree
  | [] => []
  | item :: rest => toTree item :: itemTrees rest

/-- The trees of the members of an object. -/
def memberTrees : List (String × Value) → List (Except Problem String × Tree)
  | [] => []
  | (key, value) :: rest => (.ok key, toTree value) :: memberTrees rest

end

/-- A value does not start like the end of an array. -/
private theorem exists_tokens_eq_cons (v : Value) :
    ∃ token more, v.tokens = token :: more ∧ token ≠ .closeBracket := by
  cases v with
  | array items =>
      cases items with
      | nil => exact ⟨_, _, rfl, by rintro ⟨⟩⟩
      | cons first rest => exact ⟨_, _, by rw [tokens], by rintro ⟨⟩⟩
  | object members =>
      cases members with
      | nil => exact ⟨_, _, rfl, by rintro ⟨⟩⟩
      | cons first rest =>
          obtain ⟨key, value⟩ := first
          exact ⟨_, _, by rw [tokens], by rintro ⟨⟩⟩
  | _ => exact ⟨_, _, rfl, by rintro ⟨⟩⟩

end Value

namespace Tree

open Value

private theorem ofTokens_openBracket {fuel : Nat} {token : Token} {more : List Token}
    (opens : token ≠ .closeBracket) :
    ofTokens (fuel + 1) (.openBracket :: token :: more) =
      (.array (itemsOfTokens fuel (token :: more)).1 (itemsOfTokens fuel (token :: more)).2.1,
        (itemsOfTokens fuel (token :: more)).2.2) := by
  cases token with
  | closeBracket => exact absurd rfl opens
  | _ => rfl

mutual

/-- The tokens of a value make its tree. -/
theorem ofTokens_tokens : ∀ (v : Value) (fuel : Nat) (rest : List Token),
    2 * v.tokens.length ≤ fuel + 1 → ofTokens fuel (v.tokens ++ rest) = (v.toTree, some rest)
  | v, 0, rest, enough => by
      obtain ⟨token, more, start, -⟩ := v.exists_tokens_eq_cons
      rw [start, List.length_cons] at enough
      omega
  | .null, fuel + 1, rest, enough => by simp only [tokens, toTree, List.singleton_append, ofTokens]
  | .bool value, fuel + 1, rest, enough => by
      simp only [tokens, toTree, List.singleton_append, ofTokens]
  | .number n, fuel + 1, rest, enough => by
      simp only [tokens, toTree, List.singleton_append, ofTokens]
  | .string s, fuel + 1, rest, enough => by
      simp only [tokens, toTree, List.singleton_append, ofTokens]
  | .array [], fuel + 1, rest, enough => by
      simp only [tokens, toTree, itemTrees, List.cons_append, List.nil_append, ofTokens]
  | .object [], fuel + 1, rest, enough => by
      simp only [tokens, toTree, memberTrees, List.cons_append, List.nil_append, ofTokens]
  | .array (first :: items), fuel + 1, rest, enough => by
      obtain ⟨token, more, start, opens⟩ := first.exists_tokens_eq_cons
      rw [tokens, List.length_cons, List.length_append, List.length_append,
        List.length_singleton] at enough
      have inside := itemsOfTokens_tokens first items fuel rest (by omega)
      rw [start] at inside
      rw [tokens, start]
      simp only [List.cons_append, List.append_assoc, List.nil_append] at inside ⊢
      rw [ofTokens_openBracket opens, inside, toTree, itemTrees]
  | .object ((key, first) :: members), fuel + 1, rest, enough => by
      rw [tokens] at enough
      simp only [List.length_cons, List.length_append, List.length_nil] at enough
      have inside := membersOfTokens_tokens key first members fuel rest (by omega)
      rw [tokens]
      simp only [List.cons_append, List.append_assoc, List.nil_append] at inside ⊢
      rw [ofTokens, inside, toTree, memberTrees]
  termination_by v => sizeOf v

theorem itemsOfTokens_tokens : ∀ (first : Value) (items : List Value) (fuel : Nat)
    (rest : List Token), 2 * (first.tokens.length + (itemTokens items).length) ≤ fuel →
    itemsOfTokens fuel (first.tokens ++ itemTokens items ++ .closeBracket :: rest) =
      (first.toTree :: itemTrees items, .closed, some rest)
  | first, items, 0, rest, enough => by
      obtain ⟨token, more, start, -⟩ := first.exists_tokens_eq_cons
      rw [start, List.length_cons] at enough
      omega
  | first, [], fuel + 1, rest, enough => by
      have head := ofTokens_tokens first fuel (.closeBracket :: rest)
        (by rw [itemTokens] at enough; simp only [List.length_nil] at enough; omega)
      rw [itemTokens, List.append_nil, itemsOfTokens, head, itemTrees]
  | first, next :: items, fuel + 1, rest, enough => by
      rw [itemTokens, List.length_cons, List.length_append] at enough
      have head := ofTokens_tokens first fuel
        (.comma :: (next.tokens ++ itemTokens items ++ .closeBracket :: rest)) (by omega)
      have later := itemsOfTokens_tokens next items fuel rest (by omega)
      rw [itemTokens, List.append_assoc, List.cons_append, itemsOfTokens, head]
      dsimp only
      rw [later, itemTrees]
  termination_by first items => sizeOf first + sizeOf items + 1

theorem membersOfTokens_tokens : ∀ (key : String) (first : Value)
    (members : List (String × Value)) (fuel : Nat) (rest : List Token),
    2 * (2 + first.tokens.length + (memberTokens members).length) ≤ fuel →
    membersOfTokens fuel (.string (.ok key) :: .colon ::
        (first.tokens ++ memberTokens members ++ .closeBrace :: rest)) =
      ((.ok key, first.toTree) :: memberTrees members, .closed, some rest)
  | key, first, members, 0, rest, enough => by omega
  | key, first, [], fuel + 1, rest, enough => by
      have head := ofTokens_tokens first fuel (.closeBrace :: rest) (by omega)
      rw [memberTokens, List.append_nil, membersOfTokens, head, memberTrees]
  | key, first, (next, value) :: members, fuel + 1, rest, enough => by
      rw [memberTokens] at enough
      simp only [List.length_cons, List.length_append] at enough
      have head := ofTokens_tokens first fuel (.comma :: .string (.ok next) :: .colon ::
        (value.tokens ++ memberTokens members ++ .closeBrace :: rest)) (by omega)
      have later := membersOfTokens_tokens next value members fuel rest (by omega)
      rw [memberTokens, List.append_assoc]
      simp only [List.cons_append] at head later ⊢
      rw [membersOfTokens, head]
      dsimp only
      rw [later, memberTrees]
  termination_by _ first members => sizeOf first + sizeOf members + 1

end

mutual

/-- A value that reading can give is read from its tree. -/
theorem toValue_toTree : ∀ {v : Value} {depth : Depth}, Sound depth v →
    v.toTree.toValue depth = .ok v
  | .null, depth, sound => rfl
  | .bool value, depth, sound => rfl
  | .number n, depth, sound => rfl
  | .string s, depth, sound => rfl
  | .array items, depth, sound => by
      obtain ⟨distinct, nested⟩ := sound
      cases distinct with
      | array distinct =>
          cases nested with
          | array nested =>
              have values := toValues_itemTrees fun item mem => ⟨distinct item mem, nested item mem⟩
              rw [toTree, toValue, values]
              rfl
  | .object members, depth, sound => by
      obtain ⟨distinct, nested⟩ := sound
      cases distinct with
      | object keys distinct =>
          cases nested with
          | object nested =>
              have pairs := toPairs_memberTrees fun entry mem =>
                ⟨distinct entry mem, nested entry mem⟩
              rw [toTree, toValue, pairs]
              show Except.ok (Value.object (Members.ofList members)) = _
              rw [Members.ofList_of_nodup keys]

theorem toValues_itemTrees : ∀ {items : List Value} {depth : Depth},
    (∀ item ∈ items, Sound depth item) → toValues depth (itemTrees items) = .ok items
  | [], depth, sound => rfl
  | item :: rest, depth, sound => by
      have head := toValue_toTree (sound item List.mem_cons_self)
      have later := toValues_itemTrees fun other mem => sound other (List.mem_cons_of_mem _ mem)
      rw [itemTrees, toValues, head, later]
      rfl

theorem toPairs_memberTrees : ∀ {members : List (String × Value)} {depth : Depth},
    (∀ entry ∈ members, Sound depth entry.2) → toPairs depth (memberTrees members) = .ok members
  | [], depth, sound => rfl
  | (key, value) :: rest, depth, sound => by
      have head := toValue_toTree (sound (key, value) List.mem_cons_self)
      have later := toPairs_memberTrees fun other mem => sound other (List.mem_cons_of_mem _ mem)
      rw [memberTrees, toPairs]
      dsimp only at head
      simp only [head, later]
      rfl

end

end Tree

/-- In every layout the text of a value is a document of just its tree. -/
theorem Document.ofText_chars (layout : Layout) {v : Value}
    (readsBack : ∀ n ∈ v.numbers, n.ReadsBack) :
    Document.ofText (String.ofList (layout.chars 0 v)) = ⟨v.toTree, false⟩ := by
  have emits : Token.Emits (layout.chars 0 v) v.tokens [] :=
    layout.emits_chars 0 v readsBack trivial
  have tokens : Token.ofText (String.ofList (layout.chars 0 v)) = v.tokens := by
    obtain ⟨spare, length⟩ := Nat.exists_eq_add_of_le emits.length_le
    have scanned := emits.scanAll_eq spare
    rw [Token.ofText, ← String.length_toList, String.toList_ofList, length]
    rw [List.append_nil] at scanned
    rw [scanned]
    cases spare <;> exact List.append_nil _
  unfold Document.ofText
  rw [tokens]
  dsimp only
  have made := Tree.ofTokens_tokens v (2 * v.tokens.length + 1) [] (by omega)
  rw [List.append_nil] at made
  rw [made]

theorem Document.ofText_compact {v : Value} (readsBack : ∀ n ∈ v.numbers, n.ReadsBack) :
    Document.ofText v.compact = ⟨v.toTree, false⟩ := by
  rw [Value.compact, ← Layout.chars_compact 0, ofText_chars .compact readsBack]

theorem Document.ofText_pretty {v : Value} (readsBack : ∀ n ∈ v.numbers, n.ReadsBack) :
    Document.ofText v.pretty = ⟨v.toTree, false⟩ := by
  rw [Value.pretty, ← Layout.chars_pretty, ofText_chars .pretty readsBack]

end StackDeploy.Json
