/-
# Integers are read back

An integer of 64 bits, with a sign or without, is written by its decimal digits. They have no zero
in front, and no value that is built up from them on the way exceeds a word, so they are read as
that integer again. A value whose numbers are such integers is therefore determined by its text.
-/

import Mathlib.Algebra.Group.Int.Defs
import Mathlib.Algebra.Group.Nat.Defs
import Mathlib.Data.List.TakeWhile
import StackDeploy.Proofs.Json.Written

namespace StackDeploy.Json

/-! ## Integers of 64 bits -/

/-- The integers among the numbers are those of 64 bits, with a sign or without. -/
def Number.Fits : Number → Prop
  | .int n => -2 ^ 63 ≤ n ∧ n < 2 ^ 64
  | .double _ => True

instance : DecidablePred Number.Fits
  | .int n => inferInstanceAs (Decidable (-2 ^ 63 ≤ n ∧ n < 2 ^ 64))
  | .double _ => isTrue trivial

theorem Number.Fits.natAbs_lt {n : Int} (fits : Fits (.int n)) : n.natAbs < 2 ^ 64 := by
  obtain ⟨low, high⟩ := fits
  omega

/-- A number that is not a double. -/
def Number.IsInteger : Number → Prop
  | .int _ => True
  | .double _ => False

instance : DecidablePred Number.IsInteger
  | .int _ => isTrue trivial
  | .double _ => isFalse not_false

/-- Integers are compared exactly. -/
theorem Number.IsInteger.same_iff_eq {a b : Number} (ha : a.IsInteger) (hb : b.IsInteger) :
    a.same b = true ↔ a = b := by
  cases a with
  | double => exact ha.elim
  | int m =>
      cases b with
      | double => exact hb.elim
      | int n =>
          rw [Number.int.injEq]
          exact beq_iff_eq

/-! ## Decimal digits -/

namespace Number

/-- The value of a row of digits after a significand. -/
def valueAfter (significand : Nat) (digits : List Nat) : Nat :=
  digits.foldl (fun value digit => value * 10 + digit) significand

theorem le_valueAfter (significand : Nat) (digits : List Nat) :
    significand ≤ valueAfter significand digits := by
  induction digits generalizing significand with
  | nil => exact Nat.le_refl _
  | cons digit rest ih =>
      have step := ih (significand * 10 + digit)
      show significand ≤ valueAfter (significand * 10 + digit) rest
      omega

/-- Digits whose value fits a word are all taken. -/
theorem accumulate_eq_of_le {significand : Nat} {digits : List Nat}
    (fits : valueAfter significand digits ≤ maxWord) :
    accumulate significand digits = (valueAfter significand digits, []) := by
  induction digits generalizing significand with
  | nil => rfl
  | cons digit rest ih =>
      have step : significand * 10 + digit ≤ maxWord := (le_valueAfter _ rest).trans fits
      rw [accumulate, if_pos step, ih fits]
      rfl

end Number

namespace Token

theorem digitValues_toDigits (n : Nat) :
    digitValues (Nat.toDigits 10 n) = (Nat.toDigits 10 n).map fun c => c.toNat - 48 := by
  have digits : ∀ c ∈ Nat.toDigits 10 n, c.isDigit = true :=
    fun c mem => Nat.isDigit_of_mem_toDigits (by decide) (by decide) mem
  rw [digitValues, List.takeWhile_eq_self_iff.2 digits]

theorem afterDigits_toDigits (n : Nat) : afterDigits (Nat.toDigits 10 n) = [] := by
  rw [afterDigits, List.dropWhile_eq_nil_iff]
  exact fun c mem => Nat.isDigit_of_mem_toDigits (by decide) (by decide) mem

theorem valueAfter_digitValues_toDigits (n : Nat) :
    Number.valueAfter 0 (digitValues (Nat.toDigits 10 n)) = n := by
  have value := Nat.ofDigitChars_ten_toDigits (n := n)
  rw [digitValues_toDigits, Number.valueAfter, List.foldl_map]
  simp only [Nat.ofDigitChars, Nat.mul_comm 10] at value
  exact value

/-- The digits of a positive number do not start with a zero. -/
theorem exists_digitValues_toDigits {n : Nat} (positive : 0 < n) :
    ∃ digit rest, digitValues (Nat.toDigits 10 n) = (digit + 1) :: rest := by
  rw [digitValues_toDigits]
  induction n using Nat.strongRecOn with
  | ind n ih =>
      rw [Nat.toDigits_eq_if (by decide)]
      by_cases single : n < 10
      · rw [if_pos single, List.map_singleton, Nat.toNat_digitChar_of_lt_ten single]
        exact ⟨n - 1, [], by congr 1; omega⟩
      · rw [if_neg single, List.map_append]
        obtain ⟨digit, rest, front⟩ := ih (n / 10) (by omega) (by omega)
        exact ⟨digit, _, by rw [front]; rfl⟩

/-- The digits of a number within a word are scanned as the integer with a sign. -/
theorem scanMagnitude_toDigits (negative : Bool) {n : Nat} (word : n ≤ Number.maxWord)
    (fits : negative = true → 0 < n ∧ n ≤ Nat.pow 2 63) :
    scanMagnitude negative (Nat.toDigits 10 n) =
      (.number (.ok (.int (if negative then -n else n))), []) := by
  have taken : Number.accumulate 0 (digitValues (Nat.toDigits 10 n)) = (n, []) := by
    rw [Number.accumulate_eq_of_le (by rwa [valueAfter_digitValues_toDigits]),
      valueAfter_digitValues_toDigits]
  have number : Number.ofDigits negative (digitValues (Nat.toDigits 10 n)) none none =
      some (.int (if negative then -n else n)) := by
    unfold Number.ofDigits
    rw [taken]
    cases negative with
    | false => rfl
    | true =>
        obtain ⟨positive, small⟩ := fits rfl
        have regular : ¬(n = 0 ∨ Nat.pow 2 63 < n) := by omega
        simp [regular]
  rcases Nat.eq_zero_or_pos n with rfl | positive
  · cases negative with
    | false => rfl
    | true => exact absurd (fits rfl).1 (Nat.lt_irrefl 0)
  · obtain ⟨digit, rest, front⟩ := exists_digitValues_toDigits positive
    rw [front] at number
    have nothing : scanExponent negative ((digit + 1) :: rest) none [] =
        (.number (.ok (.int (if negative then -n else n))), []) := by
      rw [scanExponent_of_other (fun c mem => by cases mem), finishNumber, number]
    unfold scanMagnitude
    rw [afterDigits_toDigits, front]
    cases rest <;> exact nothing

theorem scanAll_of_scan {c : Char} {cs : List Char} {token : Token} (solid : isSpace c = false)
    (scanned : scan c cs = (token, [])) : scanAll (c :: cs).length (c :: cs) = [token] := by
  have skipped : (c :: cs).dropWhile isSpace = c :: cs :=
    List.dropWhile_cons_of_neg (Bool.not_eq_true _ ▸ solid)
  rw [List.length_cons, scanAll, skipped]
  dsimp only
  rw [scanned]
  cases cs <;> rfl

theorem isSpace_of_isDigit {c : Char} (digit : c.isDigit = true) : isSpace c = false := by
  by_contra space
  rw [Bool.not_eq_false] at space
  simp only [isSpace, Bool.or_eq_true, beq_iff_eq] at space
  rcases space with ((rfl | rfl) | rfl) | rfl <;> revert digit <;> decide

/-- The text of an integer of 64 bits has that integer for its only token. -/
theorem ofText_decimalInt {n : Int} (fits : Number.Fits (.int n)) :
    ofText (Text.decimalInt n) = [.number (.ok (.int n))] := by
  obtain ⟨low, high⟩ := fits
  rw [ofText, ← String.length_toList]
  cases n with
  | ofNat m =>
      have word : m ≤ Number.maxWord := by
        rw [Int.ofNat_eq_natCast] at high
        show m ≤ 2 ^ 64 - 1
        omega
      have scanned := scanMagnitude_toDigits false word fun is => absurd is Bool.false_ne_true
      rw [Text.decimalInt, Text.decimal, String.toList_ofList]
      cases digits : Nat.toDigits 10 m with
      | nil => exact absurd digits Nat.toDigits_ne_nil
      | cons c cs =>
          have digit : c.isDigit = true := Nat.isDigit_of_mem_toDigits (by decide) (by decide)
            (digits ▸ List.mem_cons_self)
          rw [digits, ← scan_of_digit digit] at scanned
          exact scanAll_of_scan (isSpace_of_isDigit digit) scanned
  | negSucc m =>
      have word : m + 1 ≤ Number.maxWord := by
        show m + 1 ≤ 2 ^ 64 - 1
        omega
      have small : m + 1 ≤ Nat.pow 2 63 := by
        show m + 1 ≤ 2 ^ 63
        omega
      have scanned := scanMagnitude_toDigits true word fun _ => ⟨m.succ_pos, small⟩
      have chars : (Text.decimalInt (.negSucc m)).toList = '-' :: Nat.toDigits 10 (m + 1) := by
        have sign : "-".toList = ['-'] := rfl
        rw [Text.decimalInt, Text.decimal, String.toList_append, sign, String.toList_ofList]
        rfl
      rw [chars]
      exact scanAll_of_scan rfl scanned

end Token

/-- An integer of 64 bits is read back. -/
theorem Number.readsBack_of_isInteger {n : Number} (integer : n.IsInteger) (fits : n.Fits) :
    n.ReadsBack := by
  cases n with
  | double => exact integer.elim
  | int n =>
      have document : Document.ofText (Number.text (.int n)) = ⟨.number (.ok (.int n)), false⟩ := by
        unfold Document.ofText
        rw [text, Token.ofText_decimalInt fits]
        rfl
      rw [ReadsBack, Value.ofText, document]
      rfl

/-! ## Values told by their texts -/

namespace Value

mutual

/-- A value is told by its tree. -/
theorem toTree_inj : ∀ {v w : Value}, v.toTree = w.toTree → v = w
  | .null, w, same => by cases w <;> first | rfl | cases same
  | .bool value, w, same => by cases w <;> cases same; rfl
  | .number n, w, same => by cases w <;> cases same; rfl
  | .string s, w, same => by cases w <;> cases same; rfl
  | .array items, .array others, same => by
      rw [toTree, toTree, Tree.array.injEq] at same
      rw [itemTrees_inj same.1]
  | .object members, .object others, same => by
      rw [toTree, toTree, Tree.object.injEq] at same
      rw [memberTrees_inj same.1]

theorem itemTrees_inj : ∀ {items others : List Value}, itemTrees items = itemTrees others →
    items = others
  | [], [], _ => rfl
  | item :: items, other :: others, same => by
      rw [itemTrees, itemTrees, List.cons.injEq] at same
      rw [toTree_inj same.1, itemTrees_inj same.2]

theorem memberTrees_inj : ∀ {members others : Members},
    memberTrees members = memberTrees others → members = others
  | [], [], _ => rfl
  | (key, value) :: members, (other, kept) :: others, same => by
      rw [memberTrees, memberTrees, List.cons.injEq, Prod.mk.injEq, Except.ok.injEq] at same
      rw [same.1.1, toTree_inj same.1.2, memberTrees_inj same.2]

end

/-- Values whose numbers are read back are told by their texts. -/
theorem compact_inj {v w : Value} (hv : ∀ n ∈ v.numbers, n.ReadsBack)
    (hw : ∀ n ∈ w.numbers, n.ReadsBack) : v.compact = w.compact ↔ v = w := by
  refine ⟨fun same => ?_, congrArg compact⟩
  have documents : Document.ofText v.compact = Document.ofText w.compact :=
    congrArg Document.ofText same
  rw [Document.ofText_compact hv, Document.ofText_compact hw, Document.mk.injEq] at documents
  exact toTree_inj documents.1

end Value

end StackDeploy.Json
