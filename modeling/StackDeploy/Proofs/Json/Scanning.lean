/-
# Scanning what was written

The pieces of a written document are scanned one by one: what a piece gives does not depend on the
text after it. For a word or a string literal this holds of every text. A number goes on as long as
the text can be read as one, so it has to be followed by something that ends it, as it is inside a
document; that a number by itself is read back as the same number is a property of that number, and
it is all that is asked of it here.
-/

import Mathlib.Data.List.TakeWhile
import StackDeploy.Json.Printer
import StackDeploy.Proofs.Json.Reading

namespace StackDeploy.Json

/-- The written form of a number is a document that reads as that number. -/
def Number.ReadsBack (n : Number) : Prop :=
  Value.ofText n.text = .ok (.number n)

namespace Token

variable {cs ds tail : List Char} {tokens more : List Token} {token : Token}

/-- Before a given text, some characters are scanned into some tokens. Each token takes one unit of
the bound on their number, and the bound that is left goes to the text after them; there are never
more tokens than characters. -/
structure Emits (cs : List Char) (tokens : List Token) (tail : List Char) : Prop where
  scanAll_eq : ∀ fuel, scanAll (tokens.length + fuel) (cs ++ tail) = tokens ++ scanAll fuel tail
  length_le : tokens.length ≤ cs.length

theorem emits_nil : Emits [] [] tail := by
  refine ⟨fun fuel => ?_, Nat.le_refl 0⟩
  rw [List.length_nil, Nat.zero_add]
  rfl

theorem Emits.append (first : Emits cs tokens (ds ++ tail)) (second : Emits ds more tail) :
    Emits (cs ++ ds) (tokens ++ more) tail := by
  refine ⟨fun fuel => ?_, ?_⟩
  · rw [List.length_append, Nat.add_assoc, List.append_assoc, first.scanAll_eq, second.scanAll_eq,
      List.append_assoc]
  · rw [List.length_append, List.length_append]
    exact Nat.add_le_add first.length_le second.length_le

/-- Blanks give no token. -/
theorem emits_of_blank (blank : ∀ c ∈ cs, isSpace c = true) (tail : List Char) :
    Emits cs [] tail := by
  refine ⟨fun fuel => ?_, Nat.zero_le _⟩
  rw [List.length_nil, Nat.zero_add, List.nil_append]
  cases fuel with
  | zero => rfl
  | succ fuel =>
      have dropped : (cs ++ tail).dropWhile isSpace = tail.dropWhile isSpace :=
        List.dropWhile_append_of_pos blank
      unfold scanAll
      rw [dropped]

/-- One token is scanned, up to blanks after it. -/
private theorem emits_of_scan_blank {c : Char} {rest : List Char} (solid : isSpace c = false)
    (blank : ∀ c ∈ rest, isSpace c = true)
    (scanned : scan c (cs ++ tail) = (token, rest ++ tail)) : Emits (c :: cs) [token] tail := by
  refine ⟨fun fuel => ?_, Nat.le_add_left 1 cs.length⟩
  have reached : (c :: cs ++ tail).dropWhile isSpace = c :: (cs ++ tail) := by
    rw [List.cons_append, List.dropWhile_cons_of_neg]
    rw [solid]
    exact Bool.false_ne_true
  have passed := (emits_of_blank blank tail).scanAll_eq fuel
  rw [List.length_nil, Nat.zero_add, List.nil_append] at passed
  rw [List.length_singleton, Nat.add_comm 1 fuel, scanAll, reached]
  dsimp only
  rw [scanned, passed]
  rfl

theorem emits_of_scan {c : Char} (solid : isSpace c = false)
    (scanned : scan c (cs ++ tail) = (token, tail)) : Emits (c :: cs) [token] tail := by
  have blank : ∀ c ∈ ([] : List Char), isSpace c = true := fun _ mem => nomatch mem
  exact emits_of_scan_blank solid blank scanned

/-- A character that is a token by itself. -/
theorem Emits.cons {c : Char} (solid : isSpace c = false)
    (scanned : ∀ rest, scan c rest = (token, rest)) (later : Emits cs tokens tail) :
    Emits (c :: cs) (token :: tokens) tail := by
  have head : Emits [c] [token] (cs ++ tail) := emits_of_scan solid (scanned _)
  exact head.append later

theorem scanWord_append {fragment : Fragment} :
    scanWord token fragment cs (cs ++ tail) = (token, tail) := by
  induction cs with
  | nil => rfl
  | cons c rest ih =>
      rw [List.cons_append, scanWord, if_pos rfl]
      exact ih

/-- The characters that have an escape of their own. -/
def escapedByLetter : List Char := ['"', '\\', '\n', '\r', '\t', '\x08', '\x0c']

private theorem scanString_letter :
    ∀ c ∈ escapedByLetter,
      scanString none (escapeChar c ++ tail) = .cons c (scanString none tail) := by
  simp only [escapedByLetter, List.forall_mem_cons]
  exact ⟨rfl, rfl, rfl, rfl, rfl, rfl, rfl, fun _ mem => nomatch mem⟩

private theorem escapeChar_of_notMem {c : Char} (plain : c ∉ escapedByLetter) :
    escapeChar c =
      if c.toNat < 32 then
        ['\\', 'u', '0', '0', Text.lowerHex (c.toNat / 16), Text.lowerHex (c.toNat % 16)]
      else [c] := by
  simp only [escapedByLetter, List.mem_cons, List.not_mem_nil, or_false, not_or] at plain
  obtain ⟨quote, backslash, newline, return_, tab, backspace, feed⟩ := plain
  rw [escapeChar, if_neg quote, if_neg backslash, if_neg newline, if_neg return_, if_neg tab,
    if_neg backspace, if_neg feed]

/-- The four digits of a control character give its code, which is half of no pair. -/
private theorem scanString_control {c : Char} (control : c.toNat < 32) :
    scanString none (['\\', 'u', '0', '0', Text.lowerHex (c.toNat / 16),
        Text.lowerHex (c.toNat % 16)] ++ tail) = .cons c (scanString none tail) := by
  have word : ∀ n < 32,
      hexWord '0' '0' (Text.lowerHex (n / 16)) (Text.lowerHex (n % 16)) = some n := by decide
  have single : ∀ n < 32, isLowSurrogate n = false ∧ isHighSurrogate n = false := by decide
  obtain ⟨not_low, not_high⟩ := single c.toNat control
  simp only [List.cons_append, List.nil_append]
  rw [scanString, word c.toNat control]
  simp only [StringScan.word, not_low, not_high, Char.ofNat_toNat, Bool.false_eq_true, if_false]

/-- What stands for a character is scanned as that character. -/
theorem scanString_escapeChar (c : Char) :
    scanString none (escapeChar c ++ tail) = .cons c (scanString none tail) := by
  by_cases letter : c ∈ escapedByLetter
  · exact scanString_letter c letter
  · rw [escapeChar_of_notMem letter]
    split
    · next control => exact scanString_control control
    · next large =>
        simp only [escapedByLetter, List.mem_cons, not_or] at letter
        rw [List.singleton_append, scanString, if_neg large]
        · rfl
        all_goals intros; simp_all

/-- A string literal is scanned up to its closing quote. -/
theorem scan_quote {value : Except Problem (List Char)} {rest : List Char}
    (scanned : scanString none cs = ⟨value, .ok rest⟩) :
    scan '"' cs = (.string (value.map String.ofList), rest) := by
  unfold scan
  rw [scanned]
  rfl

/-- A written string is scanned as that string. -/
theorem emits_quote (s : String) : Emits (quote s) [.string (.ok s)] tail := by
  have body (cs : List Char) : scanString none (cs.flatMap escapeChar ++ '"' :: tail) =
      ⟨.ok cs, .ok tail⟩ := by
    induction cs with
    | nil => rfl
    | cons c rest ih =>
        rw [List.flatMap_cons, List.append_assoc, scanString_escapeChar, ih]
        rfl
  refine emits_of_scan rfl ?_
  rw [List.append_assoc, List.singleton_append, scan_quote (body s.toList), Except.map,
    String.ofList_toList]

/-- A text that ends a number which stands before it, as everything does that can follow a value in
a document. -/
def Delimited : List Char → Prop
  | [] => True
  | c :: _ => isSpace c = true ∨ c = ',' ∨ c = ']' ∨ c = '\x7d'

theorem delimited_append_of_blank (blank : ∀ c ∈ cs, isSpace c = true) (ends : Delimited tail) :
    Delimited (cs ++ tail) := by
  cases cs with
  | nil => exact ends
  | cons c rest => exact Or.inl (blank c List.mem_cons_self)

/-- No character that ends a number can be a part of one. -/
private theorem not_part_of_delimited {c : Char} {rest : List Char} (ends : Delimited (c :: rest)) :
    c.isDigit = false ∧ c ≠ '.' ∧ c ≠ 'e' ∧ c ≠ 'E' := by
  simp only [Delimited, isSpace, Bool.or_eq_true, beq_iff_eq, or_assoc] at ends
  rcases ends with rfl | rfl | rfl | rfl | rfl | rfl | rfl <;> decide

private theorem digitValues_append (ends : Delimited tail) :
    digitValues (cs ++ tail) = digitValues cs := by
  unfold digitValues
  congr 1
  induction cs with
  | nil =>
      cases tail with
      | nil => rfl
      | cons c rest =>
          rw [List.nil_append, List.takeWhile_cons_of_neg, List.takeWhile_nil]
          rw [(not_part_of_delimited ends).1]
          exact Bool.false_ne_true
  | cons c rest ih =>
      rw [List.cons_append, List.takeWhile_cons, List.takeWhile_cons, ih]

private theorem afterDigits_append (ends : Delimited tail) :
    afterDigits (cs ++ tail) = afterDigits cs ++ tail := by
  unfold afterDigits
  induction cs with
  | nil =>
      cases tail with
      | nil => rfl
      | cons c rest =>
          rw [List.nil_append, List.dropWhile_cons_of_neg, List.dropWhile_nil, List.nil_append]
          rw [(not_part_of_delimited ends).1]
          exact Bool.false_ne_true
  | cons c rest ih =>
      rw [List.cons_append, List.dropWhile_cons, List.dropWhile_cons, ih]
      split <;> rfl

section Numbers

variable {negative : Bool} {whole : List Nat} {fraction : Option (List Nat)}
  {value : Except Problem Number} {rest : List Char}

/-- A number whose parts are known, before the text after it. -/
def finishNumber (negative : Bool) (whole : List Nat) (fraction : Option (List Nat))
    (exponent : Option Number.Exponent) (rest : List Char) : Token × List Char :=
  match Number.ofDigits negative whole fraction exponent with
  | some n => (.number (.ok n), rest)
  | none => (.number (.error .malformed), rest)

private theorem finishNumber_append {exponent : Option Number.Exponent}
    (finished : finishNumber negative whole fraction exponent cs = (.number value, rest)) :
    finishNumber negative whole fraction exponent (cs ++ tail) = (.number value, rest ++ tail) := by
  unfold finishNumber at finished ⊢
  split at finished <;> cases finished <;> rfl

/-- The end of a number from the digits of its exponent on. -/
private def scanPower (negative : Bool) (whole : List Nat) (fraction : Option (List Nat))
    (negativeExponent : Bool) (cs : List Char) : Token × List Char :=
  if (digitValues cs).isEmpty then brokenNumber (missingDigit cs)
  else finishNumber negative whole fraction (some ⟨negativeExponent, digitValues cs⟩)
    (afterDigits cs)

private theorem scanPower_append {negativeExponent : Bool} (ends : Delimited tail)
    (scanned : scanPower negative whole fraction negativeExponent cs = (.number value, rest)) :
    scanPower negative whole fraction negativeExponent (cs ++ tail) =
      (.number value, rest ++ tail) := by
  unfold scanPower at scanned ⊢
  rw [digitValues_append ends, afterDigits_append ends]
  split at scanned
  · cases scanned
  · next digits =>
      rw [if_neg digits]
      exact finishNumber_append scanned

/-- The sign of an exponent, and the text after it. -/
private def cutSign : List Char → Bool × List Char
  | '+' :: rest => (false, rest)
  | '-' :: rest => (true, rest)
  | rest => (false, rest)

private theorem cutSign_append (more : cs ≠ []) :
    cutSign (cs ++ tail) = ((cutSign cs).1, (cutSign cs).2 ++ tail) := by
  obtain ⟨c, rest, rfl⟩ := List.exists_cons_of_ne_nil more
  rw [List.cons_append]
  unfold cutSign
  split <;> simp_all

private theorem scanExponent_of_letter {letter : Char} (is_letter : letter = 'e' ∨ letter = 'E')
    (cs : List Char) :
    scanExponent negative whole fraction (letter :: cs) =
      scanPower negative whole fraction (cutSign cs).1 (cutSign cs).2 := by
  unfold cutSign
  split
  · rcases is_letter with rfl | rfl <;> rfl
  · rcases is_letter with rfl | rfl <;> rfl
  · next not_plus not_minus =>
      rcases is_letter with rfl | rfl
      · rw [scanExponent]
        · rfl
        · exact not_plus
        · exact not_minus
      · rw [scanExponent]
        · rfl
        · exact not_plus
        · exact not_minus

theorem scanExponent_of_other (other : ∀ c ∈ cs.head?, c ≠ 'e' ∧ c ≠ 'E') :
    scanExponent negative whole fraction cs = finishNumber negative whole fraction none cs := by
  rw [scanExponent]
  · rfl
  case x | x_2 | x_4 =>
    rintro rest rfl
    exact (other 'e' rfl).1 rfl
  case x_1 | x_3 | x_5 =>
    rintro rest rfl
    exact (other 'E' rfl).2 rfl

private theorem scanExponent_append (ends : Delimited tail)
    (scanned : scanExponent negative whole fraction cs = (.number value, rest)) :
    scanExponent negative whole fraction (cs ++ tail) = (.number value, rest ++ tail) := by
  cases cs with
  | nil =>
      have other : ∀ c ∈ tail.head?, c ≠ 'e' ∧ c ≠ 'E' := by
        cases tail with
        | nil => exact fun c mem => nomatch mem
        | cons c more =>
            rintro _ ⟨⟩
            exact (not_part_of_delimited ends).2.2
      rw [scanExponent_of_other fun c mem => by cases mem] at scanned
      rw [List.nil_append, scanExponent_of_other other]
      exact finishNumber_append scanned
  | cons c more =>
      by_cases letter : c = 'e' ∨ c = 'E'
      · rw [scanExponent_of_letter letter] at scanned
        rw [List.cons_append, scanExponent_of_letter letter]
        cases more with
        | nil => cases scanned
        | cons d digits =>
            rw [cutSign_append (List.cons_ne_nil d digits)]
            exact scanPower_append ends scanned
      · rw [not_or] at letter
        have other (text : List Char) : ∀ d ∈ (c :: text).head?, d ≠ 'e' ∧ d ≠ 'E' := by
          rintro _ ⟨⟩
          exact letter
        rw [scanExponent_of_other (other more)] at scanned
        rw [List.cons_append, scanExponent_of_other (other (more ++ tail))]
        exact finishNumber_append scanned

/-- The end of a number from the end of its whole part on. -/
private def scanFraction (negative : Bool) (whole : List Nat) (cs : List Char) :
    Token × List Char :=
  match cs with
  | '.' :: rest =>
    if (digitValues rest).isEmpty then brokenNumber (missingDigit rest)
    else scanExponent negative whole (some (digitValues rest)) (afterDigits rest)
  | rest => scanExponent negative whole none rest

private theorem scanFraction_of_point (cs : List Char) :
    scanFraction negative whole ('.' :: cs) =
      if (digitValues cs).isEmpty then brokenNumber (missingDigit cs)
      else scanExponent negative whole (some (digitValues cs)) (afterDigits cs) := rfl

private theorem scanFraction_of_other (other : ∀ c ∈ cs.head?, c ≠ '.') :
    scanFraction negative whole cs = scanExponent negative whole none cs := by
  unfold scanFraction
  split
  · next rest => exact absurd rfl (other '.' rfl)
  · rfl

private theorem scanFraction_append (ends : Delimited tail)
    (scanned : scanFraction negative whole cs = (.number value, rest)) :
    scanFraction negative whole (cs ++ tail) = (.number value, rest ++ tail) := by
  cases cs with
  | nil =>
      have other : ∀ c ∈ tail.head?, c ≠ '.' := by
        cases tail with
        | nil => exact fun c mem => by cases mem
        | cons c more =>
            rintro _ ⟨⟩
            exact (not_part_of_delimited ends).2.1
      rw [scanFraction_of_other fun c mem => by cases mem] at scanned
      rw [List.nil_append, scanFraction_of_other other]
      exact scanExponent_append ends scanned
  | cons c more =>
      by_cases point : c = '.'
      · rw [point, scanFraction_of_point] at scanned
        rw [point, List.cons_append, scanFraction_of_point, digitValues_append ends,
          afterDigits_append ends]
        split at scanned
        · cases scanned
        · next digits =>
            rw [if_neg digits]
            exact scanExponent_append ends scanned
      · have other (text : List Char) : ∀ d ∈ (c :: text).head?, d ≠ '.' := by
          rintro _ ⟨⟩
          exact point
        rw [scanFraction_of_other (other more)] at scanned
        rw [List.cons_append, scanFraction_of_other (other (more ++ tail))]
        exact scanExponent_append ends scanned

private theorem scanMagnitude_append (ends : Delimited tail)
    (scanned : scanMagnitude negative cs = (.number value, rest)) :
    scanMagnitude negative (cs ++ tail) = (.number value, rest ++ tail) := by
  unfold scanMagnitude at scanned ⊢
  rw [digitValues_append ends, afterDigits_append ends]
  -- A whole part is broken if it is empty, or if it has more digits after a zero.
  generalize digitValues cs = whole at scanned ⊢
  rcases whole with _ | ⟨_ | digit, _ | ⟨next, digits⟩⟩
  · cases scanned
  · exact scanFraction_append ends scanned
  · cases scanned
  · exact scanFraction_append ends scanned
  · exact scanFraction_append ends scanned

private theorem scanWord_ne_number {word : Token} {fragment : Fragment} {expected : List Char}
    (not_number : ∀ value, word ≠ .number value) :
    scanWord word fragment expected cs ≠ (.number value, rest) := by
  induction expected generalizing cs with
  | nil =>
      intro scanned
      cases scanned
      exact not_number _ rfl
  | cons c expected ih =>
      cases cs with
      | nil => exact fun scanned => by cases scanned
      | cons d cs =>
          rw [scanWord]
          split
          · exact ih
          · exact fun scanned => by cases scanned

theorem scan_of_digit {c : Char} (digit : c.isDigit = true) :
    scan c cs = scanMagnitude false (c :: cs) := by
  unfold scan
  split <;> simp_all

/-- A number starts with its sign or with a digit. -/
private theorem start_of_scan_number {c : Char} (scanned : scan c cs = (.number value, rest)) :
    c = '-' ∨ c.isDigit = true := by
  refine Decidable.of_not_not fun other => ?_
  rw [not_or] at other
  unfold scan at scanned
  split at scanned
  case h_7 => split at scanned <;> cases scanned
  case h_8 | h_9 | h_10 => exact scanWord_ne_number (by rintro _ ⟨⟩) scanned
  case h_11 => exact other.1 rfl
  case h_12 =>
    rw [if_neg other.2] at scanned
    cases scanned
  all_goals cases scanned

/-- What is scanned as a number before the end of a text is scanned as that number before anything
that ends a number. -/
theorem scan_number_append {c : Char} (ends : Delimited tail)
    (scanned : scan c cs = (.number value, rest)) :
    scan c (cs ++ tail) = (.number value, rest ++ tail) := by
  rcases start_of_scan_number scanned with rfl | digit
  · exact scanMagnitude_append ends scanned
  · rw [scan_of_digit digit] at scanned ⊢
    exact scanMagnitude_append ends scanned

/-- A number of one character leaves nothing. -/
private theorem rest_eq_nil_of_scan_number {c : Char}
    (scanned : scan c [] = (.number value, rest)) : rest = [] := by
  rcases start_of_scan_number scanned with rfl | digit
  · cases scanned
  · have values : digitValues [c] = [c.toNat - 48] := by
      rw [digitValues, List.takeWhile_cons_of_pos digit]
      rfl
    have after : afterDigits [c] = [] := List.dropWhile_cons_of_pos digit
    rw [scan_of_digit digit, scanMagnitude, values, after] at scanned
    have finished : finishNumber false [c.toNat - 48] none none [] = (.number value, rest) := by
      rw [← scanned]
      cases c.toNat - 48 <;> rfl
    unfold finishNumber at finished
    split at finished <;> cases finished <;> rfl

end Numbers

/-- A text without tokens is blank. -/
private theorem blank_of_scanAll_eq_nil {fuel : Nat} (nothing : scanAll (fuel + 1) cs = []) :
    ∀ c ∈ cs, isSpace c = true := by
  rw [scanAll] at nothing
  rw [← List.dropWhile_eq_nil_iff]
  cases remaining : cs.dropWhile isSpace with
  | nil => rfl
  | cons c rest =>
      rw [remaining] at nothing
      cases nothing

/-- A text with one token is that token after some blanks, and nothing is scanned after it. -/
private theorem scan_of_scanAll_eq_singleton {fuel : Nat}
    (alone : scanAll (fuel + 1) cs = [token]) :
    ∃ c others rest, cs.dropWhile isSpace = c :: others ∧ scan c others = (token, rest) ∧
      scanAll fuel rest = [] := by
  rw [scanAll] at alone
  cases start : cs.dropWhile isSpace with
  | nil =>
      rw [start] at alone
      cases alone
  | cons c others =>
      rw [start] at alone
      dsimp only at alone
      obtain ⟨same, nothing⟩ := List.cons.inj alone
      exact ⟨c, others, (scan c others).2, rfl, Prod.ext same rfl, nothing⟩

/-- A text whose only token is a number is scanned as that number inside a document. -/
theorem emits_number_of_scanAll {value : Except Problem Number}
    (alone : scanAll cs.length cs = [.number value]) (ends : Delimited tail) :
    Emits cs [.number value] tail := by
  cases cs with
  | nil => cases alone
  | cons first more =>
      obtain ⟨c, others, rest, start, scanned, nothing⟩ := scan_of_scanAll_eq_singleton alone
      have solid : isSpace c = false := by
        have head := List.head?_dropWhile_not isSpace (first :: more)
        rw [start] at head
        exact head
      have blank : ∀ c ∈ rest, isSpace c = true := by
        cases more with
        | cons second more => exact blank_of_scanAll_eq_nil nothing
        | nil =>
            have short := (List.dropWhile_suffix isSpace (l := [first])).length_le
            rw [start, List.length_cons] at short
            cases List.length_eq_zero_iff.1 (Nat.le_zero.1 (Nat.le_of_succ_le_succ short))
            rw [rest_eq_nil_of_scan_number scanned]
            exact fun _ mem => nomatch mem
      rw [← List.takeWhile_append_dropWhile (p := isSpace) (l := first :: more), start]
      exact (emits_of_blank (fun d mem => List.mem_takeWhile_imp mem) _).append
        (emits_of_scan_blank solid blank (scan_number_append ends scanned))

end Token

/-- A tree that is a number was made of the token of that number. -/
theorem Tree.eq_number_of_ofTokens {fuel : Nat} {tokens : List Token}
    {value : Except Problem Number} {after : Option (List Token)}
    (made : ofTokens fuel tokens = (.number value, after)) :
    ∃ rest, tokens = .number value :: rest ∧ after = some rest := by
  cases fuel with
  | zero => cases made
  | succ fuel =>
      unfold ofTokens at made
      split at made
      case h_4 =>
        cases made
        exact ⟨_, rfl, rfl⟩
      case h_11 => split at made <;> cases made
      all_goals cases made

/-- A document that reads as a number has that number as its only token. -/
theorem Token.ofText_of_number {text : String} {n : Number}
    (read : Value.ofText text = .ok (.number n)) : Token.ofText text = [.number (.ok n)] := by
  obtain ⟨complete, reads⟩ := Document.of_read read
  have root := (Tree.leaf_of_toValue reads).2 n rfl
  unfold Document.ofText at root complete
  dsimp only at root complete
  cases made : Tree.ofTokens (2 * (Token.ofText text).length + 1) (Token.ofText text) with
  | mk tree after =>
      rw [made] at root complete
      have is_number : tree = .number (.ok n) := by
        rcases after with _ | _ | _ <;> exact root
      rw [is_number] at made
      obtain ⟨rest, tokens, is_rest⟩ := Tree.eq_number_of_ofTokens made
      cases rest with
      | nil => exact tokens
      | cons next more =>
          rw [is_rest] at complete
          cases complete

/-- A number that reads back by itself is scanned as itself inside a document. -/
theorem Number.ReadsBack.emits {n : Number} (readsBack : n.ReadsBack) {tail : List Char}
    (ends : Token.Delimited tail) : Token.Emits n.text.toList [.number (.ok n)] tail := by
  have alone := Token.ofText_of_number readsBack
  rw [Token.ofText, ← String.length_toList] at alone
  exact Token.emits_number_of_scanAll alone ends

end StackDeploy.Json
