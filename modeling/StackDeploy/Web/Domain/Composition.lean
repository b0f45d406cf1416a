/-
# Composed form

A letter with marks can be written in several ways. The composed form is the one way that a domain
name keeps: every character is taken apart, the marks of a letter are put in the order of their
combining classes, and then each letter takes in what it can be composed with, unless something of
the same or a higher class stands between them. A syllable of Hangul is composed by its number.
-/

import StackDeploy.Web.Domain.Composites
import StackDeploy.Web.Domain.Marks

namespace StackDeploy.Web.Domain

/-! ## Hangul -/

/-- The first syllable. -/
def syllableBase : Nat := 0xAC00

/-- The first leading consonant. -/
def leadBase : Nat := 0x1100

/-- The first vowel. -/
def vowelBase : Nat := 0x1161

/-- The place before the first closing consonant. -/
def closingBase : Nat := 0x11A7

/-- The parts of a syllable; absent if the character is none. -/
def syllableParts (c : Char) : Option (List Char) :=
  let n := c.toNat
  if syllableBase ≤ n && n < syllableBase + 11172 then
    let index := n - syllableBase
    let lead := Char.ofNat (leadBase + index / 588)
    let vowel := Char.ofNat (vowelBase + index % 588 / 28)
    some (if index % 28 = 0 then [lead, vowel]
      else [lead, vowel, Char.ofNat (closingBase + index % 28)])
  else none

/-- The syllable of a leading consonant and a vowel, or of an open syllable and a closing
consonant. -/
def composeSyllable (a b : Char) : Option Char :=
  let m := a.toNat
  let n := b.toNat
  if leadBase ≤ m && m < leadBase + 19 && vowelBase ≤ n && n < vowelBase + 21 then
    some (Char.ofNat (syllableBase + (m - leadBase) * 588 + (n - vowelBase) * 28))
  else if syllableBase ≤ m && m < syllableBase + 11172 && (m - syllableBase) % 28 = 0 &&
      closingBase < n && n < closingBase + 28 then
    some (Char.ofNat (m + (n - closingBase)))
  else none

/-! ## Pairs -/

/-- A composite character with its two parts. -/
structure Composite where
  whole : Char
  first : Char
  second : Char

/-- The composite of an entry of the table. -/
def Composite.ofEntry (entry : List Char) : Option Composite :=
  match Text.CodePoints.cutValue entry with
  | (whole, parts) =>
    match Text.CodePoints.characters parts with
    | [first, second] => some ⟨Char.ofNat (Text.CodePoints.number whole), first, second⟩
    | _ => none

/-- The composite characters. -/
def composites : List Composite :=
  (Text.CodePoints.entries compositeLines).filterMap Composite.ofEntry

/-- The character that two characters are composed to. -/
def composePair (a b : Char) : Option Char :=
  match composeSyllable a b with
  | some syllable => some syllable
  | none =>
    (composites.find? fun entry => entry.first == a && entry.second == b).map Composite.whole

/-! ## Taking apart -/

/-- The most parts that a composite which is no syllable is made of. -/
def maxParts : Nat := 3

/-- The parts of a character, the first of which is taken apart as often as the number says. -/
def partsOf : Nat → Char → List Char
  | 0, c => [c]
  | depth + 1, c =>
    match syllableParts c with
    | some parts => parts
    | none =>
      match composites.find? fun entry => entry.whole == c with
      | some entry => partsOf depth entry.first ++ [entry.second]
      | none => [c]

/-! ## Order -/

/-- Puts a character behind others, which are given from the last one on: a mark goes before the
marks of a higher class. -/
def placeMark (c : Char) : List Char → List Char
  | [] => [c]
  | last :: before =>
    if 0 < combiningClass c ∧ combiningClass c < combiningClass last then
      last :: placeMark c before
    else c :: last :: before

/-- A text with its marks in order. -/
def ordered (cs : List Char) : List Char :=
  (cs.foldl (fun placed c => placeMark c placed) []).reverse

/-! ## Composing -/

/-- Composes a text behind a letter and the marks that it did not take in, which are given from the
last one on. -/
def composeAfter (letter : Char) (kept : List Char) : List Char → List Char
  | [] => letter :: kept.reverse
  | c :: rest =>
    let reaches : Bool :=
      match kept with
      | [] => true
      | last :: _ => combiningClass last < combiningClass c
    match if reaches then composePair letter c else none with
    | some whole => composeAfter whole kept rest
    | none =>
      if combiningClass c = 0 then letter :: (kept.reverse ++ composeAfter c [] rest)
      else composeAfter letter (c :: kept) rest

/-- Composes a text: marks before the first letter stay as they are. -/
def composeFrom : List Char → List Char
  | [] => []
  | c :: rest =>
    if combiningClass c = 0 then composeAfter c [] rest else c :: composeFrom rest

/-- The composed form of a text. Below the combining marks there is nothing to compose. -/
def composed (cs : List Char) : List Char :=
  if cs.all fun c => c.val < 0x300 then cs
  else composeFrom (ordered (cs.flatMap (partsOf maxParts)))

end StackDeploy.Web.Domain
