/-
# References in character data

An ampersand begins a reference, which ends at the next semicolon. Five names are known; a number
sign introduces the number of a character, in decimal digits or, after a small x, in hexadecimal
ones. Anything else is an error, and so is an ampersand without its semicolon.
-/

import StackDeploy.Text.Percent

namespace StackDeploy.Xml

/-- The characters with names, which are those that markup uses. -/
def namedCharacters : List (List Char × Char) :=
  [(['l', 't'], '<'), (['g', 't'], '>'), (['a', 'm', 'p'], '&'), (['a', 'p', 'o', 's'], '\''),
    (['q', 'u', 'o', 't'], '"')]

/-- The value of some digits to a base; absent if there is none or one of them is no digit. -/
def numberOfDigits (base : Nat) (digits : List Char) : Option Nat :=
  if digits.isEmpty then none
  else
    digits.foldl
      (fun total c => total.bind fun n =>
        match Text.hexValue c with
        | some digit => if digit < base then some (base * n + digit) else none
        | none => none)
      (some 0)

/-- The character of a number; zero is none. -/
def charOfNumber (n : Nat) : Option Char :=
  if n ≠ 0 ∧ n.isValidChar then some (Char.ofNat n) else none

/-- The character that the inside of a reference stands for. -/
def resolve (inside : List Char) : Option Char :=
  match inside with
  | '#' :: 'x' :: digits => (numberOfDigits 16 digits).bind charOfNumber
  | '#' :: digits => (numberOfDigits 10 digits).bind charOfNumber
  | name => (namedCharacters.find? fun known => known.1 == name).map Prod.snd

/-- Character data with its references replaced; inside a reference, the characters read so far
are given in reverse. -/
def unescapeFrom (reference : Option (List Char)) : List Char → Option (List Char)
  | [] => if reference.isNone then some [] else none
  | c :: rest =>
    match reference with
    | none => if c = '&' then unescapeFrom (some []) rest else (unescapeFrom none rest).map (c :: ·)
    | some read =>
      if c = '&' then none
      else if c = ';' then
        (resolve read.reverse).bind fun known => (unescapeFrom none rest).map (known :: ·)
      else unescapeFrom (some (c :: read)) rest

/-- Character data with its references replaced. -/
def unescape (text : List Char) : Option (List Char) :=
  unescapeFrom none text

/-- A character written so that it is data wherever it stands. -/
def escapeChar (c : Char) : List Char :=
  match namedCharacters.find? fun known => known.2 == c with
  | some (name, _) => '&' :: (name ++ [';'])
  | none => [c]

/-- A text as character data: the characters with names are written by them. -/
def escape (text : List Char) : List Char :=
  text.flatMap escapeChar

end StackDeploy.Xml
