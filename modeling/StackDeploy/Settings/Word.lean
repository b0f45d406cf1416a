/-
# Words

A value without quotes or brackets is a word: a truth value, a whole number in one of four bases, a
number with a fraction, a date, a time, or both. Underscores may stand between digits.
-/

import StackDeploy.Settings.Setting

namespace StackDeploy.Settings

/-- Whether digits are separated well: an underscore stands between two of them. -/
def isDigitRow (isDigit : Char → Bool) : List Char → Bool
  | [] => false
  | [c] => isDigit c
  | c :: '_' :: rest => isDigit c && isDigitRow isDigit rest
  | c :: rest => isDigit c && isDigitRow isDigit rest

/-- Whether decimal digits stand without a needless zero in front. -/
def isWhole (cs : List Char) : Bool :=
  isDigitRow Char.isDigit cs && (match cs with | '0' :: _ :: _ => false | _ => true)

/-- The value of digits to a base, underscores left out. -/
def rowValue (base : Nat) (cs : List Char) : Nat :=
  (cs.filter (· ≠ '_')).foldl (fun n c => base * n + (Text.hexValue c).getD 0) 0

/-- Digits to a base that is given by a letter. -/
def readBased (base : Nat) (digits : List Char) : Option Setting :=
  if isDigitRow (fun c => (Text.hexValue c).any (· < base)) digits ∧
      rowValue base digits < Nat.pow 2 63 then
    some (.integer (rowValue base digits))
  else none

/-- Whether a text is an exponent with its letter. -/
def isPower (cs : List Char) : Bool :=
  match cs with
  | c :: rest => (c == 'e' || c == 'E') && isDigitRow Char.isDigit (Setting.withoutSign rest)
  | [] => false

/-- Whether a text is a number with a fraction or an exponent. -/
def isFloat (cs : List Char) : Bool :=
  let isPart (c : Char) : Bool := c.isDigit || c == '_'
  let whole := cs.takeWhile isPart
  match cs.dropWhile isPart with
  | '.' :: rest =>
    let power := rest.dropWhile isPart
    isWhole whole && isDigitRow Char.isDigit (rest.takeWhile isPart) &&
      (power.isEmpty || isPower power)
  | power => isWhole whole && isPower power

/-- Whether a text has the shape of a pattern, in which a zero stands for any digit. -/
def fits : List Char → List Char → Bool
  | [], [] => true
  | p :: pattern, c :: cs => (if p = '0' then c.isDigit else p == c) && fits pattern cs
  | _, _ => false

/-- The number of some digits in a text, from a place on. -/
def numberAt (place digits : Nat) (cs : List Char) : Nat :=
  rowValue 10 ((cs.drop place).take digits)

/-- Whether a text starts with an hour and a minute. -/
def startsWithMinute (cs : List Char) : Bool :=
  fits "00:00".toList (cs.take 5) && numberAt 0 2 cs ≤ 23 && numberAt 3 2 cs ≤ 59

/-- Whether a text is the time of a day, with or without parts of a second. A second may be a leap
second. -/
def isTime (cs : List Char) : Bool :=
  startsWithMinute cs && fits ":00".toList ((cs.take 8).drop 5) && numberAt 6 2 cs ≤ 60 &&
    (match cs.drop 8 with
      | [] => true
      | '.' :: places => !places.isEmpty && places.all Char.isDigit
      | _ => false)

/-- A time without its offset. -/
def withoutOffset (cs : List Char) : List Char :=
  let isSign (c : Char) : Bool := c == '+' || c == '-'
  match cs.getLast? with
  | some 'Z' | some 'z' => cs.dropLast
  | _ =>
    if startsWithMinute (cs.drop (cs.length - 5)) && (cs.drop (cs.length - 6)).head?.any isSign
    then cs.take (cs.length - 6)
    else cs

/-- The number of days of a month. -/
def daysInMonth (year month : Nat) : Nat :=
  if month = 2 then
    if year % 4 = 0 ∧ (year % 100 ≠ 0 ∨ year % 400 = 0) then 29 else 28
  else if [4, 6, 9, 11].contains month then 30
  else 31

/-- Whether a text is the day of a year. -/
def isDay (cs : List Char) : Bool :=
  let month := numberAt 5 2 cs
  let day := numberAt 8 2 cs
  fits "0000-00-00".toList cs && 1 ≤ month && month ≤ 12 && 1 ≤ day &&
    day ≤ daysInMonth (numberAt 0 4 cs) month

/-- Whether a text is a date, a time, or both. -/
def isDate (cs : List Char) : Bool :=
  isTime cs ||
    (isDay (cs.take 10) &&
      (match cs.drop 10 with
        | [] => true
        | mark :: time =>
          (mark == 'T' || mark == 't' || mark == ' ') && isTime (withoutOffset time)))

/-- The setting that a word is. -/
def ofWord (cs : List Char) : Option Setting :=
  let unsigned := Setting.withoutSign cs
  let negative := cs.head? = some '-'
  if cs = "true".toList ∨ cs = "false".toList then some .other
  else if unsigned = "inf".toList ∨ unsigned = "nan".toList then some .other
  else if isWhole unsigned then
    let n := rowValue 10 unsigned
    if negative then (if n ≤ Nat.pow 2 63 then some (.integer (-(n : Int))) else none)
    else if n < Nat.pow 2 63 then some (.integer n) else none
  else if isFloat unsigned || isDate cs then some .other
  else
    match cs with
    | '0' :: 'x' :: digits => readBased 16 digits
    | '0' :: 'o' :: digits => readBased 8 digits
    | '0' :: 'b' :: digits => readBased 2 digits
    | _ => none

/-- A word, and what follows. A date may be followed by a space and a time. -/
def readWord (cs : List Char) : Option (Setting × List Char) :=
  let isPart (c : Char) : Bool :=
    c.isAlphanum || c == '+' || c == '-' || c == '_' || c == '.' || c == ':'
  let word := cs.takeWhile isPart
  let rest := cs.dropWhile isPart
  let time :=
    match rest with
    | ' ' :: more => more.takeWhile isPart
    | _ => []
  if fits "0000-00-00".toList word && fits "00:00:00".toList (time.take 8) then
    (ofWord (word ++ ' ' :: time)).map fun setting => (setting, rest.drop (time.length + 1))
  else (ofWord word).map fun setting => (setting, rest)

end StackDeploy.Settings
