/-
# Tables of code points

A table over many characters is kept as lines of text. Its entries stand between blanks; an entry
names a character by its number in hexadecimal digits, or a range by its first and its last number
with two full stops between them, and may give a value after an equals sign. What is read here is
part of the library, so nothing is refused: a digit that is none counts as zero.
-/

import StackDeploy.Text.Cut
import StackDeploy.Text.Percent

namespace StackDeploy.Text.CodePoints

/-- The number of hexadecimal digits. -/
def number (digits : List Char) : Nat :=
  digits.foldl (fun n c => 16 * n + (hexValue c).getD 0) 0

/-- The entries of a table. -/
def entries (lines : List String) : List (List Char) :=
  lines.flatMap fun line => splitAt ' ' line.toList

/-- The range that an entry names. -/
def range (entry : List Char) : Nat × Nat :=
  match cutPhrase ['.', '.'] entry with
  | some (first, last) => (number first, number last)
  | none => (number entry, number entry)

/-- The ranges of a table. -/
def ranges (lines : List String) : List (Nat × Nat) :=
  (entries lines).map range

/-- What an entry names and the value it gives. -/
def cutValue (entry : List Char) : List Char × List Char :=
  (cutFirst '=' entry).getD (entry, [])

/-- The ranges of a table with the numbers that they have. -/
def valuedRanges (lines : List String) : List ((Nat × Nat) × Nat) :=
  (entries lines).map fun entry =>
    let (named, value) := cutValue entry
    (range named, number value)

/-- The characters whose numbers are joined by plus signs. -/
def characters (value : List Char) : List Char :=
  (splitAt '+' value).map fun digits => Char.ofNat (number digits)

/-- Whether a character lies in a range. -/
def isBetween (range : Nat × Nat) (c : Char) : Bool :=
  range.1 ≤ c.toNat && c.toNat ≤ range.2

/-- Whether a character lies in one of some ranges. -/
def holds (ranges : List (Nat × Nat)) (c : Char) : Bool :=
  ranges.any fun range => isBetween range c

end StackDeploy.Text.CodePoints
