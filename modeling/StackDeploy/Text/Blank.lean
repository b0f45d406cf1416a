/-
# Blank characters

Configured values, header values and reference names may be padded. What counts as
padding is the Unicode property White_Space, not the four ASCII blanks, so an ideographic
space around an access key is removed just as a tab is. The functions work on lists of
characters; trimming keeps the inner blanks and splitting into words drops them all.
-/

namespace StackDeploy.Text

/-- Membership in the Unicode property White_Space. -/
def isBlank (c : Char) : Bool :=
  (9 ≤ c.val && c.val ≤ 13) || c.val == 0x20 || c.val == 0x85 || c.val == 0xA0 ||
    c.val == 0x1680 || (0x2000 ≤ c.val && c.val ≤ 0x200A) || c.val == 0x2028 ||
    c.val == 0x2029 || c.val == 0x202F || c.val == 0x205F || c.val == 0x3000

/-- A text without its leading blanks. -/
def trimLeft (cs : List Char) : List Char :=
  cs.dropWhile isBlank

/-- A text without its trailing blanks. -/
def trimRight (cs : List Char) : List Char :=
  (cs.reverse.dropWhile isBlank).reverse

/-- A text without the blanks at its two ends. -/
def trimChars (cs : List Char) : List Char :=
  trimRight (trimLeft cs)

/-- A string without the blanks at its two ends. -/
def trim (s : String) : String :=
  String.ofList (trimChars s.toList)

/-- Whether a string has no character that is not blank. -/
def isBlankText (s : String) : Bool :=
  s.toList.all isBlank

/-- The pieces between single blanks; two neighbouring blanks leave an empty piece. -/
def splitBlanks : List Char → List (List Char)
  | [] => [[]]
  | c :: rest =>
    if isBlank c then [] :: splitBlanks rest
    else
      match splitBlanks rest with
      | [] => [[c]]
      | piece :: pieces => (c :: piece) :: pieces

/-- The words of a text: its maximal pieces without blanks, in order. -/
def words (cs : List Char) : List (List Char) :=
  (splitBlanks cs).filter (fun piece => !piece.isEmpty)

/-- A string with blanks removed at its ends and every inner run of blanks made one space. -/
def collapse (s : String) : String :=
  String.intercalate " " ((words s.toList).map String.ofList)

end StackDeploy.Text
