/-
# What a character becomes in a name

A domain name is not case-sensitive and knows no variants of a character: each character stands for
itself, has an image, leaves no trace, or is refused. In ASCII only the capital letters have an
image; which signs of ASCII a name may hold is no matter of this module.
-/

import StackDeploy.Text.CodePoints
import StackDeploy.Web.Domain.Images
import StackDeploy.Web.Domain.Refused

namespace StackDeploy.Web.Domain

/-- The images of the characters from a first one on. -/
structure ImageRun where
  first : Nat
  images : Array (List Char)

/-- The images that an entry of the table gives. -/
def ImageRun.ofEntry (entry : List Char) : ImageRun :=
  let (first, images) := Text.CodePoints.cutValue entry
  ⟨Text.CodePoints.number first,
    ((Text.splitAt ',' images).map Text.CodePoints.characters).toArray⟩

/-- The image of a character, if it lies in the run. -/
def ImageRun.image? (c : Char) (run : ImageRun) : Option (List Char) :=
  if run.first ≤ c.toNat then run.images[c.toNat - run.first]? else none

/-- The images of all characters beyond ASCII that have one. -/
def imageRuns : List ImageRun :=
  (Text.CodePoints.entries imageLines).map ImageRun.ofEntry

/-- The ranges of characters that leave no trace. -/
def tracelessRanges : List (Nat × Nat) :=
  [ (0xAD, 0xAD), (0x34F, 0x34F), (0x115F, 0x1160), (0x17B4, 0x17B5), (0x180B, 0x180F),
    (0x200B, 0x200B), (0x2060, 0x2064), (0x206A, 0x206F), (0x3164, 0x3164), (0xFE00, 0xFE0F),
    (0xFEFF, 0xFEFF), (0xFFA0, 0xFFA0), (0x1BCA0, 0x1BCA3), (0x1D173, 0x1D17A),
    (0xE0100, 0xE01EF) ]

/-- The ranges of characters that are refused. -/
def refusedRanges : List (Nat × Nat) :=
  Text.CodePoints.ranges refusedLines

/-- What a character becomes; absent if it is refused. -/
def image (c : Char) : Option (List Char) :=
  if c.val < 0x80 then some [c.toLower]
  else
    match imageRuns.findSome? (ImageRun.image? c) with
    | some image => some image
    | none =>
      if Text.CodePoints.holds tracelessRanges c then some []
      else if Text.CodePoints.holds refusedRanges c then none
      else some [c]

/-- What a text becomes; absent if one of its characters is refused. -/
def imageOfText : List Char → Option (List Char)
  | [] => some []
  | c :: rest => do
    let start ← image c
    let others ← imageOfText rest
    some (start ++ others)

/-- Whether a character stands for itself. -/
def isKept (c : Char) : Bool :=
  image c == some [c]

end StackDeploy.Web.Domain
