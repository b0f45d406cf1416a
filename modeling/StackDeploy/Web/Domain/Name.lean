/-
# Domain names

A domain name has one form in ASCII. Its characters are replaced by their images and composed, and
its labels are told apart by full stops. A label with a mark in front is the encoded form of
another one, which has to be in the form that replacing and composing would give and may not be in
ASCII itself. Then all labels are examined: none starts with a combining mark, joiners stand where
they make a difference, and if the name has text from the right, each label keeps to one direction.
What is not in ASCII is encoded in the end.
-/

import StackDeploy.Web.Domain.Composition
import StackDeploy.Web.Domain.Directions
import StackDeploy.Web.Domain.Joining
import StackDeploy.Web.Domain.Mapping
import StackDeploy.Web.Punycode

namespace StackDeploy.Web.Domain

/-- The mark of an encoded label. -/
def encodedMark : List Char := "xn--".toList

/-- Whether a text is in ASCII. -/
def isAscii (cs : List Char) : Bool :=
  cs.all fun c => c.val < 0x80

/-- The most characters of a label that is not in ASCII. -/
def maxLabelLength : Nat := 1000

/-- The characters that a label stands for; absent if it is marked as encoded and no encoding of a
label that needs one. -/
def plainLabel (label : List Char) : Option (List Char) :=
  if encodedMark.isPrefixOf label then
    match Punycode.decode (label.drop encodedMark.length) with
    | none => none
    | some plain =>
      if !isAscii plain && plain.all isKept && composed plain == plain then some plain else none
  else some label

/-- The characters that each of some labels stands for. -/
def plainLabels : List (List Char) → Option (List (List Char))
  | [] => some []
  | label :: rest => do
    let plain ← plainLabel label
    let others ← plainLabels rest
    some (plain :: others)

/-- Whether a label may stand in a name that has no text from the right. -/
def isSound (label : List Char) : Bool :=
  !label.head?.any isMark && joinersFit [] label &&
    (isAscii label || label.length ≤ maxLabelLength)

/-- Whether labels may stand in one name. -/
def areSound (labels : List (List Char)) : Bool :=
  labels.all isSound &&
    (!labels.any (fun label => label.any isFromRight) || labels.all isDirected)

/-- A label in ASCII. -/
def asciiLabel (label : List Char) : List Char :=
  if isAscii label then label else encodedMark ++ Punycode.encode label

/-- Whether a character may not stand in a name. -/
def isForbidden (c : Char) : Bool :=
  c.val ≤ 0x20 || c.val == 0x7F || "%#/:<>?@[\\]^|".toList.contains c

/-- A name in its one form; absent if the text is no name. -/
def ofText (cs : List Char) : Option (List Char) := do
  let mapped ← imageOfText cs
  let labels := Text.splitAt '.' (composed mapped)
  let plain ← plainLabels labels
  let ascii := Text.joinWith '.' (labels.map asciiLabel)
  if areSound plain && !ascii.any isForbidden then some ascii else none

end StackDeploy.Web.Domain
