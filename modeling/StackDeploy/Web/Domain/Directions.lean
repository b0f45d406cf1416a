/-
# Directions

Text is written from the left or from the right. A label in a domain name that has letters or
numbers from the right has to keep to one direction, so that it looks the same however it is
embedded: it starts with a letter, has none of the other direction, ends in a letter or a digit but
for marks, and if it runs from the right, has digits of one kind only. The tables are those of
Unicode 17 for the characters that a domain name may hold; a range may run over others.
-/

import StackDeploy.Web.Domain.Marks

namespace StackDeploy.Web.Domain

/-- The ranges of characters that are written from the right, in order. -/
def rightLines : List String :=
  [ "5BE..5F4 608 60B 60D 61B..64A 66D..6D5 6E5..6E6 6EE..6EF 6FA..7F5 7FA..8C9 FBB2..FBC2 FE73",
    "10800..1091B 10920..10B35 10B40..10D23 10D40..10D4F 10D6F..10D8F 10E80..10EC7 10F00..10FF6",
    "1E800..1ED3D" ]

/-- The ranges of characters without a direction beyond ASCII, in order. -/
def neutralLines : List String :=
  [ "A1..D7 F7 2B9..2BA 2C2..2CF 2D2..2ED 2EF..2FF 375 3F6 58A..58F 606..607 609..60A 60C",
    "60E..60F 66A 6DE 6E9 7F6..7F9 9F2..9F3 9FB AF1 BF3..BFA C78..C7E E3F F3A..F3D 1390..1399",
    "1400 169B..169C 17DB 17F0..180A 1940..1945 19DE..19FF 200C..214D 218A..2335 237B..2394",
    "2396..26AB 26AD..27FF 2900..2BFF 2CE5..2CEA 2CF9..2CFF 2E00..3004 3008..3020 3030 3037",
    "303D..303F 30A0 30FB 31C0..31E5 4DC0..4DFF A490..A4C6 A60D..A60F A673..A67F A700..A721 A788",
    "A828..A82B A838..A839 A874..A877 AB6A..AB6B FBC3..FE46 10101 10140..1018C 10190..101A0 1091F",
    "10B39..10B3F 10D6E 10ED0..10ED8 11052..11065 11660..1166C 11FD5..11FF1 16FE2 1CC00..1CEF0",
    "1D1E9..1D245 1D300..1D356 1E2FF 1EEF0..1F12F 1F16D..1F16F 1F1AD 1F260..1FBFA" ]

/-- How a character behaves where directions meet. -/
inductive Direction where
  | left
  | right
  | europeanDigit
  | arabicDigit
  /-- A mark, which follows the character before it. -/
  | follows
  | neutral
deriving DecidableEq

/-- The ranges of European digits beyond ASCII. -/
def europeanRanges : List (Nat × Nat) :=
  [(0x6F0, 0x6F9), (0x102E1, 0x102FB)]

/-- The ranges of Arabic digits and their separators. -/
def arabicRanges : List (Nat × Nat) :=
  [(0x660, 0x669), (0x66B, 0x66C), (0x10D30, 0x10D39), (0x10E60, 0x10E7E)]

/-- The marks that have the direction of a letter. -/
def leftMarks : List Nat :=
  [0xCBF, 0xCC6, 0x11A07, 0x11A08, 0x11C3F]

/-- The ranges of characters that are written from the right. -/
def rightRanges : List (Nat × Nat) :=
  Text.CodePoints.ranges rightLines

/-- The ranges of characters without a direction beyond ASCII. -/
def neutralRanges : List (Nat × Nat) :=
  Text.CodePoints.ranges neutralLines

/-- The direction of a character. -/
def direction (c : Char) : Direction :=
  if c.val < 0x80 then
    if c.isAlpha then .left else if c.isDigit then .europeanDigit else .neutral
  else if isNonspacing c then if leftMarks.contains c.toNat then .left else .follows
  else if Text.CodePoints.holds europeanRanges c then .europeanDigit
  else if Text.CodePoints.holds arabicRanges c then .arabicDigit
  else if Text.CodePoints.holds rightRanges c then .right
  else if Text.CodePoints.holds neutralRanges c then .neutral
  else .left

/-- Whether a character is written from the right. There is none before the Hebrew alphabet. -/
def isFromRight (c : Char) : Bool :=
  0x590 ≤ c.val && (direction c == .right || direction c == .arabicDigit)

/-- The directions after the first character, without the marks at the end. -/
def trimmed (rest : List Direction) : List Direction :=
  (rest.reverse.dropWhile (· == .follows)).reverse

/-- Whether the last of some directions is one of those given; true if there is none. -/
def endsIn (allowed : List Direction) (rest : List Direction) : Bool :=
  match rest.getLast? with
  | none => true
  | some last => allowed.contains last

/-- Whether a label keeps to one direction. -/
def isDirected (label : List Char) : Bool :=
  match label.map direction with
  | [] => true
  | .left :: rest =>
    let rest := trimmed rest
    !rest.contains .right && !rest.contains .arabicDigit && endsIn [.left, .europeanDigit] rest
  | .right :: rest =>
    let rest := trimmed rest
    !rest.contains .left && !(rest.contains .europeanDigit && rest.contains .arabicDigit) &&
      endsIn [.right, .europeanDigit, .arabicDigit] rest
  | _ => false

end StackDeploy.Web.Domain
