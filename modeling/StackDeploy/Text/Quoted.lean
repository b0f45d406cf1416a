/-
# Quoted text

A text shown inside a message stands between quotes. The quote, the backslash and the three usual
blanks have short escapes; every other character that would not show, because it is a control, a
separator, unassigned or combines with its neighbour, is written by its number in braces.
-/

import StackDeploy.Text.Hidden

namespace StackDeploy.Text

/-- The hexadecimal digits of a number without leading zeros. -/
def hexadecimal (n : Nat) : List Char :=
  Nat.toDigits 16 n

/-- A character inside a quoted text. -/
def quotedChar (c : Char) : List Char :=
  if c = '"' then ['\\', '"']
  else if c = '\\' then ['\\', '\\']
  else if c = '\n' then ['\\', 'n']
  else if c = '\r' then ['\\', 'r']
  else if c = '\t' then ['\\', 't']
  else if c.val == 0 then ['\\', '0']
  else if isHidden c then '\\' :: 'u' :: '\x7b' :: (hexadecimal c.toNat ++ ['\x7d'])
  else [c]

/-- A text between quotes. -/
def quoted (s : String) : String :=
  String.ofList ('"' :: (s.toList.flatMap quotedChar ++ ['"']))

end StackDeploy.Text
