/-
# Writing JSON

Two layouts of a value: compact, without any blank, and pretty, with two spaces of indentation
for each level, a space after every colon and empty containers closed at once. In strings the
quote, the backslash and the control characters are escaped and nothing else is.
-/

import StackDeploy.Json.Value
import StackDeploy.Text.Percent

namespace StackDeploy.Json

/-- A character inside a string literal. -/
def escapeChar (c : Char) : List Char :=
  if c = '"' then ['\\', '"']
  else if c = '\\' then ['\\', '\\']
  else if c = '\n' then ['\\', 'n']
  else if c = '\r' then ['\\', 'r']
  else if c = '\t' then ['\\', 't']
  else if c = '\x08' then ['\\', 'b']
  else if c = '\x0c' then ['\\', 'f']
  else if c.toNat < 32 then
    ['\\', 'u', '0', '0', Text.lowerHex (c.toNat / 16), Text.lowerHex (c.toNat % 16)]
  else [c]

/-- A string literal. -/
def quote (s : String) : List Char :=
  '"' :: (s.toList.flatMap escapeChar ++ ['"'])

namespace Value

mutual

/-- The characters of the compact layout. -/
def compactChars : Value → List Char
  | .null => "null".toList
  | .bool true => "true".toList
  | .bool false => "false".toList
  | .number n => n.text.toList
  | .string s => quote s
  | .array [] => ['[', ']']
  | .array (first :: rest) => '[' :: (compactChars first ++ compactItems rest ++ [']'])
  | .object [] => ['\x7b', '\x7d']
  | .object ((key, first) :: rest) =>
    '\x7b' :: (quote key ++ ':' :: (compactChars first ++ compactMembers rest ++ ['\x7d']))

/-- The further items of an array, each after its comma. -/
def compactItems : List Value → List Char
  | [] => []
  | item :: rest => ',' :: (compactChars item ++ compactItems rest)

/-- The further members of an object, each after its comma. -/
def compactMembers : List (String × Value) → List Char
  | [] => []
  | (key, value) :: rest => ',' :: (quote key ++ ':' :: (compactChars value ++ compactMembers rest))

end

/-- A new line and the indentation of a level. -/
def newLine (level : Nat) : List Char :=
  '\n' :: List.replicate (2 * level) ' '

mutual

/-- The characters of the pretty layout at a level of indentation. -/
def prettyChars (level : Nat) : Value → List Char
  | .null => "null".toList
  | .bool true => "true".toList
  | .bool false => "false".toList
  | .number n => n.text.toList
  | .string s => quote s
  | .array [] => ['[', ']']
  | .array (first :: rest) =>
    '[' :: (newLine (level + 1) ++ prettyChars (level + 1) first ++ prettyItems (level + 1) rest ++
      newLine level ++ [']'])
  | .object [] => ['\x7b', '\x7d']
  | .object ((key, first) :: rest) =>
    '\x7b' :: (newLine (level + 1) ++ quote key ++ ':' :: ' ' :: (prettyChars (level + 1) first ++
      prettyMembers (level + 1) rest ++ newLine level ++ ['\x7d']))

/-- The further items of an array, each on a line of its own. -/
def prettyItems (level : Nat) : List Value → List Char
  | [] => []
  | item :: rest => ',' :: (newLine level ++ prettyChars level item ++ prettyItems level rest)

/-- The further members of an object, each on a line of its own. -/
def prettyMembers (level : Nat) : List (String × Value) → List Char
  | [] => []
  | (key, value) :: rest =>
    ',' :: (newLine level ++ quote key ++ ':' :: ' ' :: (prettyChars level value ++
      prettyMembers level rest))

end

/-- The compact text of a value. -/
def compact (v : Value) : String :=
  String.ofList v.compactChars

/-- The pretty text of a value. -/
def pretty (v : Value) : String :=
  String.ofList (v.prettyChars 0)

end Value

end StackDeploy.Json
