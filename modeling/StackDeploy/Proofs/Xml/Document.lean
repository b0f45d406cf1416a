/-
# Documents

A document is written down as a tree: elements with their attributes, verbatim sections, comments
and instructions, and character data before, between and behind them. The types carry what keeps the
parts apart when they stand in one text, so every tree can be written: names hold no blanks or
marks, an attribute does not hold its quotes, no comment holds its end, and character data is a list
of characters each of which is written as itself, by its name or by its number.

The value of a document is given here by recursion over the tree, without the reader. The text of an
element is the character data, trimmed at both ends piece by piece, with the verbatim sections in
between as they are. An element without children is its text, and any other one gathers the values
of its children under their local names. Several elements may stand side by side at the top, with
data around them that counts for nothing.
-/

import StackDeploy.Proofs.Xml.Children

namespace StackDeploy.Xml

open Json (Value Members)

/-! ## Character data -/

/-- The bases in which the number of a character is written. -/
inductive Base where
  | decimal
  | hexadecimal

namespace Base

/-- The number of digits of a base. -/
def radix : Base → Nat
  | decimal => 10
  | hexadecimal => 16

/-- What stands in front of the digits. -/
def sign : Base → List Char
  | decimal => []
  | hexadecimal => ['x']

/-- The number that digits write. -/
def number (base : Base) (digits : List Char) : Nat :=
  digits.foldl (fun total digit => base.radix * total + (Text.hexValue digit).getD 0) 0

end Base

/-- The number of a character, with leading zeros and letters in either case as they are written. -/
structure CharNumber where
  base : Base
  digits : List Char
  nonempty : digits ≠ []
  valid : ∀ digit ∈ digits, ∃ value < base.radix, Text.hexValue digit = some value
  positive : base.number digits ≠ 0
  isChar : (base.number digits).isValidChar

/-- A character as it is written in character data. -/
inductive DataChar where
  | plain (c : Char) (bare : c ≠ '<' ∧ c ≠ '&')
  | named (known : List Char × Char) (mem : known ∈ namedCharacters)
  | numbered (number : CharNumber)

namespace DataChar

/-- The character that is meant. -/
def char : DataChar → Char
  | plain c _ => c
  | named known _ => known.2
  | numbered n => Char.ofNat (n.base.number n.digits)

/-- The characters that are written. -/
def markup : DataChar → List Char
  | plain c _ => [c]
  | named known _ => '&' :: (known.1 ++ [';'])
  | numbered n => '&' :: ('#' :: (n.base.sign ++ n.digits) ++ [';'])

/-- Whether a blank is written. A blank that is written by its number is none. -/
def isBlank : DataChar → Bool
  | plain c _ => Xml.isBlank c
  | _ => false

end DataChar

/-- Character data between two pieces of markup. -/
abbrev CharacterData := List DataChar

namespace CharacterData

/-- The characters that are written. -/
def markup (data : CharacterData) : List Char :=
  data.flatMap DataChar.markup

/-- The data without the blanks at its two ends. -/
def trimmed (data : CharacterData) : CharacterData :=
  ((data.dropWhile DataChar.isBlank).reverse.dropWhile DataChar.isBlank).reverse

/-- The text that is meant. -/
def text (data : CharacterData) : List Char :=
  data.trimmed.map DataChar.char

end CharacterData

/-! ## Tags -/

/-- The characters that no name holds, besides blanks. -/
def reservedChars : List Char := ['<', '>', '/', '=', '"', '\'', '&', '!', '?', ':']

/-- Whether a character may stand in a name. -/
def isNameChar (c : Char) : Bool :=
  !isBlank c && !reservedChars.contains c

/-- A name without a colon. -/
structure NamePart where
  chars : List Char
  nonempty : chars ≠ []
  valid : ∀ c ∈ chars, isNameChar c = true

/-- The name of an element or an attribute, with or without the name of its space in front. -/
structure Name where
  space : Option NamePart
  base : NamePart

namespace Name

/-- The name as it is written. -/
def markup (name : Name) : List Char :=
  match name.space with
  | none => name.base.chars
  | some space => space.chars ++ ':' :: name.base.chars

/-- The local name. -/
def text (name : Name) : String :=
  String.ofList name.base.chars

end Name

/-- Blanks inside a tag. -/
structure Blanks where
  chars : List Char
  blank : ∀ c ∈ chars, isBlank c = true

/-- An attribute, with the blanks before it and around its sign. -/
structure Attribute where
  gap : Blanks
  apart : gap.chars ≠ []
  name : Name
  before : Blanks
  after : Blanks
  quote : Char
  quotes : quote = '"' ∨ quote = '\''
  value : List Char
  unquoted : quote ∉ value

/-- An attribute as it is written. -/
def Attribute.markup (a : Attribute) : List Char :=
  a.gap.chars ++ (a.name.markup ++ (a.before.chars ++ '=' :: (a.after.chars ++
    a.quote :: (a.value ++ [a.quote]))))

/-- The inside of a tag. -/
structure Tag where
  name : Name
  attributes : List Attribute
  blanks : Blanks

/-- The inside of a tag as it is written. -/
def Tag.markup (tag : Tag) : List Char :=
  tag.name.markup ++ (tag.attributes.flatMap Attribute.markup ++ tag.blanks.chars)

/-! ## Trees -/

/-- A piece of a document. An element holds some data and the pieces inside it, each with the data
behind it. -/
inductive Node where
  | element (tag : Tag) (data : CharacterData) (content : List (Node × CharacterData))
      (ending : Blanks)
  | emptyElement (tag : Tag)
  | verbatim (text : List Char) (unclosed : ¬ [']', ']', '>'] <:+: text)
  | comment (text : List Char) (unclosed : ¬ ['-', '-', '>'] <:+: text)
  | instruction (text : List Char) (unclosed : ¬ ['?', '>'] <:+: text)
      (begins : text.head? ≠ some '>')

/-- Pieces that stand side by side, each with the data behind it. -/
abbrev Content := List (Node × CharacterData)

mutual

/-- A piece as it is written. -/
def Node.markup : Node → List Char
  | .element tag data content ending =>
    '<' :: (tag.markup ++ '>' :: (data.markup ++ (contentMarkup content ++
      '<' :: '/' :: (tag.name.markup ++ (ending.chars ++ ['>'])))))
  | .emptyElement tag => '<' :: (tag.markup ++ ['/', '>'])
  | .verbatim text _ => '<' :: '!' :: ("[CDATA[".toList ++ (text ++ "]]>".toList))
  | .comment text _ => '<' :: '!' :: '-' :: '-' :: (text ++ "-->".toList)
  | .instruction text _ _ => '<' :: '?' :: (text ++ "?>".toList)

/-- Pieces as they are written, with the data behind each. -/
def contentMarkup : List (Node × CharacterData) → List Char
  | [] => []
  | (node, data) :: rest => node.markup ++ (data.markup ++ contentMarkup rest)

end

/-- The text that a piece adds to the element around it. -/
def Node.text : Node → List Char
  | .verbatim text _ => text
  | _ => []

/-- The text of some content. -/
def contentText (content : Content) : List Char :=
  content.flatMap fun part => part.1.text ++ part.2.text

/-- The value of an element by its text and its children. -/
def elementValue (text : List Char) : List (String × Value) → Value
  | [] => .string (String.ofList text)
  | children => .object (gather children)

mutual

/-- The value of a piece under its local name, if it is an element. -/
def Node.members : Node → List (String × Value)
  | .element tag data content _ =>
    [(tag.name.text, elementValue (data.text ++ contentText content) (contentMembers content))]
  | .emptyElement tag => [(tag.name.text, elementValue [] [])]
  | _ => []

/-- The values of the elements in some content under their local names. -/
def contentMembers : List (Node × CharacterData) → List (String × Value)
  | [] => []
  | (node, _) :: rest => node.members ++ contentMembers rest

end

/-- Whether a piece is an element. -/
def Node.isElement : Node → Bool
  | .element .. | .emptyElement .. => true
  | _ => false

/-- A document: data and pieces, among which there is an element. -/
structure Document where
  data : CharacterData
  content : Content
  rooted : ∃ part ∈ content, part.1.isElement = true

namespace Document

/-- The text of a document. -/
def text (d : Document) : String :=
  String.ofList (d.data.markup ++ contentMarkup d.content)

/-- The value of a document: the values of its elements, gathered under their local names. -/
def value (d : Document) : Value :=
  .object (gather (contentMembers d.content))

end Document

end StackDeploy.Xml
