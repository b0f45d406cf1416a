/-
# Settings

A setting has a text, a whole number, or something else, which no field of the configuration takes.
Environment variables give settings without saying their kind, so the kind is read off the text: a
text with commas is a list, the words for truth values, numbers, quoted texts, lists and tables are
what they look like, and all else is a text. So an access key of digits only is a number, and no
text.
-/

import StackDeploy.Text.Blank
import StackDeploy.Text.Cut
import StackDeploy.Text.Percent

namespace StackDeploy

/-- A configured value. -/
inductive Setting where
  | text (value : String)
  | integer (value : Int)
  /-- A truth value, a number with a fraction, a list, a table. -/
  | other
deriving DecidableEq

namespace Setting

/-! ## Numbers -/

/-- The value of decimal digits; absent if there is none or another character among them. -/
def digitsValue (cs : List Char) : Option Nat :=
  if cs.isEmpty || !cs.all Char.isDigit then none
  else some (cs.foldl (fun n c => 10 * n + (c.toNat - 48)) 0)

/-- A whole number of 64 bits, with or without a sign. -/
def integerOf (cs : List Char) : Option Int :=
  match cs with
  | '-' :: digits =>
    (digitsValue digits).bind fun n => if n ≤ Nat.pow 2 63 then some (-(n : Int)) else none
  | '+' :: digits | digits =>
    (digitsValue digits).bind fun n => if n < Nat.pow 2 64 then some (n : Int) else none

/-- A text without its sign. -/
def withoutSign (cs : List Char) : List Char :=
  match cs with
  | '-' :: rest => rest
  | '+' :: rest => rest
  | rest => rest

/-- Whether a text is the exponent of a number, or nothing. -/
def isExponent (cs : List Char) : Bool :=
  match cs with
  | [] => true
  | c :: rest => (c == 'e' || c == 'E') && (digitsValue (withoutSign rest)).isSome

/-- Whether a text is a number with a point, with a digit on one of its sides at least. -/
def isFraction (cs : List Char) : Bool :=
  match Text.cutFirst '.' (withoutSign cs) with
  | none => false
  | some (whole, rest) =>
    let places := rest.takeWhile Char.isDigit
    whole.all Char.isDigit && !(whole.isEmpty && places.isEmpty) &&
      isExponent (rest.dropWhile Char.isDigit)

/-- The setting of a plain text. -/
def ofPlain (cs : List Char) : Setting :=
  if isFraction cs then .other
  else
    match integerOf cs with
    | some n => .integer n
    | none => .text (String.ofList cs)

/-! ## Texts of a kind -/

/-- A blank of ASCII. -/
def isSpace (c : Char) : Bool :=
  c == ' ' || c == '\t' || c == '\n' || c == '\x0c' || c == '\r'

/-- Whether a character ends a plain text. -/
def isSeparator (c : Char) : Bool :=
  c == ',' || c == '\x7b' || c == '\x7d' || c == '[' || c == ']'

/-- The character of a short escape. -/
def escapedChar (c : Char) : Option Char :=
  match c with
  | '"' => some '"'
  | '\\' => some '\\'
  | 'b' => some '\x08'
  | 'f' => some '\x0c'
  | 'n' => some '\n'
  | 'r' => some '\r'
  | 't' => some '\t'
  | _ => none

/-- The character with a number in hexadecimal digits. -/
def numberedChar (digits : List Char) : Option Char :=
  (digits.foldl
    (fun total c => total.bind fun n => (Text.hexValue c).map fun digit => 16 * n + digit)
    (some 0)).bind fun n => if n.isValidChar then some (Char.ofNat n) else none

/-- What stands up to the closing quote, and what follows it. The character after a backslash closes
nothing. -/
def cutQuoted : List Char → Option (List Char × List Char)
  | [] => none
  | '"' :: rest => some ([], rest)
  | '\\' :: c :: rest =>
    (cutQuoted rest).map fun (inside, after) => ('\\' :: c :: inside, after)
  | c :: rest => (cutQuoted rest).map fun (inside, after) => (c :: inside, after)

/-- Whether a character may stand in a quoted text: any but a control, of which only the tab may. -/
def isQuotable (c : Char) : Bool :=
  c == '\t' || (0x20 ≤ c.val && c.val != 0x7F)

/-- The text that escapes and the characters between them stand for. -/
def unescape : List Char → Option (List Char)
  | [] => some []
  | '\\' :: 'u' :: a :: b :: c :: d :: rest => do
    let known ← numberedChar [a, b, c, d]
    let chars ← unescape rest
    some (known :: chars)
  | '\\' :: 'U' :: a :: b :: c :: d :: e :: f :: g :: h :: rest => do
    let known ← numberedChar [a, b, c, d, e, f, g, h]
    let chars ← unescape rest
    some (known :: chars)
  | '\\' :: c :: rest => do
    let known ← escapedChar c
    let chars ← unescape rest
    some (known :: chars)
  | c :: rest => do
    let chars ← unescape rest
    if c != '\\' && isQuotable c then some (c :: chars) else none

/-- The characters at the start of a text that fit into a number of bytes. -/
def fittingChars : Nat → List Char → List Char
  | _, [] => []
  | bytes, c :: rest =>
    if c.utf8Size ≤ bytes then c :: fittingChars (bytes - c.utf8Size) rest else []

/-- The text that stands between quotes. Before its first escape it keeps as many bytes as there are
characters. -/
def quotedText (inside : List Char) : Option (List Char) := do
  let chars ← unescape inside
  let plain := inside.takeWhile (· != '\\')
  if plain.length = inside.length then some chars
  else some (fittingChars plain.length plain ++ chars.drop plain.length)

/-- A quoted text after its opening quote, and what follows the closing one. -/
def readQuoted (cs : List Char) : Option (List Char × List Char) := do
  let (inside, after) ← cutQuoted cs
  let chars ← quotedText inside
  some (chars, after)

/-- What follows a word at the start of a text. -/
def afterWord (word : String) (cs : List Char) : Option (List Char) :=
  if word.toList.isPrefixOf cs then some (cs.drop word.toList.length) else none

/-- What follows the key of a table entry and its sign. -/
def afterKey (cs : List Char) : Option (List Char) :=
  let isKeyChar (c : Char) : Bool := c.isAlphanum || c == '_' || c == '-'
  let cs := cs.dropWhile isSpace
  let rest :=
    match cs with
    | '"' :: quoted => (readQuoted quoted).map Prod.snd
    | cs => if (cs.takeWhile isKeyChar).isEmpty then none else some (cs.dropWhile isKeyChar)
  match rest.map fun rest => rest.dropWhile isSpace with
  | some ('=' :: after) => some after
  | _ => none

mutual

/-- A setting at the start of a text, and what follows it. The first argument bounds the number of
steps. -/
def read : Nat → List Char → Option (Setting × List Char)
  | 0, _ => none
  | fuel + 1, cs =>
    let cs := cs.dropWhile isSpace
    let found : Option (Setting × List Char) :=
      match afterWord "true" cs, afterWord "false" cs with
      | some rest, _ => some (.other, rest)
      | none, some rest => some (.other, rest)
      | none, none =>
        match cs with
        | '\x7b' :: rest => (readEntries true '\x7d' fuel rest).map fun after => (.other, after)
        | '[' :: rest => (readEntries false ']' fuel rest).map fun after => (.other, after)
        | '"' :: rest =>
          (readQuoted rest).map fun quoted => (.text (String.ofList quoted.1), quoted.2)
        | '\'' :: c :: '\'' :: rest => some (.text (String.singleton c), rest)
        | '\'' :: _ => none
        | cs =>
          some (ofPlain (Text.trimChars (cs.takeWhile fun c => !isSeparator c)),
            cs.dropWhile fun c => !isSeparator c)
    found.map fun result => (result.1, result.2.dropWhile isSpace)

/-- What follows the entries of a list or a table up to its closing bracket. -/
def readEntries (keyed : Bool) (closing : Char) : Nat → List Char → Option (List Char)
  | 0, _ => none
  | fuel + 1, cs =>
    match cs with
    | [] => none
    | c :: rest =>
      if c = closing then some rest
      else
        match if keyed then afterKey cs else some cs with
        | none => none
        | some cs =>
          match read fuel cs with
          | some (_, ',' :: after) => readEntries keyed closing fuel after
          | some (_, c :: after) => if c = closing then some after else none
          | _ => none

end

/-- Whether a text is a list without brackets. -/
def isList (cs : List Char) : Bool :=
  cs.contains ',' && !(match cs with | c :: _ => "[\x7b\"'".toList.contains c | [] => false)

/-- The setting that a text without a kind gives. A text that only starts like another kind is a
text. -/
def ofText (text : String) : Setting :=
  let cs := Text.trimChars text.toList
  if isList cs then .other
  else
    match read (2 * cs.length + 2) cs with
    | some (setting, []) => setting
    | _ => .text (String.ofList cs)

/-! ## Use -/

/-- The text of a setting. -/
def text? : Setting → Option String
  | .text value => some value
  | _ => none

/-- The number of a setting, up to a greatest one. -/
def number? (greatest : Nat) : Setting → Option Nat
  | .integer n => if 0 ≤ n ∧ n ≤ greatest then some n.toNat else none
  | _ => none

end Setting

end StackDeploy
