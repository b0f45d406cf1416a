/-
# Parts of a line

A settings file is read line by line. Between the parts of a line stand blanks, at its end a
comment; keys are bare or quoted, and a text may be quoted in four ways, two of which go over
several lines.
-/

import StackDeploy.Settings.Setting

namespace StackDeploy.Settings

/-! ## Blanks -/

/-- A blank within a line. -/
def isInlineBlank (c : Char) : Bool :=
  c == ' ' || c == '\t'

/-- A text without the blanks of the line at its start. -/
def skipBlanks (cs : List Char) : List Char :=
  cs.dropWhile isInlineBlank

/-- Whether a character may not stand in a comment or a text. -/
def isControl (c : Char) : Bool :=
  (c.val < 0x20 && c != '\t') || c.val == 0x7F

/-- What follows the end of a line. -/
def afterNewline (cs : List Char) : Option (List Char) :=
  match cs with
  | '\n' :: rest => some rest
  | '\r' :: '\n' :: rest => some rest
  | _ => none

/-- A text without the comment at its start; absent if a control stands in it. -/
def skipComment (cs : List Char) : Option (List Char) :=
  match cs with
  | '#' :: rest =>
    let isEnd (c : Char) : Bool := c == '\n' || c == '\r'
    if (rest.takeWhile fun c => !isEnd c).any isControl then none
    else some (rest.dropWhile fun c => !isEnd c)
  | rest => some rest

/-- A text without blanks, comments and ends of lines at its start, at most `fuel` of them. -/
def skipLines : Nat → List Char → Option (List Char)
  | 0, cs => some cs
  | fuel + 1, cs => do
    let rest ← skipComment (skipBlanks cs)
    match afterNewline rest with
    | some after => skipLines fuel after
    | none => some rest

/-- What follows the end of a line that may hold a comment. -/
def endLine (cs : List Char) : Option (List Char) := do
  let rest ← skipComment (skipBlanks cs)
  match rest with
  | [] => some []
  | rest => afterNewline rest

/-! ## Texts -/

/-- A text in single quotes after the first one, and what follows. -/
def readLiteral : List Char → Option (List Char × List Char)
  | [] => none
  | '\'' :: rest => some ([], rest)
  | c :: rest =>
    if isControl c then none
    else (readLiteral rest).map fun (text, after) => (c :: text, after)

/-- A text in double quotes after the first one, and what follows; it may not hold controls. -/
def readBasic (cs : List Char) : Option (List Char × List Char) :=
  match Setting.readQuoted cs with
  | none => none
  | some (text, after) =>
    if (cs.take (cs.length - after.length)).any isControl then none else some (text, after)

/-- A text without the blanks and ends of lines at its start. -/
def skipFolded (cs : List Char) : List Char :=
  cs.dropWhile fun c => isInlineBlank c || c == '\n' || c == '\r'

/-- Whether an end of line follows some blanks. -/
def foldsLine (cs : List Char) : Bool :=
  (afterNewline (skipBlanks cs)).isSome

/-- A text of several lines after its opening quotes, and what follows; two quotes may stand before
the closing ones. The first argument bounds the number of characters. -/
def readLines (quote : Char) (escapes : Bool) : Nat → List Char → Option (List Char × List Char)
  | 0, _ => none
  | fuel + 1, cs =>
    let more (known : List Char) (rest : List Char) : Option (List Char × List Char) :=
      (readLines quote escapes fuel rest).map fun (text, after) => (known ++ text, after)
    match cs with
    | [] => none
    | c :: rest =>
      if c = quote then
        let quotes := cs.takeWhile (· == quote)
        if quotes.length < 3 then more quotes (cs.drop quotes.length)
        else if 5 < quotes.length then none
        else some (quotes.drop 3, cs.drop quotes.length)
      else if c = '\\' ∧ escapes then
        if foldsLine rest then more [] (skipFolded rest)
        else
          match rest with
          | 'u' :: a :: b :: c :: d :: after =>
            (Setting.numberedChar [a, b, c, d]).bind fun known => more [known] after
          | 'U' :: a :: b :: c :: d :: e :: f :: g :: h :: after =>
            (Setting.numberedChar [a, b, c, d, e, f, g, h]).bind fun known => more [known] after
          | short :: after => (Setting.escapedChar short).bind fun known => more [known] after
          | [] => none
      else
        match afterNewline cs with
        | some after => more ['\n'] after
        | none => if isControl c then none else more [c] rest

/-- A text without the end of line right at its start. -/
def dropFirstNewline (cs : List Char) : List Char :=
  (afterNewline cs).getD cs

/-- A text in quotes of any kind, and what follows. -/
def readText (cs : List Char) : Option (List Char × List Char) :=
  match cs with
  | '"' :: '"' :: '"' :: rest => readLines '"' true (rest.length + 1) (dropFirstNewline rest)
  | '"' :: rest => readBasic rest
  | '\'' :: '\'' :: '\'' :: rest => readLines '\'' false (rest.length + 1) (dropFirstNewline rest)
  | '\'' :: rest => readLiteral rest
  | _ => none

/-! ## Keys -/

/-- A single key, and what follows. -/
def readKey (cs : List Char) : Option (String × List Char) :=
  let isBare (c : Char) : Bool := c.isAlphanum || c == '_' || c == '-'
  match cs with
  | '"' :: rest => (readBasic rest).map fun (text, after) => (String.ofList text, after)
  | '\'' :: rest => (readLiteral rest).map fun (text, after) => (String.ofList text, after)
  | cs =>
    if (cs.takeWhile isBare).isEmpty then none
    else some (String.ofList (cs.takeWhile isBare), cs.dropWhile isBare)

/-- Keys joined by points, and what follows; at most `fuel` of them. -/
def readPath : Nat → List Char → Option (List String × List Char)
  | 0, _ => none
  | fuel + 1, cs => do
    let (key, rest) ← readKey (skipBlanks cs)
    match skipBlanks rest with
    | '.' :: more => (readPath fuel more).map fun (path, after) => (key :: path, after)
    | after => some ([key], after)

end StackDeploy.Settings
