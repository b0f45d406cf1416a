/-
# XML markup

A document is a row of pieces: tags, character data, verbatim sections, and asides that carry no
content, which are comments, processing instructions, declarations and document types. Tags are
not looked into beyond the name: quoted text inside them may hold any character, and what stands
there is not checked. Data between two pieces of markup loses its blanks at both ends and is no
piece when nothing is left.
-/

import StackDeploy.Text.Cut

namespace StackDeploy.Xml

/-- A piece of a document. Names are as written, with the part before a colon; data still holds its
references. -/
inductive Piece where
  | opening (name : List Char)
  | closing (name : List Char)
  | empty (name : List Char)
  | data (text : List Char)
  | verbatim (text : List Char)
  | aside
deriving DecidableEq

/-- A blank of XML. -/
def isBlank (c : Char) : Bool :=
  c == ' ' || c == '\t' || c == '\n' || c == '\r'

/-- A text without its trailing blanks. -/
def trimRight (cs : List Char) : List Char :=
  (cs.reverse.dropWhile isBlank).reverse

/-- A text without the blanks at its two ends. -/
def trim (cs : List Char) : List Char :=
  trimRight (cs.dropWhile isBlank)

/-- Whether a text starts with a word in any case of its letters. -/
def startsWithWord (word cs : List Char) : Bool :=
  (cs.take word.length).map Char.toLower == word.map Char.toLower

/-- The inside of a tag and what follows it. A tag ends at the first closing bracket outside
quotes; the first argument is the quote that is open. -/
def cutTag (quote : Option Char) : List Char → Option (List Char × List Char)
  | [] => none
  | c :: rest =>
    match quote with
    | some q =>
      (cutTag (if c = q then none else some q) rest).map fun (inside, after) => (c :: inside, after)
    | none =>
      if c = '>' then some ([], rest)
      else
        (cutTag (if c = '"' ∨ c = '\'' then some c else none) rest).map
          fun (inside, after) => (c :: inside, after)

/-- The inside of a document type and what follows it: it ends at the closing bracket that no
opening one inside belongs to. The first argument counts the brackets that are open. -/
def cutDeclaration (depth : Nat) : List Char → Option (List Char × List Char)
  | [] => none
  | c :: rest =>
    if c = '>' then
      match depth with
      | 0 => some ([], rest)
      | depth + 1 => (cutDeclaration depth rest).map fun (inside, after) => (c :: inside, after)
    else
      (cutDeclaration (if c = '<' then depth + 1 else depth) rest).map
        fun (inside, after) => (c :: inside, after)

/-- The name at the start of a tag. -/
def tagName (inside : List Char) : List Char :=
  inside.takeWhile fun c => !isBlank c

/-- The tag that opens an element, or stands for an empty one when a slash ends it. -/
def Piece.ofTag (inside : List Char) : Piece :=
  if inside.getLast? = some '/' then .empty (tagName inside.dropLast) else .opening (tagName inside)

/-- The name in a closing tag: blanks may follow it. A name that is nothing but blanks stays. -/
def closingName (inside : List Char) : List Char :=
  if inside.all isBlank then inside else trimRight inside

/-- A verbatim section, after its first two characters. -/
def cutVerbatim (cs : List Char) : Option (Piece × List Char) := do
  let (inside, after) ← Text.cutPhrase "]]>".toList cs
  if startsWithWord "[CDATA[".toList inside then some (.verbatim (inside.drop 7), after) else none

/-- A comment, after its first two characters. -/
def cutComment (cs : List Char) : Option (Piece × List Char) :=
  match cs with
  | '-' :: '-' :: rest => (Text.cutPhrase "-->".toList rest).map fun (_, after) => (.aside, after)
  | _ => none

/-- A document type, after its first two characters; it has to state something. -/
def cutDocumentType (cs : List Char) : Option (Piece × List Char) := do
  let (inside, after) ← cutDeclaration 0 cs
  if startsWithWord "DOCTYPE".toList inside && !(inside.drop 7).all isBlank then
    some (.aside, after)
  else none

/-- A processing instruction or a declaration, after its first two characters. -/
def cutInstruction (cs : List Char) : Option (Piece × List Char) :=
  match cs with
  | '>' :: _ => none
  | cs => (Text.cutPhrase "?>".toList cs).map fun (_, after) => (.aside, after)

/-- The markup after an opening bracket, and what follows it; absent if it is not closed or of no
known kind. -/
def Piece.cut (cs : List Char) : Option (Piece × List Char) :=
  match cs with
  | [] => none
  | '!' :: '[' :: rest => cutVerbatim ('[' :: rest)
  | '!' :: '-' :: rest => cutComment ('-' :: rest)
  | '!' :: 'D' :: rest => cutDocumentType ('D' :: rest)
  | '!' :: 'd' :: rest => cutDocumentType ('d' :: rest)
  | '!' :: _ => none
  | '?' :: rest => cutInstruction rest
  | '/' :: rest =>
    (cutTag none rest).map fun (inside, after) => (.closing (closingName inside), after)
  | cs => (cutTag none cs).map fun (inside, after) => (.ofTag inside, after)

/-- The piece of some character data, if more than blanks is there. -/
def Piece.ofData (cs : List Char) : List Piece :=
  let text := trim cs
  if text.isEmpty then [] else [.data text]

/-- The pieces of a text, at most `fuel` pieces of markup among them; every one takes a character,
so the length of the text is enough. Absent if some markup is broken. -/
def Piece.cutAll : Nat → List Char → Option (List Piece)
  | 0, cs => if cs.isEmpty then some [] else none
  | fuel + 1, cs =>
    let data := Piece.ofData (cs.takeWhile (· ≠ '<'))
    match cs.dropWhile (· ≠ '<') with
    | [] => some data
    | _ :: markup => do
      let (piece, after) ← Piece.cut markup
      let pieces ← cutAll fuel after
      some (data ++ piece :: pieces)

/-- The mark that may stand in front of a text to tell the order of its bytes. -/
def byteOrderMark : Char := '\ufeff'

/-- The pieces of a document. -/
def Piece.ofText (text : String) : Option (List Piece) :=
  match text.toList with
  | [] => some []
  | c :: rest =>
    if c = byteOrderMark then Piece.cutAll (rest.length + 1) rest
    else Piece.cutAll (rest.length + 2) (c :: rest)

end StackDeploy.Xml
