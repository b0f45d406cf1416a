/-
# XML elements

The pieces of a document nest into elements. An element has a name without the part before its
first colon, the text of its own data, and its child elements in order. A document is a list of
elements, which may be more than one; data outside of them is checked and passed over. A closing
tag has to repeat the name of its opening one.
-/

import StackDeploy.Xml.Markup
import StackDeploy.Xml.Reference

namespace StackDeploy.Xml

/-- An element of a document. -/
inductive Element where
  | node (name : String) (text : String) (children : List Element)

/-- Why a text is no document. -/
inductive XmlError where
  /-- Markup or a reference is broken, or a closing tag does not fit. -/
  | malformed
  /-- The text ends while an element is open. -/
  | unexpectedEnd
  /-- There is no element. -/
  | noRoot
deriving DecidableEq

/-- The wording of an error. -/
def XmlError.message : XmlError → String
  | .malformed => "malformed markup"
  | .unexpectedEnd => "unexpected end of document"
  | .noRoot => "document has no root element"

/-- A name without the part before its first colon. -/
def localName (name : List Char) : String :=
  match Text.cutFirst ':' name with
  | some (_, after) => String.ofList after
  | none => String.ofList name

/-- An element whose end has not been reached, with its name as written. -/
structure OpenElement where
  name : List Char
  text : List Char
  children : List Element

/-- The finished element. -/
def OpenElement.close (e : OpenElement) : Element :=
  .node (localName e.name) (String.ofList e.text) e.children

/-- What has been read of a document: the finished roots, and the open elements from the inside
out. -/
structure Nesting where
  roots : List Element
  opened : List OpenElement

namespace Nesting

/-- Nothing read yet. -/
def start : Nesting := ⟨[], []⟩

/-- Puts a finished element where it belongs. -/
def attach (element : Element) (n : Nesting) : Nesting :=
  match n.opened with
  | [] => { n with roots := n.roots ++ [element] }
  | inner :: outer =>
    { n with opened := { inner with children := inner.children ++ [element] } :: outer }

/-- Adds text to the innermost open element. -/
def write (text : List Char) (n : Nesting) : Nesting :=
  match n.opened with
  | [] => n
  | inner :: outer => { n with opened := { inner with text := inner.text ++ text } :: outer }

/-- Takes one more piece. -/
def step (n : Nesting) (piece : Piece) : Option Nesting :=
  match piece with
  | .opening name => some { n with opened := ⟨name, [], []⟩ :: n.opened }
  | .empty name => some (n.attach (OpenElement.close ⟨name, [], []⟩))
  | .closing name =>
    match n.opened with
    | [] => none
    | inner :: outer =>
      if name = inner.name then some (attach inner.close { n with opened := outer }) else none
  | .data text => (unescape text).map n.write
  | .verbatim text => some (n.write text)
  | .aside => some n

/-- The elements of a document that is complete. -/
def finish (n : Nesting) : Except XmlError (List Element) :=
  if !n.opened.isEmpty then .error .unexpectedEnd
  else if n.roots.isEmpty then .error .noRoot
  else .ok n.roots

end Nesting

/-- The elements that pieces nest into. -/
def Element.ofPieces (pieces : List Piece) : Except XmlError (List Element) :=
  match pieces.foldlM Nesting.step Nesting.start with
  | none => .error .malformed
  | some nesting => nesting.finish

/-- The elements of a text. -/
def Element.ofText (text : String) : Except XmlError (List Element) :=
  match Piece.ofText text with
  | none => .error .malformed
  | some pieces => Element.ofPieces pieces

end StackDeploy.Xml
