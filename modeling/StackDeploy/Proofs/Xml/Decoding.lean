/-
# Decoding documents

Decoding the text of a document gives its value. The text is cut into the pieces that were written,
whatever comes behind them; the pieces nest into the elements that were written, whatever is open
around them; and the values of these elements are gathered as the document says. Each of the three
is one statement about a part of a document and one about content, by induction on the tree.
-/

import StackDeploy.Proofs.Xml.Cutting

namespace StackDeploy.Xml

open Json (Value)

/-! ## The pieces that were written -/

mutual

/-- The pieces that a part of a document is written as. -/
def Node.pieces : Node → List Piece
  | .element tag data content _ =>
    .opening tag.name.markup :: (Piece.ofData data.markup ++
      (contentPieces content ++ [.closing tag.name.markup]))
  | .emptyElement tag => [.empty tag.name.markup]
  | .verbatim text _ => [.verbatim text]
  | .comment .. | .instruction .. => [.aside]

/-- The pieces that some content is written as. -/
def contentPieces : List (Node × CharacterData) → List Piece
  | [] => []
  | (node, data) :: rest => node.pieces ++ (Piece.ofData data.markup ++ contentPieces rest)

end

/-- A text is empty or begins with markup. -/
def BeginsMarkup (cs : List Char) : Prop :=
  ∀ c, cs.head? = some c → c = '<'

theorem Node.exists_markup_eq (node : Node) : ∃ rest, node.markup = '<' :: rest := by
  cases node <;> rw [markup] <;> exact ⟨_, rfl⟩

theorem beginsMarkup_contentMarkup (content : Content) {tail : List Char}
    (begins : BeginsMarkup tail) : BeginsMarkup (contentMarkup content ++ tail) := by
  cases content with
  | nil => exact begins
  | cons part rest =>
      obtain ⟨more, shape⟩ := part.1.exists_markup_eq
      rw [contentMarkup, shape]
      rintro c ⟨⟩
      rfl

theorem Piece.cutAll_nil (fuel : Nat) : cutAll fuel [] = some [] := by
  cases fuel <;> rfl

/-- At the end of the text character data takes one from the bound. -/
theorem Piece.emits_last {cs : List Char} (plain : '<' ∉ cs) : Emits cs (ofData cs) [] := by
  cases cs with
  | nil => exact emits_nil
  | cons c rest =>
      have kept : ∀ d ∈ c :: rest, decide (d ≠ '<') = true := fun d mem =>
        decide_eq_true fun same => plain (same ▸ mem)
      refine ⟨1, Nat.le_add_left 1 rest.length, fun fuel => ?_⟩
      rw [Nat.add_comm, List.append_nil, cutAll, List.takeWhile_eq_self_iff.2 kept,
        List.dropWhile_eq_nil_iff.2 kept, cutAll_nil, Option.map_some, List.append_nil]

theorem Piece.emits_data_append {cs tail : List Char} (plain : '<' ∉ cs)
    (begins : BeginsMarkup tail) : Emits cs (ofData cs) tail := by
  cases tail with
  | cons c rest =>
      rw [begins c rfl]
      exact emits_data plain rest
  | nil => exact emits_last plain

mutual

/-- A part of a document is cut into its pieces, whatever follows. -/
theorem Node.emits_markup (tail : List Char) :
    ∀ node : Node, Piece.Emits node.markup node.pieces tail
  | .element tag data content ending => by
      rw [Node.markup, Node.pieces]
      have closing : Piece.Emits ('<' :: '/' :: (tag.name.markup ++ (ending.chars ++ ['>'])))
          [.closing tag.name.markup] tail := by
        apply Piece.emits_markup
        rw [List.cons_append, List.append_assoc, List.append_assoc]
        exact tag.name.cut_closing ending tail
      have closes : BeginsMarkup
          ('<' :: '/' :: (tag.name.markup ++ (ending.chars ++ ['>'])) ++ tail) := by
        rintro c ⟨⟩
        rfl
      have inner := (emits_contentMarkup closes content).append closing
      have inside := Piece.emits_data_append data.notMem_markup
        (beginsMarkup_contentMarkup content closes)
      have opening (rest : List Char) :
          Piece.Emits ('<' :: (tag.markup ++ ['>'])) [.opening tag.name.markup] rest := by
        apply Piece.emits_markup
        rw [List.append_assoc]
        exact tag.cut_opening rest
      rw [← List.append_assoc] at inside
      have whole := (opening _).append (inside.append inner)
      rwa [List.cons_append, List.append_assoc] at whole
  | .emptyElement tag => by
      rw [Node.markup, Node.pieces]
      apply Piece.emits_markup
      rw [List.append_assoc]
      exact tag.cut_empty tail
  | .verbatim text unclosed => by
      rw [Node.markup, Node.pieces]
      exact Piece.emits_markup (cut_verbatim tail unclosed)
  | .comment text unclosed => by
      rw [Node.markup, Node.pieces]
      exact Piece.emits_markup (cut_comment tail unclosed)
  | .instruction text unclosed begins => by
      rw [Node.markup, Node.pieces]
      exact Piece.emits_markup (cut_instruction tail unclosed begins)

/-- Content is cut into its pieces in front of markup and at the end. -/
theorem emits_contentMarkup {tail : List Char} (begins : BeginsMarkup tail) :
    ∀ content, Piece.Emits (contentMarkup content) (contentPieces content) tail
  | [] => Piece.emits_nil
  | (node, data) :: rest => by
      rw [contentMarkup, contentPieces]
      have later := beginsMarkup_contentMarkup rest begins
      exact (node.emits_markup _).append
        ((Piece.emits_data_append data.notMem_markup later).append
          (emits_contentMarkup begins rest))

end

/-! ## The elements that were written -/

mutual

/-- The element that a part of a document is, if it is one. -/
def Node.elements : Node → List Element
  | .element tag data content _ =>
    [.node tag.name.text (String.ofList (data.text ++ contentText content))
      (contentElements content)]
  | .emptyElement tag => [.node tag.name.text "" []]
  | _ => []

/-- The elements in some content. -/
def contentElements : List (Node × CharacterData) → List Element
  | [] => []
  | (node, _) :: rest => node.elements ++ contentElements rest

end

namespace Nesting

/-- Text and elements are added to what is open, or the elements to the roots if nothing is. -/
def add (text : List Char) (elements : List Element) (n : Nesting) : Nesting :=
  match n.opened with
  | [] => { n with roots := n.roots ++ elements }
  | inner :: outer =>
    { n with
      opened := ⟨inner.name, inner.text ++ text, inner.children ++ elements⟩ :: outer }

variable (n : Nesting)

theorem add_nil : n.add [] [] = n := by
  obtain ⟨roots, opened⟩ := n
  cases opened <;> simp [add]

theorem add_add (text more : List Char) (elements others : List Element) :
    (n.add text elements).add more others = n.add (text ++ more) (elements ++ others) := by
  obtain ⟨roots, opened⟩ := n
  cases opened <;> simp [add]

theorem write_eq_add (text : List Char) : n.write text = n.add text [] := by
  obtain ⟨roots, opened⟩ := n
  cases opened <;> simp [add, write]

theorem attach_eq_add (element : Element) : n.attach element = n.add [] [element] := by
  obtain ⟨roots, opened⟩ := n
  cases opened <;> simp [add, attach]

/-- Data adds its text, blank data nothing. -/
theorem foldlM_ofData (data : CharacterData) :
    (Piece.ofData data.markup).foldlM step n = some (n.add data.text []) := by
  have read := CharacterData.unescape_markup data.trimmed
  rw [Piece.ofData, data.trim_markup]
  split
  · next blank =>
      rw [List.isEmpty_iff.1 blank] at read
      have none : data.text = [] := (Option.some.inj read).symm
      rw [none, add_nil]
      rfl
  · rw [List.foldlM_cons, step, read, Option.map_some, write_eq_add]
    rfl

end Nesting

mutual

/-- The pieces of a part of a document add its text and its element. -/
theorem Node.foldlM_pieces (n : Nesting) : ∀ node : Node,
    node.pieces.foldlM Nesting.step n = some (n.add node.text node.elements)
  | .element tag data content ending => by
      have closed (text : List Char) (children : List Element) :
          OpenElement.close ⟨tag.name.markup, text, children⟩ =
            .node tag.name.text (String.ofList text) children := by
        rw [OpenElement.close, tag.name.localName_markup]
      obtain ⟨roots, opened⟩ := n
      have inner := foldlM_contentPieces (Nesting.add data.text []
        ⟨roots, ⟨tag.name.markup, [], []⟩ :: opened⟩) content
      simp only [Node.pieces, List.foldlM_cons, List.foldlM_append, List.foldlM_nil, Nesting.step,
        Option.bind_eq_bind, Option.bind_some, Nesting.foldlM_ofData, inner, Nesting.add_add]
      rw [Nesting.add]
      dsimp only
      rw [if_pos rfl, closed, Nesting.attach_eq_add]
      rfl
  | .emptyElement tag => by
      have closed : OpenElement.close ⟨tag.name.markup, [], []⟩ = .node tag.name.text "" [] := by
        rw [OpenElement.close, tag.name.localName_markup]
      rw [Node.pieces, List.foldlM_cons, Nesting.step, closed, Nesting.attach_eq_add]
      rfl
  | .verbatim text unclosed => by
      rw [Node.pieces, List.foldlM_cons, Nesting.step, Nesting.write_eq_add]
      rfl
  | .comment text unclosed => congrArg some n.add_nil.symm
  | .instruction text unclosed begins => congrArg some n.add_nil.symm

/-- The pieces of some content add its text and its elements. -/
theorem foldlM_contentPieces (n : Nesting) : ∀ content,
    (contentPieces content).foldlM Nesting.step n =
      some (n.add (contentText content) (contentElements content))
  | [] => congrArg some n.add_nil.symm
  | (node, data) :: rest => by
      rw [contentPieces, List.foldlM_append, node.foldlM_pieces]
      simp only [List.foldlM_append, Option.bind_eq_bind, Option.bind_some, Nesting.foldlM_ofData,
        foldlM_contentPieces, Nesting.add_add, contentText, contentElements, List.flatMap_cons,
        List.append_assoc, List.nil_append]

end

/-! ## The values of the elements -/

theorem Element.toValue_node (name : String) (text : List Char) (children : List Element) :
    Element.toValue (.node name (String.ofList text) children) =
      elementValue text (Element.toMembers children) := by
  cases children with
  | nil => rfl
  | cons first rest =>
      rw [toValue, objectOf_eq, toMembers_eq, List.map_cons, elementValue]
      exact List.cons_ne_nil _ _

mutual

theorem Node.toMembers_elements : ∀ node : Node, Element.toMembers node.elements = node.members
  | .element tag data content _ => by
      rw [Node.elements, Node.members, Element.toMembers_eq, List.map_singleton,
        Element.toValue_node, toMembers_contentElements]
      rfl
  | .emptyElement tag => rfl
  | .verbatim .. | .comment .. | .instruction .. => rfl

theorem toMembers_contentElements : ∀ content,
    Element.toMembers (contentElements content) = contentMembers content
  | [] => rfl
  | (node, data) :: rest => by
      rw [contentElements, contentMembers, ← node.toMembers_elements,
        ← toMembers_contentElements rest, Element.toMembers_eq, Element.toMembers_eq,
        Element.toMembers_eq, List.map_append]

end

/-! ## Reading documents -/

theorem contentElements_ne_nil {content : Content}
    (rooted : ∃ part ∈ content, part.1.isElement = true) : contentElements content ≠ [] := by
  obtain ⟨⟨node, data⟩, mem, element⟩ := rooted
  induction content with
  | nil => cases mem
  | cons first rest ih =>
      rw [contentElements]
      rcases List.mem_cons.1 mem with rfl | later
      · apply List.append_ne_nil_of_left_ne_nil
        cases node with
        | element | emptyElement => exact List.cons_ne_nil _ _
        | verbatim | comment | instruction => cases element
      · exact List.append_ne_nil_of_right_ne_nil _ (ih later)

namespace Document

variable (d : Document)

/-- A mark of the order of the bytes at the very beginning is no part of the data. What is left of
the data counts for nothing either. -/
theorem exists_ofText_eq : ∃ data : CharacterData,
    Piece.ofText d.text = some (Piece.ofData data.markup ++ contentPieces d.content) := by
  obtain ⟨data, content, -⟩ := d
  have ends : BeginsMarkup [] := nofun
  have begins := beginsMarkup_contentMarkup content ends
  rw [List.append_nil] at begins
  have cut (data : CharacterData) :
      Piece.cutAll ((data.markup ++ contentMarkup content).length + 1)
        (data.markup ++ contentMarkup content) =
          some (Piece.ofData data.markup ++ contentPieces content) := by
    apply Piece.cutAll_of_emits
    refine (Piece.emits_data_append data.notMem_markup ?_).append
      (emits_contentMarkup ends content)
    rw [List.append_nil]
    exact begins
  rw [text, Piece.ofText, String.toList_ofList]
  dsimp only
  cases whole : data.markup ++ contentMarkup content with
  | nil => exact ⟨data, by rw [← cut data, whole]; rfl⟩
  | cons c rest =>
      dsimp only
      split
      · next mark =>
          subst mark
          cases data with
          | nil =>
              rw [CharacterData.markup, List.flatMap_nil, List.nil_append] at whole
              exact absurd (begins _ (by rw [whole]; rfl)) (by decide)
          | cons first others =>
              cases first with
              | plain c bare =>
                  rw [CharacterData.markup, List.flatMap_cons, List.append_assoc] at whole
                  obtain ⟨-, rfl⟩ := List.cons.inj whole
                  exact ⟨others, cut others⟩
              | named known mem => cases whole
              | numbered n => cases whole
      · exact ⟨data, by rw [← cut data, whole]; rfl⟩

/-- Reading a document gives the elements that were written. -/
theorem ofText_text : Element.ofText d.text = .ok (contentElements d.content) := by
  obtain ⟨data, cut⟩ := d.exists_ofText_eq
  have outside : Nesting.add data.text [] Nesting.start = Nesting.start := rfl
  have filled : (contentElements d.content).isEmpty = false :=
    List.isEmpty_eq_false_iff.2 (contentElements_ne_nil d.rooted)
  rw [Element.ofText, cut]
  dsimp only
  rw [Element.ofPieces, List.foldlM_append, Nesting.foldlM_ofData, Option.bind_eq_bind,
    Option.bind_some, outside, foldlM_contentPieces]
  show Nesting.finish ⟨contentElements d.content, []⟩ = _
  rw [Nesting.finish, filled]
  rfl

/-- Decoding the text of a document succeeds and gives the value of the document: every element that
was written is in it once, in its place. -/
theorem decoding_groups_written_elements : valueOfText d.text = .ok d.value := by
  rw [valueOfText, d.ofText_text]
  show Except.ok (objectOf _) = _
  rw [objectOf_eq, toMembers_contentElements, value]

example : ∃ d : Document, d.text = "<Row> 1 </Row>,<Row/>" ∧
    d.value = .object [("Row", .array [.string "1", .string ""])] := by
  let blank : DataChar := .plain ' ' (by decide)
  let row : Tag := ⟨⟨none, ['R', 'o', 'w'], by decide, List.all_eq_true.1 rfl⟩, [], [], nofun⟩
  let content : Content :=
    [(.element row [blank, .plain '1' (by decide), blank] [] ⟨[], nofun⟩,
      [.plain ',' (by decide)]), (.emptyElement row, [])]
  exact ⟨⟨[], content, by decide⟩, by decide +kernel, by rfl⟩

end Document

end StackDeploy.Xml
