/-
# Written elements

An element is written as its opening tag, its escaped text, its children and its closing tag; one
that has nothing inside may be a single tag instead. Reading gives the element back if its names are
words and its texts have no blanks at their ends, at every depth. The pieces of what is written are
cut off one by one, whatever comes after them, and nest into the element again.
-/

import Mathlib.Data.List.TakeWhile
import StackDeploy.Proofs.Xml.Escaping
import StackDeploy.Xml.Element

namespace StackDeploy.Xml

/-! ## Writing -/

mutual

/-- The markup of an element; `short` lets an element without content be a single tag. -/
def Element.markup (short : Bool) : Element → List Char
  | .node name text children =>
    if short && text.isEmpty && children.isEmpty then '<' :: (name.toList ++ ['/', '>'])
    else
      '<' :: (name.toList ++ '>' :: (escape text.toList ++
        (Element.markupAll short children ++ '<' :: '/' :: (name.toList ++ ['>']))))

/-- The markup of elements, one after the other. -/
def Element.markupAll (short : Bool) : List Element → List Char
  | [] => []
  | element :: rest => Element.markup short element ++ Element.markupAll short rest

end

/-- A name made of letters. -/
def IsWord (name : String) : Prop :=
  name.toList ≠ [] ∧ name.toList.all Char.isAlpha = true

instance (name : String) : Decidable (IsWord name) :=
  inferInstanceAs (Decidable (_ ∧ _))

/-- A property of the names and texts in an element, at every depth. -/
inductive Element.Every (P : String → String → Prop) : Element → Prop
  | node {name text : String} {children : List Element} (here : P name text)
      (below : ∀ child ∈ children, Element.Every P child) :
      Element.Every P (.node name text children)

theorem Element.every_node_iff {P : String → String → Prop} {name text : String}
    {children : List Element} :
    Element.Every P (.node name text children) ↔
      P name text ∧ ∀ child ∈ children, Element.Every P child := by
  constructor
  · rintro ⟨here, below⟩
    exact ⟨here, below⟩
  · rintro ⟨here, below⟩
    exact .node here below

theorem Element.Every.mono {P Q : String → String → Prop} {element : Element}
    (weaker : ∀ name text, P name text → Q name text) (every : element.Every P) :
    element.Every Q := by
  induction every with
  | node here _ ih => exact .node (weaker _ _ here) ih

/-- What an element has to be to be written and read back. -/
def Element.Writable : Element → Prop :=
  Element.Every fun name text => IsWord name ∧ Trimmed text.toList

/-! ## The pieces of what is written -/

mutual

/-- The pieces that an element is written as. -/
def Element.pieces (short : Bool) : Element → List Piece
  | .node name text children =>
    if short && text.isEmpty && children.isEmpty then [.empty name.toList]
    else
      .opening name.toList :: (Piece.ofData (escape text.toList) ++
        (Element.piecesAll short children ++ [.closing name.toList]))

/-- The pieces that elements are written as. -/
def Element.piecesAll (short : Bool) : List Element → List Piece
  | [] => []
  | element :: rest => Element.pieces short element ++ Element.piecesAll short rest

end

namespace Piece

variable {cs ds tail : List Char} {pieces more : List Piece}

/-- Before a given text, some characters are cut into some pieces. The bound that is left goes to
the text after them. -/
def Emits (cs : List Char) (pieces : List Piece) (tail : List Char) : Prop :=
  ∃ n ≤ cs.length, ∀ fuel,
    cutAll (n + fuel) (cs ++ tail) = (cutAll fuel tail).map (pieces ++ ·)

theorem emits_nil : Emits [] [] tail := by
  refine ⟨0, Nat.le_refl 0, fun fuel => ?_⟩
  rw [Nat.zero_add, List.nil_append]
  exact Option.map_id'.symm

theorem Emits.append (first : Emits cs pieces (ds ++ tail)) (second : Emits ds more tail) :
    Emits (cs ++ ds) (pieces ++ more) tail := by
  obtain ⟨m, short, cutFirst⟩ := first
  obtain ⟨n, short', cutSecond⟩ := second
  refine ⟨m + n, ?_, fun fuel => ?_⟩
  · rw [List.length_append]
    exact Nat.add_le_add short short'
  · rw [Nat.add_assoc, List.append_assoc, cutFirst, cutSecond, Option.map_map]
    congr 1
    funext pieces'
    exact (List.append_assoc ..).symm

theorem cutAll_of_data (plain : '<' ∉ cs) (fuel : Nat) (markup : List Char) :
    cutAll (fuel + 1) (cs ++ '<' :: markup) =
      (do
        let (piece, after) ← Piece.cut markup
        let pieces ← cutAll fuel after
        some (ofData cs ++ piece :: pieces)) := by
  have kept : ∀ c ∈ cs, decide (c ≠ '<') = true := by
    intro c mem
    exact decide_eq_true fun same => plain (same ▸ mem)
  have before : (cs ++ '<' :: markup).takeWhile (· ≠ '<') = cs := by
    rw [List.takeWhile_append_of_pos kept, List.takeWhile_cons_of_neg (by decide), List.append_nil]
  have after : (cs ++ '<' :: markup).dropWhile (· ≠ '<') = '<' :: markup := by
    rw [List.dropWhile_append_of_pos kept, List.dropWhile_cons_of_neg (by decide)]
  rw [cutAll, before, after]

theorem cutAll_of_markup (fuel : Nat) (markup : List Char) :
    cutAll (fuel + 1) ('<' :: markup) =
      (do
        let (piece, after) ← Piece.cut markup
        let pieces ← cutAll fuel after
        some (piece :: pieces)) :=
  cutAll_of_data List.not_mem_nil fuel markup

/-- Character data goes up to the next markup, and takes nothing of the bound. -/
theorem emits_data (plain : '<' ∉ cs) (tail : List Char) : Emits cs (ofData cs) ('<' :: tail) := by
  refine ⟨0, Nat.zero_le _, fun fuel => ?_⟩
  rw [Nat.zero_add]
  cases fuel with
  | zero => cases cs <;> rfl
  | succ fuel =>
      rw [cutAll_of_data plain, cutAll_of_markup]
      cases Piece.cut tail with
      | none => rfl
      | some cut =>
          simp only [Option.bind_eq_bind, Option.bind_some]
          cases cutAll fuel cut.2 <;> rfl

/-- A piece of markup takes one from the bound. -/
theorem emits_markup {piece : Piece} (cutOff : Piece.cut (cs ++ tail) = some (piece, tail)) :
    Emits ('<' :: cs) [piece] tail := by
  refine ⟨1, Nat.le_add_left 1 cs.length, fun fuel => ?_⟩
  rw [Nat.add_comm, List.cons_append, cutAll_of_markup, cutOff]
  simp only [Option.bind_eq_bind, Option.bind_some]
  cases cutAll fuel tail <;> rfl

/-- The bound is enough for what is cut into pieces with nothing after it. -/
theorem cutAll_of_emits (emits : Emits cs pieces []) : cutAll (cs.length + 1) cs = some pieces := by
  obtain ⟨n, short, cutOff⟩ := emits
  obtain ⟨spare, bound⟩ : ∃ spare, cs.length + 1 = n + (spare + 1) :=
    ⟨cs.length - n, by omega⟩
  have cut := cutOff (spare + 1)
  rw [← bound, List.append_nil] at cut
  rw [cut]
  simp [cutAll, ofData, trim, trimRight]

/-- What is cut into pieces with nothing after it is a document of these pieces. -/
theorem ofText_of_emits (emits : Emits ('<' :: cs) pieces []) :
    Piece.ofText (String.ofList ('<' :: cs)) = some pieces := by
  rw [ofText, String.toList_ofList]
  dsimp only
  rw [if_neg (by decide)]
  exact cutAll_of_emits emits

end Piece

/-! ## Cutting tags -/

theorem cutTag_append {cs : List Char} (plain : ∀ c ∈ cs, c ≠ '>' ∧ c ≠ '"' ∧ c ≠ '\'')
    (tail : List Char) : cutTag none (cs ++ '>' :: tail) = some (cs, tail) := by
  induction cs with
  | nil => rfl
  | cons c rest ih =>
      obtain ⟨⟨notEnd, notQuotes⟩, others⟩ := List.forall_mem_cons.1 plain
      rw [List.cons_append, cutTag]
      dsimp only
      rw [if_neg notEnd, if_neg (not_or.2 notQuotes), ih others]
      rfl

theorem cut_of_ne {c : Char} (bang : c ≠ '!') (question : c ≠ '?') (slash : c ≠ '/')
    (rest : List Char) :
    Piece.cut (c :: rest) =
      (cutTag none (c :: rest)).map fun (inside, after) => (.ofTag inside, after) := by
  unfold Piece.cut
  split
  case h_9 => rfl
  all_goals simp_all

namespace IsWord

variable {name : String} {c : Char}

theorem ne_of_mem (word : IsWord name) (mem : c ∈ name.toList) {mark : Char}
    (noLetter : mark.isAlpha = false) : c ≠ mark := by
  rintro rfl
  rw [List.all_eq_true.1 word.2 c mem] at noLetter
  cases noLetter

theorem isBlank_of_mem (word : IsWord name) (mem : c ∈ name.toList) : isBlank c = false := by
  simp only [isBlank, Bool.or_eq_false_iff, beq_eq_false_iff_ne]
  exact ⟨⟨⟨word.ne_of_mem mem rfl, word.ne_of_mem mem rfl⟩, word.ne_of_mem mem rfl⟩,
    word.ne_of_mem mem rfl⟩

theorem trimmed (word : IsWord name) : Trimmed name.toList where
  head := fun _ first => word.isBlank_of_mem (List.mem_of_head? first)
  last := fun _ last => word.isBlank_of_mem (List.mem_of_getLast? last)

theorem tagName (word : IsWord name) : Xml.tagName name.toList = name.toList := by
  rw [Xml.tagName, List.takeWhile_eq_self_iff]
  intro c mem
  rw [word.isBlank_of_mem mem]
  rfl

theorem closingName (word : IsWord name) : Xml.closingName name.toList = name.toList := by
  obtain ⟨c, rest, shape⟩ := List.exists_cons_of_ne_nil word.1
  have solid : name.toList.all isBlank = false := by
    rw [shape, List.all_cons, word.isBlank_of_mem (shape ▸ List.mem_cons_self), Bool.false_and]
  rw [Xml.closingName, solid, if_neg Bool.false_ne_true, trimRight_of_trimmed word.trimmed]

theorem localName (word : IsWord name) : Xml.localName name.toList = name := by
  rw [Xml.localName]
  cases cut : Text.cutFirst ':' name.toList with
  | none => exact String.ofList_toList
  | some parts =>
      have mem : ':' ∈ name.toList := by
        rw [Text.eq_append_of_cutFirst cut]
        exact List.mem_append_right _ List.mem_cons_self
      exact absurd rfl (word.ne_of_mem mem rfl)

/-- A tag that begins with a word goes up to its bracket. -/
theorem cut_append (word : IsWord name) {more : List Char}
    (plain : ∀ c ∈ more, c ≠ '>' ∧ c ≠ '"' ∧ c ≠ '\'') (tail : List Char) :
    Piece.cut (name.toList ++ (more ++ '>' :: tail)) =
      some (.ofTag (name.toList ++ more), tail) := by
  obtain ⟨c, rest, shape⟩ := List.exists_cons_of_ne_nil word.1
  have mem : c ∈ name.toList := shape ▸ List.mem_cons_self
  have inside : ∀ c ∈ name.toList ++ more, c ≠ '>' ∧ c ≠ '"' ∧ c ≠ '\'' := by
    intro c within
    rcases List.mem_append.1 within with mem | mem
    · exact ⟨word.ne_of_mem mem rfl, word.ne_of_mem mem rfl, word.ne_of_mem mem rfl⟩
    · exact plain c mem
  have cutOff := cutTag_append inside tail
  rw [← List.append_assoc]
  rw [shape, List.cons_append, List.cons_append] at cutOff ⊢
  rw [cut_of_ne (word.ne_of_mem mem rfl) (word.ne_of_mem mem rfl) (word.ne_of_mem mem rfl), cutOff]
  rfl

theorem cut_opening (word : IsWord name) (tail : List Char) :
    Piece.cut (name.toList ++ '>' :: tail) = some (.opening name.toList, tail) := by
  have cutOff := word.cut_append (List.forall_mem_nil _) tail
  have unslashed : name.toList.getLast? ≠ some '/' := fun last =>
    word.ne_of_mem (List.mem_of_getLast? last) rfl rfl
  rwa [List.nil_append, List.append_nil, Piece.ofTag, if_neg unslashed, word.tagName] at cutOff

theorem cut_empty (word : IsWord name) (tail : List Char) :
    Piece.cut (name.toList ++ '/' :: '>' :: tail) = some (.empty name.toList, tail) := by
  have cutOff := word.cut_append (List.forall_mem_singleton.2 (by decide : '/' ≠ '>' ∧ _)) tail
  rwa [Piece.ofTag, if_pos List.getLast?_concat, List.dropLast_concat, word.tagName] at cutOff

theorem cut_closing (word : IsWord name) (tail : List Char) :
    Piece.cut ('/' :: (name.toList ++ '>' :: tail)) = some (.closing name.toList, tail) := by
  have plain : ∀ c ∈ name.toList, c ≠ '>' ∧ c ≠ '"' ∧ c ≠ '\'' := fun _ mem =>
    ⟨word.ne_of_mem mem rfl, word.ne_of_mem mem rfl, word.ne_of_mem mem rfl⟩
  rw [Piece.cut, cutTag_append plain]
  exact congrArg (fun closed => some (Piece.closing closed, tail)) word.closingName

end IsWord

/-! ## Reading what was written -/

namespace Element

variable {short : Bool} {tail : List Char}

theorem exists_markup_eq (short : Bool) (element : Element) :
    ∃ more, element.markup short = '<' :: more := by
  cases element with
  | node name text children =>
      rw [markup]
      split
      · exact ⟨_, rfl⟩
      · exact ⟨_, rfl⟩

/-- Markup follows wherever elements are followed by markup. -/
theorem exists_markupAll_append (short : Bool) (elements : List Element) (tail : List Char) :
    ∃ more, markupAll short elements ++ '<' :: tail = '<' :: more := by
  cases elements with
  | nil => exact ⟨tail, rfl⟩
  | cons element rest =>
      obtain ⟨more, shape⟩ := exists_markup_eq short element
      rw [markupAll, shape]
      exact ⟨_, rfl⟩

/-- What is written is cut into the pieces of the element. -/
theorem Writable.emits_markup {element : Element} (writable : element.Writable)
    (tail : List Char) : Piece.Emits (element.markup short) (element.pieces short) tail := by
  induction writable generalizing tail with
  | @node name text children here below ih =>
      obtain ⟨word, trimmed⟩ := here
      have all (tail : List Char) :
          Piece.Emits (markupAll short children) (piecesAll short children) tail := by
        clear below
        induction children with
        | nil => exact Piece.emits_nil
        | cons child rest inner =>
            exact (ih child List.mem_cons_self _).append
              (inner fun other mem => ih other (List.mem_cons_of_mem _ mem))
      rw [markup, pieces]
      split
      · apply Piece.emits_markup
        rw [List.append_assoc]
        exact word.cut_empty tail
      · have closing : Piece.Emits ('<' :: '/' :: (name.toList ++ ['>']))
            [.closing name.toList] tail := by
          apply Piece.emits_markup
          rw [List.cons_append, List.append_assoc]
          exact word.cut_closing tail
        have inner := (all _).append closing
        have data : Piece.Emits (escape text.toList) (Piece.ofData (escape text.toList))
            (markupAll short children ++ '<' :: '/' :: (name.toList ++ ['>']) ++ tail) := by
          rw [List.append_assoc]
          obtain ⟨more, follows⟩ := exists_markupAll_append short children
            ('/' :: (name.toList ++ ['>']) ++ tail)
          rw [List.cons_append, follows]
          exact Piece.emits_data (notMem_escape text.toList) more
        have opening (rest : List Char) :
            Piece.Emits ('<' :: (name.toList ++ ['>'])) [.opening name.toList] rest := by
          apply Piece.emits_markup
          rw [List.append_assoc]
          exact word.cut_opening rest
        have whole := (opening _).append (data.append inner)
        rwa [List.cons_append, List.append_assoc] at whole

/-! ## Nesting -/

/-- The pieces of elements add them one by one to what is open. -/
theorem foldlM_piecesAll {elements : List Element}
    (each : ∀ element ∈ elements, ∀ n : Nesting,
      (element.pieces short).foldlM Nesting.step n = some (n.attach element)) (n : Nesting) :
    (piecesAll short elements).foldlM Nesting.step n =
      some (elements.foldl (fun n element => Nesting.attach element n) n) := by
  induction elements generalizing n with
  | nil => rfl
  | cons element rest ih =>
      rw [piecesAll, List.foldlM_append, each element List.mem_cons_self]
      exact ih (fun other mem => each other (List.mem_cons_of_mem _ mem)) _

theorem foldl_attach (elements : List Element) (roots : List Element) (inner : OpenElement)
    (outer : List OpenElement) :
    elements.foldl (fun n element => Nesting.attach element n) ⟨roots, inner :: outer⟩ =
      ⟨roots, ⟨inner.name, inner.text, inner.children ++ elements⟩ :: outer⟩ := by
  induction elements generalizing inner with
  | nil => rw [List.append_nil]; rfl
  | cons element rest ih =>
      rw [List.foldl_cons]
      refine (ih _).trans ?_
      rw [List.append_assoc]
      rfl

/-- The data of a text without blanks at its ends adds the text. -/
theorem foldlM_ofData {text : List Char} (trimmed : Trimmed text) (n : Nesting) :
    (Piece.ofData (escape text)).foldlM Nesting.step n = some (n.write text) := by
  rw [Piece.ofData, trim_of_trimmed (trimmed_escape trimmed)]
  cases text with
  | nil =>
      obtain ⟨roots, opened⟩ := n
      cases opened with
      | nil => rfl
      | cons inner outer =>
          rw [Nesting.write]
          dsimp only
          rw [List.append_nil]
          rfl
  | cons c rest =>
      have filled : (escape (c :: rest)).isEmpty = false := by
        rw [List.isEmpty_eq_false_iff, escape, List.flatMap_cons]
        exact List.append_ne_nil_of_left_ne_nil (escapeChar_ne_nil c) _
      rw [filled, if_neg Bool.false_ne_true, List.foldlM_cons, Nesting.step, unescape_escape]
      rfl

/-- The pieces of an element nest into the element. -/
theorem Writable.foldlM_pieces {element : Element} (writable : element.Writable) (n : Nesting) :
    (element.pieces short).foldlM Nesting.step n = some (n.attach element) := by
  induction writable generalizing n with
  | @node name text children here below ih =>
      obtain ⟨word, trimmed⟩ := here
      rw [pieces]
      split
      next bare =>
        simp only [Bool.and_eq_true, List.isEmpty_iff] at bare
        obtain ⟨⟨-, empty⟩, rfl⟩ := bare
        have closed : OpenElement.close ⟨name.toList, [], []⟩ = .node name text [] := by
          rw [OpenElement.close, word.localName, String.isEmpty_iff.1 empty]
        rw [List.foldlM_cons, Nesting.step, closed]
        rfl
      next =>
        have closed : OpenElement.close ⟨name.toList, text.toList, children⟩ =
            .node name text children := by
          rw [OpenElement.close, word.localName, String.ofList_toList]
        obtain ⟨roots, opened⟩ := n
        simp only [List.foldlM_cons, List.foldlM_append, List.foldlM_nil, Nesting.step,
          Option.bind_eq_bind, Option.bind_some, foldlM_ofData trimmed, foldlM_piecesAll ih,
          Nesting.write, foldl_attach, List.nil_append, if_true, closed]
        rfl

/-- Reading a written element gives the element. -/
theorem Writable.ofText_markup {element : Element} (writable : element.Writable) :
    Element.ofText (String.ofList (element.markup short)) = .ok [element] := by
  have emits : Piece.Emits (element.markup short) (element.pieces short) [] :=
    writable.emits_markup []
  obtain ⟨cs, shape⟩ := exists_markup_eq short element
  rw [shape] at emits ⊢
  rw [Element.ofText, Piece.ofText_of_emits emits]
  dsimp only
  rw [Element.ofPieces, writable.foldlM_pieces]
  rfl

end Element

end StackDeploy.Xml
