/-
# Shape of decoded documents

The value of a document is made of texts, of objects that are not empty, and of arrays that stand
under a name of an object and hold two values or more, none of which is an array. That an array
stands only for several children of one name is what its readers rely on, and what lets a document
be decoded without building its elements: while the pieces come in, every open element keeps the
members of its value, and an array under a name is itself the mark that the name came before. This
module gives that decoding, shows that it decodes every text like the decoding by elements, and
follows the shape through it piece by piece.
-/

import StackDeploy.Proofs.Xml.Children

namespace StackDeploy.Xml

open Json (Value Members)

/-! ## The shape -/

mutual

/-- The shape of the value of an element: a text, or an object that is not empty. -/
inductive ElementShape : Value → Prop
  | text (s : String) : ElementShape (.string s)
  | object {members : Members} (filled : members ≠ [])
      (each : ∀ member ∈ members, GroupShape member.2) : ElementShape (.object members)

/-- The shape of what a name holds: the value of one element, or an array of several. -/
inductive GroupShape : Value → Prop
  | one {value : Value} (shape : ElementShape value) : GroupShape value
  | several {items : List Value} (many : 2 ≤ items.length)
      (each : ∀ item ∈ items, ElementShape item) : GroupShape (.array items)

end

/-- The members of a value in which every name holds one value of an element or several. -/
def MembersShape (members : Members) : Prop :=
  ∀ member ∈ members, GroupShape member.2

/-- A value stands somewhere in another one, or is that value. -/
inductive Part (part : Value) : Value → Prop
  | here : Part part part
  | item {items : List Value} {item : Value} (mem : item ∈ items) (inside : Part part item) :
      Part part (.array items)
  | member {members : Members} {member : String × Value} (mem : member ∈ members)
      (inside : Part part member.2) : Part part (.object members)

/-- What a value at some depth looks like by itself: it is no null, flag or number, an array in it
holds two items or more and none that is an array, and an object is not empty. -/
def LooksDecoded : Value → Prop
  | .null | .bool _ | .number _ => False
  | .string _ => True
  | .array items => 2 ≤ items.length ∧ ∀ item ∈ items, ∀ inner, item ≠ .array inner
  | .object members => members ≠ []

theorem ElementShape.ne_array {value : Value} (shape : ElementShape value) (items : List Value) :
    value ≠ .array items := by
  cases shape <;> exact nofun

theorem GroupShape.looksDecoded {value : Value} (shape : GroupShape value) :
    LooksDecoded value := by
  cases shape with
  | one shape =>
      cases shape with
      | text s => trivial
      | object filled each => exact filled
  | several many each => exact ⟨many, fun item mem => (each item mem).ne_array⟩

/-- Every part of a value of the shape has it too. -/
theorem GroupShape.part {value part : Value} (shape : GroupShape value)
    (inside : Part part value) : GroupShape part := by
  induction inside with
  | here => exact shape
  | item mem _ ih =>
      cases shape with
      | one shape => exact absurd rfl (shape.ne_array _)
      | several many each => exact ih (.one (each _ mem))
  | member mem _ ih =>
      cases shape with
      | one shape =>
          cases shape with
          | object filled each => exact ih (each _ mem)

/-- What a name gives has the shape of what a name holds. -/
theorem GroupShape.of_get? {value held : Value} {name : String} (shape : GroupShape value)
    (found : value.get? name = some held) : GroupShape held := by
  cases shape with
  | one shape =>
      cases shape with
      | text s => cases found
      | object filled each =>
          rw [Value.get?, Members.get?_eq_lookupEntry] at found
          exact each _ (NameMap.mem_of_lookupEntry found)
  | several many each => cases found

/-- What is read as the members of a list is the value of one element each: an array is there only
for several of them, so the only member of a list is never taken apart. -/
theorem GroupShape.of_mem_members {value item : Value} (shape : GroupShape value)
    (listed : item ∈ CloudFormation.members (some value)) : ElementShape item := by
  rw [CloudFormation.members, Option.bind_some] at listed
  cases found : value.get? "member" with
  | none =>
      rw [found] at listed
      cases listed
  | some held =>
      rw [found] at listed
      cases shape.of_get? found with
      | several many each => exact each item listed
      | one single =>
          have alone : item ∈ [held] := by
            cases single <;> exact listed
          rw [List.mem_singleton.1 alone]
          exact single

/-! ## Members that grow -/

/-- What a name holds once one more value comes: an array takes it in, and anything else becomes
the first item of an array. -/
def join (value : Value) : Value → Value
  | .array items => .array (items ++ [value])
  | first => .array [first, value]

/-- Puts the value of a child under its name, behind the values that are there. -/
def insertChild (name : String) (value : Value) : Members → Members
  | [] => [(name, value)]
  | (other, held) :: rest =>
    if other = name then (other, join value held) :: rest
    else (other, held) :: insertChild name value rest

theorem join_of_ne_array {value first : Value} (single : ∀ items, first ≠ .array items) :
    join value first = .array [first, value] := by
  cases first with
  | array items => exact absurd rfl (single items)
  | _ => rfl

theorem GroupShape.join {value held : Value} (shape : GroupShape held)
    (added : ElementShape value) : GroupShape (join value held) := by
  cases shape with
  | one shape =>
      rw [join_of_ne_array shape.ne_array]
      refine .several (Nat.le_refl 2) fun item mem => ?_
      rcases List.mem_cons.1 mem with rfl | last
      · exact shape
      · rw [List.mem_singleton.1 last]
        exact added
  | several many each =>
      refine .several ?_ fun item mem => ?_
      · rw [List.length_append]
        exact Nat.le_add_right_of_le many
      · rcases List.mem_append.1 mem with earlier | last
        · exact each item earlier
        · rw [List.mem_singleton.1 last]
          exact added

theorem MembersShape.insertChild {members : Members} {name : String} {value : Value}
    (shape : MembersShape members) (added : ElementShape value) :
    MembersShape (insertChild name value members) := by
  induction members with
  | nil =>
      intro member mem
      rw [List.mem_singleton.1 mem]
      exact .one added
  | cons first rest ih =>
      obtain ⟨held, later⟩ := List.forall_mem_cons.1 shape
      rw [Xml.insertChild]
      split
      · exact List.forall_mem_cons.2 ⟨held.join added, later⟩
      · exact List.forall_mem_cons.2 ⟨held, ih later⟩

/-- An array under a name is a sure mark of several values as long as no single value is an
array. -/
theorem map_collapse_file {name : String} {value : Value} {filed : List (String × List Value)}
    (filled : ∀ group ∈ filed, group.2 ≠ [])
    (single : ∀ group ∈ filed, ∀ held ∈ group.2, ∀ items, held ≠ .array items) :
    (file name value filed).map (fun group => (group.1, collapse group.2)) =
      insertChild name value (filed.map fun group => (group.1, collapse group.2)) := by
  induction filed with
  | nil => rfl
  | cons group rest ih =>
      obtain ⟨other, values⟩ := group
      obtain ⟨filled_first, filled_rest⟩ := List.forall_mem_cons.1 filled
      obtain ⟨single_first, single_rest⟩ := List.forall_mem_cons.1 single
      rw [file, List.map_cons, insertChild]
      split
      · have joined : collapse (values ++ [value]) = join value (collapse values) := by
          cases values with
          | nil => exact absurd rfl filled_first
          | cons first others =>
              cases others with
              | nil => exact (join_of_ne_array (single_first first List.mem_cons_self)).symm
              | cons second more => rfl
        rw [List.map_cons, joined]
      · rw [List.map_cons, ih filled_rest single_rest]

/-- The members that some children are gathered into grow child by child. -/
theorem gather_concat {children : List (String × Value)} {name : String} {value : Value}
    (single : ∀ child ∈ children, ∀ items, child.2 ≠ .array items) :
    gather (children ++ [(name, value)]) = insertChild name value (gather children) := by
  have grouped (children : List (String × Value)) :
      gather children = (groups children).map fun group => (group.1, collapse group.2) :=
    Value.object.inj (objectOf_eq children).symm
  have mem_groups {group : String × List Value} (mem : group ∈ groups children) :
      group.1 ∈ children.map Prod.fst ∧ group.2 = valuesOf group.1 children := by
    rw [groups_eq, List.mem_map] at mem
    obtain ⟨name, mem, rfl⟩ := mem
    exact ⟨List.mem_eraseDups.1 mem, rfl⟩
  have step : groups (children ++ [(name, value)]) = file name value (groups children) :=
    List.foldl_concat ..
  rw [grouped, grouped, step]
  refine map_collapse_file (fun group mem => ?_) fun group mem held there => ?_
  · obtain ⟨known, values⟩ := mem_groups mem
    rw [values]
    exact fun none => valuesOf_eq_nil_iff.1 none known
  · obtain ⟨-, values⟩ := mem_groups mem
    rw [values] at there
    exact single _ (mem_valuesOf_iff.1 there)

theorem gather_toMembers_concat (elements : List Element) (element : Element) :
    gather (Element.toMembers (elements ++ [element])) =
      insertChild element.tag element.toValue (gather (Element.toMembers elements)) := by
  rw [Element.toMembers_eq, Element.toMembers_eq, List.map_append, List.map_singleton]
  refine gather_concat fun child mem => ?_
  obtain ⟨element, -, rfl⟩ := List.mem_map.1 mem
  exact element.toValue_ne_array

/-! ## Decoding piece by piece -/

/-- An element whose end has not been reached, with the members that its value has so far. -/
structure Frame where
  name : List Char
  text : List Char
  members : Members

/-- The value of the element if it ends here. -/
def Frame.value (f : Frame) : Value :=
  if f.members.isEmpty then .string (String.ofList f.text) else .object f.members

/-- What has been decoded of a document: the members of the value so far, and the open elements
from the inside out. -/
structure Decoding where
  members : Members
  opened : List Frame

namespace Decoding

/-- Nothing decoded yet. -/
def start : Decoding := ⟨[], []⟩

/-- Puts the value of an element where it belongs. -/
def attach (name : String) (value : Value) (d : Decoding) : Decoding :=
  match d.opened with
  | [] => { d with members := insertChild name value d.members }
  | inner :: outer =>
    { d with opened := { inner with members := insertChild name value inner.members } :: outer }

/-- Adds text to the innermost open element. -/
def write (text : List Char) (d : Decoding) : Decoding :=
  match d.opened with
  | [] => d
  | inner :: outer => { d with opened := { inner with text := inner.text ++ text } :: outer }

/-- Takes one more piece. -/
def step (d : Decoding) (piece : Piece) : Option Decoding :=
  match piece with
  | .opening name => some { d with opened := ⟨name, [], []⟩ :: d.opened }
  | .empty name => some (d.attach (localName name) (Frame.value ⟨name, [], []⟩))
  | .closing name =>
    match d.opened with
    | [] => none
    | inner :: outer =>
      if name = inner.name then
        some (attach (localName inner.name) inner.value { d with opened := outer })
      else none
  | .data text => (unescape text).map d.write
  | .verbatim text => some (d.write text)
  | .aside => some d

/-- The value of a document that is complete. -/
def finish (d : Decoding) : Except XmlError Value :=
  if !d.opened.isEmpty then .error .unexpectedEnd
  else if d.members.isEmpty then .error .noRoot
  else .ok (.object d.members)

/-- The value that pieces decode to. -/
def ofPieces (pieces : List Piece) : Except XmlError Value :=
  match pieces.foldlM step start with
  | none => .error .malformed
  | some decoding => decoding.finish

end Decoding

/-! ## The two ways of decoding -/

/-- An open element with the members that its children are gathered into. -/
def OpenElement.frame (e : OpenElement) : Frame :=
  ⟨e.name, e.text, gather (Element.toMembers e.children)⟩

/-- The children that have been read, gathered into members. -/
def Nesting.decoding (n : Nesting) : Decoding :=
  ⟨gather (Element.toMembers n.roots), n.opened.map OpenElement.frame⟩

theorem isEmpty_gather_toMembers (elements : List Element) :
    (gather (Element.toMembers elements)).isEmpty = elements.isEmpty := by
  cases elements with
  | nil => rfl
  | cons first rest =>
      rw [gather, Element.toMembers_eq, List.map_cons, List.map_cons, List.eraseDups_cons]
      rfl

theorem OpenElement.value_frame (e : OpenElement) : e.frame.value = e.close.toValue := by
  obtain ⟨name, text, children⟩ := e
  rw [frame, Frame.value, isEmpty_gather_toMembers, close]
  cases children with
  | nil => rfl
  | cons first rest =>
      rw [Element.toValue, objectOf_eq]
      rfl

namespace Nesting

theorem decoding_attach (element : Element) (n : Nesting) :
    (n.attach element).decoding = n.decoding.attach element.tag element.toValue := by
  obtain ⟨roots, opened⟩ := n
  cases opened with
  | nil =>
      show Decoding.mk (gather (Element.toMembers (roots ++ [element]))) [] = _
      rw [gather_toMembers_concat]
      rfl
  | cons inner outer =>
      show Decoding.mk _ (⟨_, _, gather (Element.toMembers (inner.children ++ [element]))⟩ :: _) = _
      rw [gather_toMembers_concat]
      rfl

theorem decoding_write (text : List Char) (n : Nesting) :
    (n.write text).decoding = n.decoding.write text := by
  obtain ⟨roots, opened⟩ := n
  cases opened <;> rfl

/-- A piece does the same to both. -/
theorem decoding_step (n : Nesting) (piece : Piece) :
    (n.step piece).map decoding = n.decoding.step piece := by
  cases piece with
  | opening name => rfl
  | empty name =>
      show some (n.attach _).decoding = _
      rw [decoding_attach]
      rfl
  | closing name =>
      obtain ⟨roots, opened⟩ := n
      cases opened with
      | nil => rfl
      | cons inner outer =>
          show Option.map decoding (if name = inner.name then _ else _) =
            if name = inner.name then _ else _
          split
          · rw [Option.map_some, decoding_attach, ← OpenElement.value_frame]
            rfl
          · rfl
  | data text =>
      show Option.map decoding (Option.map _ (unescape text)) = Option.map _ (unescape text)
      rw [Option.map_map]
      congr 1
      funext text
      exact decoding_write text n
  | verbatim text =>
      show some (n.write text).decoding = _
      rw [decoding_write]
      rfl
  | aside => rfl

/-- So do pieces one after the other. -/
theorem decoding_foldlM (n : Nesting) (pieces : List Piece) :
    (pieces.foldlM step n).map decoding = pieces.foldlM Decoding.step n.decoding := by
  induction pieces generalizing n with
  | nil => rfl
  | cons piece rest ih =>
      rw [List.foldlM_cons, List.foldlM_cons, ← decoding_step]
      cases n.step piece with
      | none => rfl
      | some after => exact ih after

/-- A document is complete or not in both. -/
theorem decoding_finish (n : Nesting) :
    n.finish.map (fun roots => objectOf (Element.toMembers roots)) = n.decoding.finish := by
  obtain ⟨roots, opened⟩ := n
  rw [finish, Decoding.finish, decoding]
  dsimp only
  rw [isEmpty_gather_toMembers, List.isEmpty_map]
  split
  · rfl
  · split
    · rfl
    · rw [Except.map, objectOf_eq]

end Nesting

/-- Decoding piece by piece gives the value of the elements that the pieces nest into, and fails
where they nest into none. -/
theorem ofPieces_eq (pieces : List Piece) :
    (Element.ofPieces pieces).map (fun roots => objectOf (Element.toMembers roots)) =
      Decoding.ofPieces pieces := by
  have started : Nesting.start.decoding = Decoding.start := rfl
  rw [Element.ofPieces, Decoding.ofPieces, ← started, ← Nesting.decoding_foldlM]
  cases pieces.foldlM Nesting.step Nesting.start with
  | none => rfl
  | some nesting => exact nesting.decoding_finish

/-! ## The shape, piece by piece -/

namespace Decoding

/-- Every name that has come so far, at the top or in an open element, holds one value of an
element or several. -/
structure Shaped (d : Decoding) : Prop where
  members : MembersShape d.members
  opened : ∀ frame ∈ d.opened, MembersShape frame.members

theorem shaped_start : start.Shaped :=
  ⟨List.forall_mem_nil _, List.forall_mem_nil _⟩

theorem elementShape_value {f : Frame} (shape : MembersShape f.members) :
    ElementShape f.value := by
  rw [Frame.value]
  split
  · exact .text _
  · next filled => exact .object (fun none => filled (List.isEmpty_iff.2 none)) shape

variable {d after : Decoding}

theorem Shaped.attach (shaped : d.Shaped) {name : String} {value : Value}
    (shape : ElementShape value) : (d.attach name value).Shaped := by
  obtain ⟨members, opened⟩ := d
  cases opened with
  | nil => exact ⟨shaped.members.insertChild shape, shaped.opened⟩
  | cons inner outer =>
      obtain ⟨first, later⟩ := List.forall_mem_cons.1 shaped.opened
      exact ⟨shaped.members, List.forall_mem_cons.2 ⟨first.insertChild shape, later⟩⟩

theorem Shaped.write (shaped : d.Shaped) (text : List Char) : (d.write text).Shaped := by
  obtain ⟨members, opened⟩ := d
  cases opened with
  | nil => exact shaped
  | cons inner outer =>
      exact ⟨shaped.members, List.forall_mem_cons.2 (List.forall_mem_cons.1 shaped.opened)⟩

/-- Every piece keeps the shape. -/
theorem Shaped.step (shaped : d.Shaped) {piece : Piece} (taken : d.step piece = some after) :
    after.Shaped := by
  cases piece with
  | opening name =>
      cases taken
      exact ⟨shaped.members, List.forall_mem_cons.2 ⟨List.forall_mem_nil _, shaped.opened⟩⟩
  | empty name =>
      cases taken
      exact shaped.attach (.text _)
  | closing name =>
      obtain ⟨members, opened⟩ := d
      cases opened with
      | nil => cases taken
      | cons inner outer =>
          obtain ⟨first, later⟩ := List.forall_mem_cons.1 shaped.opened
          rw [Decoding.step] at taken
          dsimp only at taken
          split at taken
          · cases taken
            have outside : Shaped ⟨members, outer⟩ := ⟨shaped.members, later⟩
            exact outside.attach (elementShape_value first)
          · cases taken
  | data text =>
      obtain ⟨resolved, -, rfl⟩ := Option.map_eq_some_iff.1 taken
      exact shaped.write resolved
  | verbatim text =>
      cases taken
      exact shaped.write text
  | aside =>
      cases taken
      exact shaped

/-- So do pieces one after the other, whether or not they make up a whole document. -/
theorem Shaped.foldlM (shaped : d.Shaped) {pieces : List Piece}
    (taken : pieces.foldlM Decoding.step d = some after) : after.Shaped := by
  induction pieces generalizing d with
  | nil =>
      cases taken
      exact shaped
  | cons piece rest ih =>
      rw [List.foldlM_cons] at taken
      obtain ⟨next, first, later⟩ := Option.bind_eq_some_iff.1 taken
      exact ih (shaped.step first) later

theorem Shaped.finish (shaped : d.Shaped) {value : Value} (finished : d.finish = .ok value) :
    ∃ members, value = .object members ∧ members ≠ [] ∧ MembersShape members := by
  rw [Decoding.finish] at finished
  split at finished
  · cases finished
  · split at finished
    · cases finished
    · next filled =>
        cases finished
        exact ⟨d.members, rfl, fun none => filled (List.isEmpty_iff.2 none), shaped.members⟩

end Decoding

/-- What a text decodes to is what its pieces decode to. -/
theorem ofPieces_of_valueOfText {body : String} {value : Value}
    (decoded : valueOfText body = .ok value) :
    ∃ pieces, Piece.ofText body = some pieces ∧ Decoding.ofPieces pieces = .ok value := by
  rw [valueOfText, Element.ofText] at decoded
  cases cut : Piece.ofText body with
  | none =>
      rw [cut] at decoded
      cases decoded
  | some pieces =>
      rw [cut] at decoded
      exact ⟨pieces, rfl, (ofPieces_eq pieces).symm.trans decoded⟩

/-- The value of every text that decodes is an object that is not empty, in which every name holds
the value of one element or an array of several. So no part of it, at any depth, is a null, a flag
or a number, an array with fewer than two items or with an array among them, or an empty object;
and the members of any part that is read as a list are values of one element each. -/
theorem decoded_value_has_shape {body : String} {value : Value}
    (decoded : valueOfText body = .ok value) :
    (∃ members, value = .object members ∧ members ≠ [] ∧
      ∀ member ∈ members, GroupShape member.2) ∧
        (∀ part, Part part value → LooksDecoded part) ∧
          ∀ list, Part list value → ∀ item ∈ CloudFormation.members (some list),
            ElementShape item := by
  obtain ⟨pieces, -, decoded⟩ := ofPieces_of_valueOfText decoded
  unfold Decoding.ofPieces at decoded
  cases run : pieces.foldlM Decoding.step Decoding.start with
  | none =>
      rw [run] at decoded
      cases decoded
  | some reached =>
      rw [run] at decoded
      have shaped : reached.Shaped := Decoding.shaped_start.foldlM run
      obtain ⟨members, rfl, filled, each⟩ := shaped.finish decoded
      have shape : GroupShape (.object members) := .one (.object filled each)
      exact ⟨⟨members, rfl, filled, each⟩, fun part inside => (shape.part inside).looksDecoded,
        fun list inside item => (shape.part inside).of_mem_members⟩

/-- A list of three members, of which the second is empty, and an empty root beside the list. -/
theorem listed_members_have_shape :
    let body := "<List><member>1</member><member/><member><Id>3</Id></member></List><End/>"
    let items : List Value := [.string "1", .string "", .object [("Id", .string "3")]]
    let list : Value := .object [("member", .array items)]
    let value : Value := .object [("List", list), ("End", .string "")]
    valueOfText body = .ok value ∧ LooksDecoded (.array items) ∧
      CloudFormation.members (some list) = items ∧ ∀ item ∈ items, ElementShape item := by
  intro body items list value
  have decoded : valueOfText body = .ok value := by decide +kernel
  have inside : Part list value := .member List.mem_cons_self .here
  have array : Part (.array items) value := .member List.mem_cons_self
    (.member List.mem_cons_self .here)
  obtain ⟨-, looks, listed⟩ := decoded_value_has_shape decoded
  exact ⟨decoded, looks _ array, rfl, listed list inside⟩

end StackDeploy.Xml
