/-
# Error envelopes in XML

An error envelope is an element with the name of one that states a code. It is searched for in the
value of a document, where siblings of one name have become an array, and arrays are not looked
into. So an envelope is found along those elements that are alone with their name among their
siblings, from a root down to the envelope itself; the answer is then an error of the provider,
whatever the status says. An envelope below a repeated element is not seen, and its document is
taken for an answer. Nor is any envelope seen in a document behind a byte order mark or other text:
such a body is not told to be XML.
-/

import StackDeploy.Proofs.Xml.Children
import StackDeploy.Provider.Response

namespace StackDeploy

open Json (Value Members)

namespace Xml.Element

/-! ## Envelopes in elements -/

/-- The text of an element without children. -/
def leafText? : Element → Option String
  | node _ text [] => some text
  | node _ _ (_ :: _) => none

/-- The only element of a name. -/
def only (name : String) (elements : List Element) : Option Element :=
  match elements.filter fun element => element.tag == name with
  | [element] => some element
  | _ => none

/-- The text of the only element of a name, if that has no children. -/
def onlyLeaf (name : String) (elements : List Element) : Option String :=
  (only name elements).bind leafText?

/-- The envelope that an element is. -/
def envelope? (element : Element) : Option Envelope :=
  if element.tag = "Error" then
    (onlyLeaf "Code" element.children).map fun code =>
      ⟨code, (onlyLeaf "Message" element.children).getD ""⟩
  else none

/-- An element stands among some elements or below one of them. -/
inductive Occurs (element : Element) : List Element → Prop
  | here {elements : List Element} (mem : element ∈ elements) : Occurs element elements
  | deeper {outer : Element} {elements : List Element} (mem : outer ∈ elements)
      (inside : Occurs element outer.children) : Occurs element elements

/-- An element stands among some elements, or below one of them, and neither it nor an element
around it has a sibling of its name. -/
inductive Exposed (element : Element) : List Element → Prop
  | here {elements : List Element} (lone : only element.tag elements = some element) :
      Exposed element elements
  | deeper {outer : Element} {elements : List Element} (lone : only outer.tag elements = some outer)
      (inside : Exposed element outer.children) : Exposed element elements

section

variable {element : Element} {elements : List Element} {name : String}

theorem filter_eq_of_only (lone : only name elements = some element) :
    (elements.filter fun element => element.tag == name) = [element] := by
  rw [only] at lone
  split at lone
  next filtered => rw [filtered, Option.some.inj lone]
  next => cases lone

theorem mem_of_only (lone : only name elements = some element) :
    element ∈ elements ∧ element.tag = name := by
  have mem : element ∈ elements.filter fun element => element.tag == name := by
    rw [filter_eq_of_only lone]
    exact List.mem_singleton_self element
  obtain ⟨mem, named⟩ := List.mem_filter.1 mem
  exact ⟨mem, beq_iff_eq.1 named⟩

theorem tag_of_envelope? (is : element.envelope? ≠ none) : element.tag = "Error" := by
  by_contra other
  exact is (if_neg other)

theorem Exposed.occurs (exposed : Exposed element elements) : Occurs element elements := by
  induction exposed with
  | here lone => exact .here (mem_of_only lone).1
  | deeper lone _ ih => exact .deeper (mem_of_only lone).1 ih

theorem Occurs.every {P : String → String → Prop} (occurs : Occurs element elements)
    (every : ∀ outer ∈ elements, outer.Every P) : element.Every P := by
  induction occurs with
  | here mem => exact every element mem
  | deeper mem _ ih =>
      cases every _ mem with
      | node _ below => exact ih below

end

/-- A property holds of an element if it passes from the children of every element to the element
around them. -/
theorem induction_children {P : Element → Prop}
    (step : ∀ element : Element, (∀ child ∈ element.children, P child) → P element)
    (element : Element) : P element :=
  step element fun child _ => induction_children step child
termination_by sizeOf element
decreasing_by
  next mem =>
    cases element with
    | node name text children =>
        have smaller := List.sizeOf_lt_of_mem mem
        rw [node.sizeOf_spec]
        exact Nat.lt_of_lt_of_le smaller (Nat.le_add_left _ _)

/-! ## The search -/

theorem findInMembers_eq (members : Members) :
    Envelope.findInMembers members =
      members.findSome? fun member => Envelope.findInXml member.2 := by
  induction members with
  | nil => rw [Envelope.findInMembers, List.findSome?_nil]
  | cons member rest ih =>
      rw [Envelope.findInMembers, List.findSome?_cons, ih]
      cases Envelope.findInXml member.2 <;> rfl

/-- The text of a member of the value of an element is that of the only child of its name. -/
theorem textOf_toValue (name : String) (element : Element) :
    Envelope.textOf name element.toValue = onlyLeaf name element.children := by
  rw [Envelope.textOf, get?_toValue, valuesOf, onlyLeaf, only]
  generalize (element.children.filter fun child => child.tag == name) = named
  cases named with
  | nil => rfl
  | cons first rest =>
      cases rest with
      | nil =>
          cases first with
          | node name text children => cases children <;> rfl
      | cons second others => rfl

/-- The value of some elements has an error member that is an envelope if the only element of that
name is one. -/
theorem ofErrorMember_gather (elements : List Element) :
    Envelope.ofErrorMember (gather (toMembers elements)) =
      (only "Error" elements).bind envelope? := by
  have looked : (gather (toMembers elements)).get? "Error" =
      grouped (valuesOf "Error" elements) := by
    rw [← valuesOf_toMembers, ← get?_objectOf, objectOf_eq]
    rfl
  rw [Envelope.ofErrorMember, looked]
  cases lone : only "Error" elements with
  | some element =>
      rw [valuesOf, filter_eq_of_only lone, Option.bind_some, envelope?,
        if_pos (mem_of_only lone).2, ← textOf_toValue, ← textOf_toValue]
      cases element with
      | node name text children => cases children <;> rfl
  | none =>
      rw [only] at lone
      rw [valuesOf]
      generalize (elements.filter fun element => element.tag == "Error") = named at lone
      cases named with
      | nil => rfl
      | cons first rest =>
          cases rest with
          | nil => cases lone
          | cons second others => rfl

/-- The search looks at the only element with the name of an envelope, and then into the elements
that are alone with their names. -/
theorem findInXml_eq (elements : List Element) :
    Envelope.findInXml (objectOf (toMembers elements)) =
      ((only "Error" elements).bind envelope?).or
        ((elements.map tag).eraseDups.findSome? fun name =>
          (only name elements).bind fun element => Envelope.findInXml element.toValue) := by
  have members : Envelope.findInMembers (gather (toMembers elements)) =
      (elements.map tag).eraseDups.findSome? fun name =>
        (only name elements).bind fun element => Envelope.findInXml element.toValue := by
    have tags : (toMembers elements).map Prod.fst = elements.map tag := by
      rw [toMembers_eq, List.map_map]
      rfl
    rw [findInMembers_eq, gather, tags, List.findSome?_map]
    congr 1
    funext name
    rw [Function.comp_apply, valuesOf_toMembers, valuesOf, only]
    generalize (elements.filter fun element => element.tag == name) = named
    cases named with
    | nil => rfl
    | cons first rest => cases rest <;> rfl
  rw [objectOf_eq, Envelope.findInXml, ofErrorMember_gather, members]
  cases (only "Error" elements).bind envelope? <;> rfl

/-- The value of an element holds what its children hold. -/
theorem findInXml_toValue_eq (element : Element) :
    Envelope.findInXml element.toValue =
      Envelope.findInXml (objectOf (toMembers element.children)) := by
  cases element with
  | node name text children => cases children <;> rfl

/-- What is found is an envelope that can be seen. -/
theorem exists_exposed_of_findInXml {elements : List Element} {envelope : Envelope}
    (found : Envelope.findInXml (objectOf (toMembers elements)) = some envelope) :
    ∃ element, Exposed element elements ∧ element.envelope? = some envelope := by
  -- the elements are taken as the children of one element, so that the induction can go down
  suffices below : ∀ outer : Element,
      Envelope.findInXml (objectOf (toMembers outer.children)) = some envelope →
      ∃ element, Exposed element outer.children ∧ element.envelope? = some envelope from
    below (.node "" "" elements) found
  clear found
  intro outer found
  induction outer using induction_children with
  | step outer ih =>
      rw [findInXml_eq, Option.or_eq_some_iff] at found
      obtain here | ⟨-, deeper⟩ := found
      · obtain ⟨error, lone, is⟩ := Option.bind_eq_some_iff.1 here
        rw [← (mem_of_only lone).2] at lone
        exact ⟨error, .here lone, is⟩
      · obtain ⟨name, -, found⟩ := List.exists_of_findSome?_eq_some deeper
        obtain ⟨child, lone, below⟩ := Option.bind_eq_some_iff.1 found
        obtain ⟨mem, rfl⟩ := mem_of_only lone
        rw [findInXml_toValue_eq] at below
        obtain ⟨element, exposed, is⟩ := ih child mem below
        exact ⟨element, .deeper lone exposed, is⟩

/-- An envelope that can be seen is found, or another one is. -/
theorem Exposed.findInXml_ne_none {inner : Element} {elements : List Element}
    (exposed : Exposed inner elements) (is : inner.envelope? ≠ none) :
    Envelope.findInXml (objectOf (toMembers elements)) ≠ none := by
  rw [findInXml_eq, Ne, Option.or_eq_none_iff]
  rintro ⟨unnamed, silent⟩
  induction exposed with
  | here lone =>
      rw [← tag_of_envelope? is, lone] at unnamed
      exact is unnamed
  | @deeper outer elements lone inside ih =>
      have mem : outer.tag ∈ (elements.map tag).eraseDups :=
        List.mem_eraseDups.2 (List.mem_map_of_mem (mem_of_only lone).1)
      have below := List.findSome?_eq_none_iff.1 silent outer.tag mem
      rw [lone, Option.bind_some, findInXml_toValue_eq, findInXml_eq,
        Option.or_eq_none_iff] at below
      exact ih below.1 below.2

/-- No envelope is found where no element is named like one. -/
theorem findInXml_toValue {element : Element}
    (faultless : element.Every fun tag _ => tag ≠ "Error") :
    Envelope.findInXml element.toValue = none := by
  rw [Option.eq_none_iff_forall_ne_some]
  intro envelope found
  rw [findInXml_toValue_eq] at found
  obtain ⟨inner, exposed, is⟩ := exists_exposed_of_findInXml found
  have inside : Occurs inner [element] := .deeper List.mem_cons_self exposed.occurs
  have named : inner.tag = "Error" := tag_of_envelope? (is ▸ Option.some_ne_none envelope)
  cases inside.every (List.forall_mem_singleton.2 faultless) with
  | node other _ => exact other named

end Xml.Element

/-! ## Answers in XML -/

section

open Xml (Element)

variable {status : Nat} {body : String} {roots : List Element}

theorem Format.ofBody_markup (short : Bool) (element : Element) :
    Format.ofBody (String.ofList (element.markup short)) = .xml := by
  obtain ⟨more, shape⟩ := Element.exists_markup_eq short element
  rw [Format.ofBody, String.toList_ofList, shape]
  rfl

/-- An answer in XML is an error of the provider if an envelope is found in its value. -/
theorem decodeResponse_of_xml (xml : Format.ofBody body = .xml)
    (read : Element.ofText body = .ok roots) :
    decodeResponse status body =
      match Envelope.findInXml (Xml.objectOf (Element.toMembers roots)) with
      | some envelope => .error (.provider status envelope.code envelope.message)
      | none =>
        if isSuccess status then .ok (some (Xml.objectOf (Element.toMembers roots)))
        else .error (.http status body) := by
  have value : Xml.valueOfText body = .ok (Xml.objectOf (Element.toMembers roots)) := by
    rw [Xml.valueOfText, read]
    rfl
  rw [decodeResponse, xml, Format.parse, value]
  rfl

/-- What keeps a body from being read is an error of its format. -/
theorem Format.decode_of_parse {format : Format} {cause : CallError}
    (refused : format.parse body = some (.error cause)) : ∃ unread, cause = .decode unread := by
  cases format with
  | xml =>
      rw [parse] at refused
      split at refused
      · cases refused
      · cases refused
        exact ⟨_, rfl⟩
  | json =>
      rw [parse] at refused
      split at refused
      · cases refused
      · cases refused
        exact ⟨_, rfl⟩
  | empty => cases refused
  | text => cases refused

/-- An error of the provider states an envelope of the value that the body is read as. -/
theorem find_of_provider {found : Nat} {code message : String}
    (answer : decodeResponse status body = .error (.provider found code message)) :
    found = status ∧ ∃ v, (Format.ofBody body).parse body = some (.ok v) ∧
      Envelope.find (Format.ofBody body) status v = some ⟨code, message⟩ := by
  rw [decodeResponse] at answer
  split at answer
  next v parsed =>
    split at answer
    next envelope stated =>
      cases answer
      exact ⟨rfl, v, parsed, stated⟩
    next => split at answer <;> cases answer
  next cause parsed =>
    obtain ⟨unread, rfl⟩ := Format.decode_of_parse parsed
    split at answer <;> cases answer
  next =>
    split at answer
    · cases answer
    · split at answer <;> cases answer

/-- An answer that is not told to be XML is an error of the provider only without success, and with
the code and the message that it states as a document in JSON. -/
theorem json_of_provider {found : Nat} {code message : String} (other : Format.ofBody body ≠ .xml)
    (answer : decodeResponse status body = .error (.provider found code message)) :
    isSuccess status = false ∧ found = status ∧ Format.ofBody body = .json ∧
      ∃ v, Value.ofText body = .ok v ∧ Envelope.ofJson v = some ⟨code, message⟩ := by
  obtain ⟨same, v, parsed, stated⟩ := find_of_provider answer
  cases format : Format.ofBody body with
  | xml => exact absurd format other
  | json =>
      rw [format] at parsed stated
      have read : Value.ofText body = .ok v := by
        rw [Format.parse] at parsed
        split at parsed
        next read =>
          cases parsed
          exact read
        next => cases parsed
      change (if isSuccess status then none else Envelope.ofJson v) = some ⟨code, message⟩ at stated
      split at stated
      · cases stated
      next failure => exact ⟨Bool.eq_false_iff.2 failure, same, rfl, v, read, stated⟩
  | empty =>
      rw [format] at parsed
      cases parsed
  | text =>
      rw [format] at parsed
      cases parsed

/-- If a document is told to be XML and some envelope of it can be seen, the answer is an error of
the provider with the code and the message of such an envelope, whatever the status; if none can be
seen, the status decides between the value of the document and an error that keeps the body. If a
document is read where the body is not told to be XML, as behind a byte order mark or other text, no
envelope of it is ever reported: the answer is an error of the provider only if the whole body is
also a document in JSON that states an error of its own, and the status is no success. -/
theorem exposed_envelopes_are_reported (read : Element.ofText body = .ok roots) :
    (Format.ofBody body = .xml →
      ((∃ element, Element.Exposed element roots ∧ element.envelope? ≠ none) →
        ∃ element envelope, Element.Exposed element roots ∧ element.envelope? = some envelope ∧
          decodeResponse status body =
            .error (.provider status envelope.code envelope.message)) ∧
      ((∀ element, Element.Exposed element roots → element.envelope? = none) →
        decodeResponse status body =
          if isSuccess status then .ok (some (Xml.objectOf (Element.toMembers roots)))
          else .error (.http status body))) ∧
    (Format.ofBody body ≠ .xml → ∀ found code message,
      decodeResponse status body = .error (.provider found code message) →
        isSuccess status = false ∧ found = status ∧ Format.ofBody body = .json ∧
          ∃ v, Value.ofText body = .ok v ∧ Envelope.ofJson v = some ⟨code, message⟩) := by
  refine ⟨fun xml => ?_, fun other found code message => json_of_provider other⟩
  rw [decodeResponse_of_xml xml read]
  cases found : Envelope.findInXml (Xml.objectOf (Element.toMembers roots)) with
  | some envelope =>
      obtain ⟨element, exposed, is⟩ := Element.exists_exposed_of_findInXml found
      refine ⟨fun _ => ⟨element, envelope, exposed, is, rfl⟩, fun hidden => ?_⟩
      rw [hidden element exposed] at is
      cases is
  | none =>
      refine ⟨?_, fun _ => rfl⟩
      rintro ⟨element, exposed, is⟩
      exact absurd found (exposed.findInXml_ne_none is)

end

/-! ### One envelope that can be seen and one that cannot -/

section

open Xml (Element)

/-- An envelope. -/
def throttled : Element :=
  .node "Error" "" [.node "Code" "Throttling" [], .node "Message" "Rate exceeded" []]

/-- An answer that is an envelope. -/
def refusal : Element :=
  .node "ErrorResponse" "" [throttled, .node "RequestId" "7" []]

/-- An answer for two items, the second of which failed. -/
def partialFailure : Element :=
  .node "BatchResponse" "" [.node "member" "" [.node "Id" "1" []], .node "member" "" [throttled]]

theorem envelope?_throttled : throttled.envelope? = some ⟨"Throttling", "Rate exceeded"⟩ := by
  rfl

theorem writable_refusal : refusal.Writable := by
  simp only [refusal, throttled, Element.Writable, Element.every_node_iff, List.forall_mem_cons,
    List.not_mem_nil, false_imp_iff, implies_true, and_true]
  decide

theorem writable_partialFailure : partialFailure.Writable := by
  simp only [partialFailure, throttled, Element.Writable, Element.every_node_iff,
    List.forall_mem_cons, List.not_mem_nil, false_imp_iff, implies_true, and_true]
  decide

theorem refusal_is_reported :
    ∃ body,
      body = "<ErrorResponse><Error><Code>Throttling</Code><Message>Rate exceeded</Message>" ++
        "</Error><RequestId>7</RequestId></ErrorResponse>" ∧
      Format.ofBody body = .xml ∧ Element.ofText body = .ok [refusal] ∧
      ∃ element envelope, Element.Exposed element [refusal] ∧
        element.envelope? = some envelope ∧
        decodeResponse 200 body = .error (.provider 200 envelope.code envelope.message) := by
  have xml := Format.ofBody_markup false refusal
  have read : Element.ofText (String.ofList (refusal.markup false)) = .ok [refusal] :=
    writable_refusal.ofText_markup
  have root : Element.only refusal.tag [refusal] = some refusal := rfl
  have child : Element.only throttled.tag refusal.children = some throttled := rfl
  have exposed : Element.Exposed throttled [refusal] := .deeper root (.here child)
  refine ⟨_, by decide +kernel, xml, read, ((exposed_envelopes_are_reported read).1 xml).1 ?_⟩
  exact ⟨throttled, exposed, envelope?_throttled ▸ Option.some_ne_none _⟩

/-- The envelope in the second of two elements of one name is taken for data. -/
theorem hidden_envelope_is_taken_for_data :
    ∃ body roots,
      body = "<BatchResponse><member><Id>1</Id></member><member><Error><Code>Throttling</Code>" ++
        "<Message>Rate exceeded</Message></Error></member></BatchResponse>" ∧
      Format.ofBody body = .xml ∧ Element.ofText body = .ok roots ∧
      Element.Occurs throttled roots ∧
      throttled.envelope? = some ⟨"Throttling", "Rate exceeded"⟩ ∧
      decodeResponse 200 body = .ok (some (Xml.objectOf (Element.toMembers roots))) := by
  have xml := Format.ofBody_markup false partialFailure
  have read : Element.ofText (String.ofList (partialFailure.markup false)) = .ok [partialFailure] :=
    writable_partialFailure.ofText_markup
  have occurs : Element.Occurs throttled [partialFailure] :=
    .deeper List.mem_cons_self
      (.deeper (List.mem_cons_of_mem _ List.mem_cons_self) (.here List.mem_cons_self))
  refine ⟨_, _, by decide +kernel, xml, read, occurs, envelope?_throttled, ?_⟩
  rw [decodeResponse_of_xml xml read]
  rfl

end

end StackDeploy
