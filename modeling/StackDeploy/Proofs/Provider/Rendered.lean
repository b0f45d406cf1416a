/-
# Rendered answers

An answer of success is rendered as nested elements: the stacks and the outputs of a stack as
members of lists, their fields as elements with a text, and no element for a field that is absent.
What the calls of the control plane read from it is what was rendered. The shape of the value
depends on how many members there are and on which fields are given, so the fields are looked up by
lemmas that hold for any number of children; what is asked of the texts is that they survive
trimming, and that no text that is given is empty.
-/

import StackDeploy.Proofs.Provider.Absence
import StackDeploy.Proofs.Provider.Envelopes

namespace StackDeploy

open Json (Value)
open Xml (Element)

/-! ## Rendering -/

/-- How an answer is rendered. -/
structure Layout where
  /-- Whether an element without content is a single tag. -/
  short : Bool
  /-- Whether a list without members is left out. -/
  sparse : Bool

/-- An element that is a text. -/
def leaf (tag text : String) : Element :=
  .node tag text []

/-- The element of a field that may be absent. -/
def optionalLeaf (tag : String) : Option String → List Element
  | none => []
  | some text => [leaf tag text]

/-- An output as a member of a list. -/
def StackOutput.element (o : StackOutput) : Element :=
  .node "member" "" (leaf "OutputKey" o.key :: leaf "OutputValue" o.value ::
    (optionalLeaf "Description" o.description ++ optionalLeaf "ExportName" o.exportName))

/-- The list of outputs. -/
def outputList (layout : Layout) (outputs : List StackOutput) : List Element :=
  if layout.sparse && outputs.isEmpty then []
  else [.node "Outputs" "" (outputs.map StackOutput.element)]

/-- A stack as a member of a list. -/
def Stack.element (layout : Layout) (s : Stack) : Element :=
  .node "member" "" (leaf "StackName" s.name :: leaf "StackStatus" s.status.text ::
    (optionalLeaf "StackId" s.stackId ++ optionalLeaf "StackStatusReason" s.statusReason ++
      outputList layout s.outputs))

/-- The answer to an action with the content of its result. -/
def answerElement (action : String) (content : List Element) : Element :=
  .node (action ++ "Response") "" [.node (action ++ "Result") "" content]

/-- An answer of success. -/
def renderedAnswer (layout : Layout) (element : Element) : Answer :=
  ⟨200, String.ofList (element.markup layout.short)⟩

/-- The answer that lists stacks. -/
def stacksAnswer (layout : Layout) (listed : List Stack) : Answer :=
  renderedAnswer layout (answerElement "DescribeStacks"
    [.node "Stacks" "" (listed.map (Stack.element layout))])

/-- The answer that holds a template. -/
def templateBodyAnswer (layout : Layout) (body : String) : Answer :=
  renderedAnswer layout (answerElement "GetTemplate" [leaf "TemplateBody" body])

/-! ## What can be rendered -/

/-- A text that is given: it is not empty, and has no blanks at its ends. -/
structure IsGiven (text : String) : Prop where
  filled : text ≠ ""
  trimmed : Xml.Trimmed text.toList

instance (text : String) : Decidable (IsGiven text) :=
  decidable_of_iff (text ≠ "" ∧ Xml.Trimmed text.toList)
    ⟨fun both => ⟨both.1, both.2⟩, fun given => ⟨given.filled, given.trimmed⟩⟩

/-- The texts of an output are given if they are there; its value may be empty. -/
structure StackOutput.IsReportable (o : StackOutput) : Prop where
  key : IsGiven o.key
  value : Xml.Trimmed o.value.toList
  description : ∀ text ∈ o.description, IsGiven text
  exportName : ∀ text ∈ o.exportName, IsGiven text

/-- The texts of a stack are given if they are there, and its status is that of its text. -/
structure Stack.IsReportable (s : Stack) : Prop where
  name : IsGiven s.name
  stackId : ∀ text ∈ s.stackId, IsGiven text
  status : IsGiven s.status.text
  canonical : s.status = .ofText s.status.text
  statusReason : ∀ text ∈ s.statusReason, IsGiven text
  outputs : ∀ o ∈ s.outputs, o.IsReportable

/-- What is asked of every element of an answer. -/
def IsSound (tag text : String) : Prop :=
  (Xml.IsWord tag ∧ tag ≠ "Error") ∧ Xml.Trimmed text.toList

theorem every_leaf {tag text : String} (plain : Xml.IsWord tag ∧ tag ≠ "Error")
    (trimmed : Xml.Trimmed text.toList) : (leaf tag text).Every IsSound :=
  .node ⟨plain, trimmed⟩ (List.forall_mem_nil _)

theorem every_optionalLeaf {tag : String} {o : Option String}
    (plain : Xml.IsWord tag ∧ tag ≠ "Error") (given : ∀ text ∈ o, IsGiven text) :
    ∀ element ∈ optionalLeaf tag o, element.Every IsSound := by
  cases o with
  | none => exact List.forall_mem_nil _
  | some text => exact List.forall_mem_singleton.2 (every_leaf plain (given text rfl).trimmed)

/-- An element around others has no text of its own. -/
theorem every_around {tag : String} {children : List Element}
    (plain : Xml.IsWord tag ∧ tag ≠ "Error")
    (below : ∀ child ∈ children, child.Every IsSound) :
    (Element.node tag "" children).Every IsSound :=
  .node ⟨plain, nofun, nofun⟩ below

theorem StackOutput.IsReportable.every_element {o : StackOutput} (reportable : o.IsReportable) :
    o.element.Every IsSound := by
  apply every_around (by decide)
  simp only [List.forall_mem_cons, List.forall_mem_append]
  exact ⟨every_leaf (by decide) reportable.key.trimmed, every_leaf (by decide) reportable.value,
    every_optionalLeaf (by decide) reportable.description,
    every_optionalLeaf (by decide) reportable.exportName⟩

theorem every_outputList {layout : Layout} {outputs : List StackOutput}
    (reportable : ∀ o ∈ outputs, o.IsReportable) :
    ∀ element ∈ outputList layout outputs, element.Every IsSound := by
  rw [outputList]
  split
  · exact List.forall_mem_nil _
  · rw [List.forall_mem_singleton]
    apply every_around (by decide)
    rw [List.forall_mem_map]
    exact fun o mem => (reportable o mem).every_element

theorem Stack.IsReportable.every_element {s : Stack} (reportable : s.IsReportable)
    (layout : Layout) : (s.element layout).Every IsSound := by
  apply every_around (by decide)
  simp only [List.forall_mem_cons, List.forall_mem_append]
  exact ⟨every_leaf (by decide) reportable.name.trimmed,
    every_leaf (by decide) reportable.status.trimmed,
    ⟨every_optionalLeaf (by decide) reportable.stackId,
      every_optionalLeaf (by decide) reportable.statusReason⟩,
    every_outputList reportable.outputs⟩

theorem every_answerElement {action : String} {content : List Element}
    (response : Xml.IsWord (action ++ "Response") ∧ action ++ "Response" ≠ "Error")
    (result : Xml.IsWord (action ++ "Result") ∧ action ++ "Result" ≠ "Error")
    (sound : ∀ element ∈ content, element.Every IsSound) :
    (answerElement action content).Every IsSound :=
  every_around response (List.forall_mem_singleton.2 (every_around result sound))

/-! ## Reading an answer -/

/-- The value of a document: its root under its name. -/
def documentOf (root : Element) : Element :=
  .node "" "" [root]

/-- A rendered answer is decoded to the value of its document. -/
theorem decoded_renderedAnswer {element : Element} (sound : element.Every IsSound)
    (layout : Layout) :
    (renderedAnswer layout element).decoded = .ok (some (documentOf element).toValue) := by
  have writable : element.Writable := sound.mono fun _ _ fits => ⟨fits.1.1, fits.2⟩
  have faultless : (documentOf element).Every fun tag _ => tag ≠ "Error" :=
    .node nofun (List.forall_mem_singleton.2 (sound.mono fun _ _ fits => fits.1.2))
  have flawless : Envelope.findInXml (Xml.objectOf (Element.toMembers [element])) = none :=
    Xml.Element.findInXml_toValue faultless
  rw [Answer.decoded, renderedAnswer,
    decodeResponse_of_xml (Format.ofBody_markup layout.short element) writable.ofText_markup,
    flawless]
  rfl

/-! ## Fields of what was rendered -/

namespace Xml.Element

theorem valuesOf_cons (name : String) (element : Element) (rest : List Element) :
    valuesOf name (element :: rest) =
      if element.tag = name then element.toValue :: valuesOf name rest else valuesOf name rest := by
  rw [valuesOf, List.filter_cons]
  by_cases same : element.tag = name
  · rw [if_pos (beq_iff_eq.2 same), if_pos same]
    rfl
  · rw [if_neg (by rwa [beq_iff_eq]), if_neg same]
    rfl

theorem valuesOf_append (name : String) (left right : List Element) :
    valuesOf name (left ++ right) = valuesOf name left ++ valuesOf name right := by
  rw [valuesOf, List.filter_append, List.map_append]
  rfl

theorem valuesOf_optionalLeaf (name tag : String) (o : Option String) :
    valuesOf name (optionalLeaf tag o) =
      if tag = name then (o.map Value.string).toList else [] := by
  cases o with
  | none => exact (ite_self []).symm
  | some text => exact valuesOf_cons name (leaf tag text) []

end Xml.Element

namespace CloudFormation

/-- A field that is rendered at most once is read as its text, if the text is given. -/
theorem textOf_toValue {element : Element} {tag : String} {o : Option String}
    (values : Element.valuesOf tag element.children = (o.map Value.string).toList)
    (given : o ≠ some "") : textOf tag element.toValue = o := by
  rw [textOf, Element.get?_toValue, values]
  cases o with
  | none => rfl
  | some text =>
      have filled : text ≠ "" := fun empty => given (congrArg some empty)
      change (some text).filter (fun text => text ≠ "") = some text
      rw [Option.filter_some, if_pos (decide_eq_true filled)]

/-- A text that may be empty is read with the empty one in place of none. -/
theorem getD_textOf_toValue {element : Element} {tag text : String}
    (values : Element.valuesOf tag element.children = [.string text]) :
    (textOf tag element.toValue).getD "" = text := by
  by_cases empty : text = ""
  · rw [textOf, Element.get?_toValue, values, empty]
    rfl
  · rw [textOf_toValue (o := some text) values (empty ∘ Option.some.inj)]
    rfl

theorem ne_some_empty {o : Option String} (given : ∀ text ∈ o, IsGiven text) : o ≠ some "" :=
  fun same => (given "" same).filled rfl

section Fields

attribute [local simp] leaf Element.children Element.tag Element.toValue Element.valuesOf_cons
  Element.valuesOf_append Element.valuesOf_optionalLeaf

theorem outputOf_element {o : StackOutput} (reportable : o.IsReportable) :
    outputOf o.element.toValue = some o := by
  have key : textOf "OutputKey" o.element.toValue = some o.key :=
    textOf_toValue (by simp [StackOutput.element]) (reportable.key.filled ∘ Option.some.inj)
  have value : (textOf "OutputValue" o.element.toValue).getD "" = o.value :=
    getD_textOf_toValue (by simp [StackOutput.element])
  have description : textOf "Description" o.element.toValue = o.description :=
    textOf_toValue (by simp [StackOutput.element]) (ne_some_empty reportable.description)
  have exportName : textOf "ExportName" o.element.toValue = o.exportName :=
    textOf_toValue (by simp [StackOutput.element]) (ne_some_empty reportable.exportName)
  rw [outputOf, key, Option.map_some, value, description, exportName]

theorem valuesOf_outputList {name : String} (different : "Outputs" ≠ name) (layout : Layout)
    (outputs : List StackOutput) : Element.valuesOf name (outputList layout outputs) = [] := by
  rw [outputList]
  split
  · rfl
  · rw [Element.valuesOf_cons, Element.tag, if_neg different]
    rfl

/-- A list of rendered items is read item by item. -/
theorem members_items {α : Type} (tag : String) (items : List α) {render : α → Element}
    (member : ∀ item, (render item).tag = "member") :
    members (some (Element.node tag "" (items.map render)).toValue) =
      items.map fun item => (render item).toValue := by
  rw [Element.members_toValue, Element.children, List.map_map]
  · rfl
  · rw [Element.children, List.forall_mem_map]
    exact fun item _ => member item

/-- The list of outputs gives its members, also if it is left out. -/
theorem members_outputList (layout : Layout) (outputs : List StackOutput) :
    members (Xml.grouped (Element.valuesOf "Outputs" (outputList layout outputs))) =
      outputs.map fun o => o.element.toValue := by
  rw [outputList]
  split
  next missing =>
    rw [Bool.and_eq_true, List.isEmpty_iff] at missing
    rw [missing.2]
    rfl
  next =>
    rw [Element.valuesOf_cons, Element.tag, if_pos rfl]
    exact members_items "Outputs" outputs fun _ => rfl

/-- A stack that was rendered is read as it was. -/
theorem stackOf_element {s : Stack} (reportable : s.IsReportable) (layout : Layout) :
    stackOf (s.element layout).toValue = .ok s := by
  have name : textOf "StackName" (s.element layout).toValue = some s.name :=
    textOf_toValue (by simp [Stack.element, valuesOf_outputList])
      (reportable.name.filled ∘ Option.some.inj)
  have status : textOf "StackStatus" (s.element layout).toValue = some s.status.text :=
    textOf_toValue (by simp [Stack.element, valuesOf_outputList])
      (reportable.status.filled ∘ Option.some.inj)
  have stackId : textOf "StackId" (s.element layout).toValue = s.stackId :=
    textOf_toValue (by simp [Stack.element, valuesOf_outputList])
      (ne_some_empty reportable.stackId)
  have statusReason : textOf "StackStatusReason" (s.element layout).toValue = s.statusReason :=
    textOf_toValue (by simp [Stack.element, valuesOf_outputList])
      (ne_some_empty reportable.statusReason)
  have listed : members ((s.element layout).toValue.get? "Outputs") =
      s.outputs.map fun o => o.element.toValue := by
    rw [Element.get?_toValue]
    simpa [Stack.element] using members_outputList layout s.outputs
  have outputs : (s.outputs.map fun o => o.element.toValue).filterMap outputOf = s.outputs := by
    rw [List.filterMap_map]
    have each : ∀ o ∈ s.outputs, (outputOf ∘ fun o => o.element.toValue) o = some o :=
      fun o mem => outputOf_element (reportable.outputs o mem)
    exact (List.filterMap_congr each).trans List.filterMap_some
  rw [stackOf, name, status]
  dsimp only
  rw [stackId, statusReason, listed, outputs, ← reportable.canonical]

end Fields

/-- An only child gives its value under its name. -/
theorem get?_only (tag text : String) (child : Element) :
    (Element.node tag text [child]).toValue.get? child.tag = some child.toValue := by
  rw [Element.get?_toValue, Element.children, Element.valuesOf_cons, if_pos rfl]
  rfl

/-- The result of an action in its rendered answer is its content. -/
theorem resultOf_answerElement (action : String) (content : List Element) :
    resultOf action (documentOf (answerElement action content)).toValue =
      some (Element.node (action ++ "Result") "" content).toValue := by
  have response := get?_only "" "" (answerElement action content)
  have result := get?_only (action ++ "Response") "" (.node (action ++ "Result") "" content)
  rw [answerElement, Element.tag] at response
  rw [Element.tag] at result
  rw [resultOf, documentOf, answerElement, response, Option.bind_some, result]

theorem describeAnswer_stacksAnswer {first : Stack} {rest : List Stack}
    (reportable : ∀ listed ∈ first :: rest, Stack.IsReportable listed) (layout : Layout) :
    describeAnswer (stacksAnswer layout (first :: rest)).decoded = .ok (some first) := by
  have sound : (Element.node "Stacks" "" ((first :: rest).map (Stack.element layout))).Every
      IsSound := by
    apply every_around (by decide)
    rw [List.forall_mem_map]
    exact fun listed mem => (reportable listed mem).every_element layout
  have decoded : (stacksAnswer layout (first :: rest)).decoded = _ :=
    decoded_renderedAnswer (every_answerElement (by decide) (by decide)
      (List.forall_mem_singleton.2 sound)) layout
  have found : (Element.node ("DescribeStacks" ++ "Result") ""
      [.node "Stacks" "" ((first :: rest).map (Stack.element layout))]).toValue.get? "Stacks" =
        some (Element.node "Stacks" "" ((first :: rest).map (Stack.element layout))).toValue :=
    get?_only _ _ (.node "Stacks" "" _)
  rw [decoded, describeAnswer, Option.bind_some, resultOf_answerElement, Option.bind_some, found,
    members_items "Stacks" (first :: rest) fun _ => rfl, List.map_cons]
  dsimp only
  rw [stackOf_element (reportable first List.mem_cons_self)]
  rfl

theorem templateAnswer_templateBodyAnswer {body : String} (trimmed : Xml.Trimmed body.toList)
    (layout : Layout) :
    templateAnswer (templateBodyAnswer layout body).decoded = .ok (some body) := by
  have sound : (leaf "TemplateBody" body).Every IsSound := every_leaf (by decide) trimmed
  have decoded : (templateBodyAnswer layout body).decoded = _ :=
    decoded_renderedAnswer (every_answerElement (by decide) (by decide)
      (List.forall_mem_singleton.2 sound)) layout
  rw [decoded, templateAnswer, resultText, Option.bind_some, resultOf_answerElement,
    Option.bind_some]
  rfl

/-- What the calls of the control plane read is what was rendered. -/
theorem rendered_answer_is_read {σ : Type} (client : Client) (network : Network (StateM σ))
    (stack : String) (s s' : σ) (layout : Layout) :
    (∀ first rest, (∀ listed ∈ first :: rest, Stack.IsReportable listed) →
      client.Hears network (describeRequest client stack) s (stacksAnswer layout (first :: rest))
        s' →
      ((controlPlane client network).describe stack).run s = pure (.ok (some first), s')) ∧
    ∀ body : String, Xml.Trimmed body.toList →
      client.Hears network (templateRequest client stack) s (templateBodyAnswer layout body) s' →
      ((controlPlane client network).getTemplate stack).run s = pure (.ok (some body), s') := by
  constructor
  · intro first rest reportable hears
    rw [run_describe_of_hears hears, describeAnswer_stacksAnswer reportable layout]
  · intro body trimmed hears
    rw [run_getTemplate_of_hears hears, templateAnswer_templateBodyAnswer trimmed layout]

/-- A stack with two outputs, one of them with an empty value. -/
def reportedServer : Stack where
  name := "web"
  stackId := some "arn:aws:cloudformation:us-east-1:1:stack/web/1"
  status := .updateRollbackComplete
  statusReason := some "Resource <Bucket> failed"
  outputs := [⟨"Url", "https://x?a=1&b=2", none, some "web-url"⟩, ⟨"Note", "", some "'none'", none⟩]

/-- A stack that reports nothing but its status. -/
def reportedQueue : Stack :=
  ⟨"jobs", none, .other "PAUSED", none, []⟩

theorem isReportable_reportedServer : reportedServer.IsReportable where
  name := by decide
  stackId := by decide
  status := by decide
  canonical := by decide +kernel
  statusReason := by decide
  outputs := by
    refine List.forall_mem_cons.2 ⟨?_, List.forall_mem_singleton.2 ?_⟩
    · exact ⟨by decide, by decide, by decide, by decide⟩
    · exact ⟨by decide, by decide, by decide, by decide⟩

theorem isReportable_reportedQueue : reportedQueue.IsReportable where
  name := by decide
  stackId := by decide
  status := by decide
  canonical := by decide +kernel
  statusReason := by decide
  outputs := List.forall_mem_nil _

/-- A body that markup has to escape. -/
def reportedBody : String := "\x7b\"Description\": \"<a> & 'b'\"\x7d"

/-- The first of two stacks is read, and so is the body. -/
theorem reported_server_is_read :
    ((controlPlane exampleClient (.answering
        (stacksAnswer ⟨true, true⟩ [reportedServer, reportedQueue]))).describe "web").run () =
      pure (.ok (some reportedServer), ()) ∧
    ((controlPlane exampleClient (.answering
        (templateBodyAnswer ⟨true, true⟩ reportedBody))).getTemplate "web").run () =
      pure (.ok (some reportedBody), ()) := by
  constructor
  · refine (rendered_answer_is_read exampleClient _ "web" () () ⟨true, true⟩).1 reportedServer
      [reportedQueue] ?_ (exampleClient_hears _ "web").1
    exact List.forall_mem_cons.2
      ⟨isReportable_reportedServer, List.forall_mem_singleton.2 isReportable_reportedQueue⟩
  · exact (rendered_answer_is_read exampleClient _ "web" () () ⟨true, true⟩).2 reportedBody
      (by decide) (exampleClient_hears _ "web").2

end CloudFormation

end StackDeploy
