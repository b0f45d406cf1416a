/-
# The form of a request

The fields of a form are named by single words, or by a list, the number of an item and the part of
the item, joined by dots. Since no word holds a dot, the text of a name tells which field it is, and
numbers in decimal digits keep the items of a list apart. So the form that a request is sent as can
be read back: it holds every field of the request once, and each list item by item. What a form
holds has no part in whether it is sent: a client either posts every form or none.
-/

import Mathlib.Data.List.Nodup
import StackDeploy.Proofs.Provider.Exchange
import StackDeploy.Proofs.Signing.Pairs
import StackDeploy.Provider.CloudFormation

namespace StackDeploy

/-! ## What is sent -/

/-- A network that also keeps the requests that are sent over it, in their order. -/
def Network.recording {σ : Type} (network : Network (StateM σ)) :
    Network (StateM (σ × List WireRequest)) where
  now := fun (s, sent) =>
    let (seconds, s') := network.now.run s
    (seconds, s', sent)
  freshToken := fun (s, sent) =>
    let (token, s') := network.freshToken.run s
    (token, s', sent)
  exchange := fun wire (s, sent) =>
    let (reply, s') := (network.exchange wire).run s
    (reply, s', sent ++ [wire])

namespace Network

variable {σ : Type} (network : Network (StateM σ)) (s : σ) (sent : List WireRequest)

theorem run_now_recording :
    network.recording.now.run (s, sent) =
      pure ((network.now.run s).1, (network.now.run s).2, sent) :=
  rfl

theorem run_freshToken_recording :
    network.recording.freshToken.run (s, sent) =
      pure ((network.freshToken.run s).1, (network.freshToken.run s).2, sent) :=
  rfl

theorem run_exchange_recording (wire : WireRequest) :
    (network.recording.exchange wire).run (s, sent) =
      pure (((network.exchange wire).run s).1, ((network.exchange wire).run s).2,
        sent ++ [wire]) :=
  rfl

end Network

namespace Client

variable {σ : Type} {network : Network (StateM σ)} {client : Client} {request : Signing.Request}
  {s : σ}

/-- A request that cannot be prepared as of the second of the clock is not sent. -/
theorem run_send_recording_of_error {cause : CallError} (sent : List WireRequest)
    (prepared : client.prepare request (network.now.run s).1 = .error cause) :
    (client.send network.recording request).run (s, sent) =
      pure (.error cause, (network.now.run s).2, sent) := by
  have told := network.run_now_recording s sent
  simp [send, told, prepared]

/-- A request that can be prepared is sent once. -/
theorem run_send_recording_of_ok {wire : WireRequest} (sent : List WireRequest)
    (prepared : client.prepare request (network.now.run s).1 = .ok wire) :
    ∃ result s', (client.send network.recording request).run (s, sent) =
      pure (result, s', sent ++ [wire]) := by
  have told := network.run_now_recording s sent
  generalize (network.now.run s).1 = seconds, (network.now.run s).2 = started at told prepared
  have exchanged := network.run_exchange_recording started sent wire
  generalize ((network.exchange wire).run started).1 = reply,
    ((network.exchange wire).run started).2 = s' at exchanged
  cases reply with
  | error cause =>
      refine ⟨.error (.network cause), s', ?_⟩
      simp [send, told, prepared, exchanged]
  | ok answer =>
      refine ⟨decodeResponse answer.status answer.body, s', ?_⟩
      simp [send, told, prepared, exchanged]

/-- What comes of posting a form without fields as of a second: what is sent, or what keeps the
client from sending it. -/
def posting (client : Client) (seconds : Int) : Except CallError WireRequest :=
  client.prepare (client.postRequest [("content-type", formType)] (formBody [])) seconds

/-- Whether a form is sent does not depend on its fields. -/
theorem prepare_queryRequest (client : Client) (action version : String)
    (parameters : List (String × String)) (seconds : Int) :
    (∃ cause, client.posting seconds = .error cause ∧
      client.prepare (client.queryRequest action version parameters) seconds = .error cause) ∨
    ∃ empty wire, client.posting seconds = .ok empty ∧
      client.prepare (client.queryRequest action version parameters) seconds = .ok wire ∧
      wire.body = formBody (("Action", action) :: ("Version", version) :: parameters) := by
  generalize filled : formBody (("Action", action) :: ("Version", version) :: parameters) = body
  have same : client.queryRequest action version parameters =
      { client.postRequest [("content-type", formType)] (formBody []) with body } := by
    rw [queryRequest, filled]
    rfl
  rw [same, posting]
  rcases client.prepare_withBody (client.postRequest [("content-type", formType)] (formBody []))
    body seconds with ⟨cause, empty, prepared⟩ | ⟨wire, headers, empty, prepared⟩
  · exact .inl ⟨cause, empty, prepared⟩
  · exact .inr ⟨wire, { wire with headers, body }, empty, prepared, rfl⟩

end Client

namespace CloudFormation

open Text (splitAt decimal)

theorem readPairs_formBody {fields : List (String × String)} (nonempty : fields ≠ []) :
    Signing.readPairs (Client.formBody fields) = some fields :=
  Signing.readPairs_intercalate nonempty

/-! ## The names of fields -/

/-- What a field is: a single one, or an item of a list or a part of it. -/
inductive FieldName where
  | single (word : String)
  | item (list : String) (number : Nat) (part : Option String)
deriving DecidableEq

namespace FieldName

/-- The name of a field in a form. -/
def text : FieldName → String
  | single word => word
  | item list number none => memberName list number
  | item list number (some part) => memberName list number ++ "." ++ part

/-- The words of a name hold no dot. -/
def IsPlain : FieldName → Prop
  | single word => '.' ∉ word.toList
  | item list _ part => '.' ∉ list.toList ∧ ∀ word ∈ part, '.' ∉ word.toList

/-- The list that a field is part of. -/
def list? : FieldName → Option String
  | single _ => none
  | item list _ _ => some list

variable {name other : FieldName}

theorem splitAt_single {word : String} (plain : (single word).IsPlain) :
    splitAt '.' (single word).text.toList = [word.toList] :=
  Text.splitAt_of_notMem plain

/-- The dots take the name of an item apart again. -/
theorem splitAt_item {list : String} {number : Nat} {part : Option String}
    (plain : (item list number part).IsPlain) :
    splitAt '.' (item list number part).text.toList =
      list.toList :: "member".toList :: (decimal number).toList ::
        (part.map String.toList).toList := by
  obtain ⟨plainList, plainPart⟩ := plain
  have middle : ".member.".toList = '.' :: ("member".toList ++ ['.']) := rfl
  have front (rest : List Char) : splitAt '.' (list.toList ++ ".member.".toList ++ rest) =
      list.toList :: "member".toList :: splitAt '.' rest := by
    rw [middle, List.append_assoc, List.cons_append, Text.splitAt_append plainList,
      List.append_assoc, List.singleton_append, Text.splitAt_append (by decide)]
  have digits := Text.notMem_decimal (show '.'.isDigit = false by decide) number
  cases part with
  | none =>
      rw [text, memberName, String.toList_append, String.toList_append, front,
        Text.splitAt_of_notMem digits]
      rfl
  | some word =>
      rw [text, memberName, String.toList_append, String.toList_append, String.toList_append,
        String.toList_append, List.append_assoc, List.append_assoc, front]
      change _ :: _ :: splitAt '.' ((decimal number).toList ++ '.' :: word.toList) = _
      rw [Text.splitAt_append digits, Text.splitAt_of_notMem (plainPart word rfl)]
      rfl

/-- The text of a name tells which field it is. -/
theorem text_inj (plain : name.IsPlain) (otherPlain : other.IsPlain) :
    name.text = other.text ↔ name = other := by
  constructor
  · intro same
    have pieces : splitAt '.' name.text.toList = splitAt '.' other.text.toList := by rw [same]
    cases name with
    | single word =>
        cases other with
        | single word' => exact congrArg single same
        | item list number part =>
            rw [splitAt_single plain, splitAt_item otherPlain] at pieces
            simp at pieces
    | item list number part =>
        cases other with
        | single word =>
            rw [splitAt_item plain, splitAt_single otherPlain] at pieces
            simp at pieces
        | item list' number' part' =>
            rw [splitAt_item plain, splitAt_item otherPlain] at pieces
            simp only [List.cons.injEq, String.toList_inj, true_and, Text.decimal_inj] at pieces
            obtain ⟨sameList, sameNumber, sameParts⟩ := pieces
            have samePart : part = part' := by
              cases part with
              | none => cases part' with
                | none => rfl
                | some _ => cases sameParts
              | some word => cases part' with
                | none => cases sameParts
                | some word' =>
                    exact congrArg some (String.toList_inj.1 (List.singleton_inj.1 sameParts))
            rw [sameList, sameNumber, samePart]
  · intro same
    rw [same]

end FieldName

/-! ## Fields by their names -/

/-- A field as it stands in a form. -/
def spell (field : FieldName × String) : String × String :=
  (field.1.text, field.2)

/-- The fields of numbered items, from a number on, each with its parts. -/
def itemFields {α : Type} (list : String) (parts : List (Option String × (α → String)))
    (start : Nat) (items : List α) : List (FieldName × String) :=
  (numberFrom start items).flatMap fun item =>
    parts.map fun part => (.item list item.1 part.1, part.2 item.2)

section Items

variable {α : Type} {list : String} {parts : List (Option String × (α → String))} {start : Nat}
  {items : List α}

theorem itemFields_cons (item : α) (rest : List α) :
    itemFields list parts start (item :: rest) =
      parts.map (fun part => (.item list start part.1, part.2 item)) ++
        itemFields list parts (start + 1) rest :=
  rfl

/-- Each item has each of its parts under its own number. -/
theorem mem_itemFields_iff {name : FieldName} {value : String} :
    (name, value) ∈ itemFields list parts start items ↔
      ∃ part ∈ parts, ∃ i item, items[i]? = some item ∧
        name = .item list (start + i) part.1 ∧ value = part.2 item := by
  induction items generalizing start with
  | nil => simp [itemFields, numberFrom]
  | cons item rest ih =>
      rw [itemFields_cons, List.mem_append, ih, List.mem_map]
      constructor
      · rintro (⟨part, given, same⟩ | ⟨part, given, i, other, there, rfl, rfl⟩)
        · cases same
          exact ⟨part, given, 0, item, rfl, rfl, rfl⟩
        · exact ⟨part, given, i + 1, other, there, by rw [Nat.succ_add_eq_add_succ], rfl⟩
      · rintro ⟨part, given, i, other, there, rfl, rfl⟩
        cases i with
        | zero =>
            cases there
            exact .inl ⟨part, given, rfl⟩
        | succ i =>
            exact .inr ⟨part, given, i, other, there, by rw [Nat.succ_add_eq_add_succ], rfl⟩

theorem nodup_names_itemFields (distinct : (parts.map Prod.fst).Nodup) :
    ((itemFields list parts start items).map Prod.fst).Nodup := by
  induction items generalizing start with
  | nil => exact List.nodup_nil
  | cons item rest ih =>
      have named : (parts.map fun part => FieldName.item list start part.1) =
          (parts.map Prod.fst).map (FieldName.item list start) := (List.map_map ..).symm
      rw [itemFields_cons, List.map_append, List.map_map]
      change ((parts.map fun part => FieldName.item list start part.1) ++ _).Nodup
      rw [named]
      refine List.nodup_append.2 ⟨?_, ih, ?_⟩
      · exact distinct.map fun _ _ same => (FieldName.item.inj same).2.2
      · intro name here other later same
        obtain ⟨part, -, rfl⟩ := List.mem_map.1 here
        obtain ⟨⟨_, value⟩, mem, rfl⟩ := List.mem_map.1 later
        obtain ⟨_, -, i, _, -, rfl, -⟩ := mem_itemFields_iff.1 mem
        have number := (FieldName.item.inj same).2.1
        omega

end Items

theorem spell_listFields (list : String) (items : List String) :
    listFields list items = (itemFields list [(none, id)] 1 items).map spell := by
  rw [listFields, itemFields, List.map_flatMap, List.map_eq_flatMap]
  rfl

theorem spell_pairFields (list key value : String) (pairs : List (String × String)) :
    pairFields list key value pairs =
      (itemFields list [(some key, Prod.fst), (some value, Prod.snd)] 1 pairs).map spell := by
  rw [pairFields, itemFields, List.map_flatMap]
  rfl

variable {fields : List (FieldName × String)}

theorem nodup_names_spell (plain : ∀ field ∈ fields, field.1.IsPlain)
    (distinct : (fields.map Prod.fst).Nodup) : ((fields.map spell).map Prod.fst).Nodup := by
  have named : (fields.map spell).map Prod.fst = (fields.map Prod.fst).map FieldName.text := by
    rw [List.map_map, List.map_map]
    rfl
  have plainName (name : FieldName) (mem : name ∈ fields.map Prod.fst) : name.IsPlain := by
    obtain ⟨field, held, rfl⟩ := List.mem_map.1 mem
    exact plain field held
  rw [named]
  exact List.Nodup.map_on (fun name mem other otherMem =>
    (FieldName.text_inj (plainName name mem) (plainName other otherMem)).1) distinct

/-- A look-up by the text of a name finds what the fields hold under the name. -/
theorem lookupEntry_spell {name : FieldName} {value : Option String} (plainName : name.IsPlain)
    (plain : ∀ field ∈ fields, field.1.IsPlain) (distinct : (fields.map Prod.fst).Nodup)
    (held : ∀ text, (name, text) ∈ fields ↔ value = some text) :
    NameMap.lookupEntry name.text (fields.map spell) = value := by
  cases value with
  | some text =>
      exact NameMap.lookupEntry_of_mem (nodup_names_spell plain distinct)
        (List.mem_map_of_mem ((held text).2 rfl))
  | none =>
      rw [NameMap.lookupEntry_eq_none_iff]
      intro mem
      rw [List.map_map] at mem
      obtain ⟨⟨other, text⟩, there, same⟩ := List.mem_map.1 mem
      cases (FieldName.text_inj (plain _ there) plainName).1 same
      cases (held text).1 there

/-- Names that can be told apart, each of which stands once. -/
structure Distinguished (fields : List (FieldName × String)) : Prop where
  plain : ∀ field ∈ fields, field.1.IsPlain
  once : (fields.map Prod.fst).Nodup

/-- Fields that are named by single words. -/
def singles (pairs : List (String × String)) : List (FieldName × String) :=
  pairs.map fun pair => (.single pair.1, pair.2)

theorem spell_singles (pairs : List (String × String)) : (singles pairs).map spell = pairs := by
  rw [singles, List.map_map]
  exact List.map_id pairs

theorem distinguished_singles {pairs : List (String × String)}
    (plain : ∀ pair ∈ pairs, '.' ∉ pair.1.toList) (once : (pairs.map Prod.fst).Nodup) :
    Distinguished (singles pairs) where
  plain := by
    intro field mem
    obtain ⟨pair, given, rfl⟩ := List.mem_map.1 mem
    exact plain pair given
  once := by
    have named : (singles pairs).map Prod.fst = (pairs.map Prod.fst).map FieldName.single := by
      rw [singles, List.map_map, List.map_map]
      rfl
    rw [named]
    exact once.map fun _ _ => FieldName.single.inj

/-- No field is part of a list. -/
def Lacks (list : String) (fields : List (FieldName × String)) : Prop :=
  ∀ field ∈ fields, field.1.list? ≠ some list

theorem lacks_singles (list : String) (pairs : List (String × String)) :
    Lacks list (singles pairs) := by
  intro field mem
  obtain ⟨pair, -, rfl⟩ := List.mem_map.1 mem
  exact nofun

theorem Lacks.append_itemFields {α : Type} {list other : String} (lacks : Lacks list fields)
    (different : other ≠ list) (parts : List (Option String × (α → String))) (start : Nat)
    (items : List α) : Lacks list (fields ++ itemFields other parts start items) := by
  intro field mem
  rcases List.mem_append.1 mem with earlier | added
  · exact lacks field earlier
  · obtain ⟨part, -, i, item, -, named, -⟩ := mem_itemFields_iff.1 added
    rw [named]
    exact fun same => different (Option.some.inj same)

/-- The items of a list that has no fields yet can be added. -/
theorem Distinguished.append_itemFields {α : Type} {list : String}
    {parts : List (Option String × (α → String))} (told : Distinguished fields)
    (lacks : Lacks list fields) (plain : ∀ part ∈ parts, (FieldName.item list 1 part.1).IsPlain)
    (distinct : (parts.map Prod.fst).Nodup) (items : List α) :
    Distinguished (fields ++ itemFields list parts 1 items) where
  plain := by
    intro field mem
    rcases List.mem_append.1 mem with earlier | added
    · exact told.plain field earlier
    · obtain ⟨part, given, i, item, -, named, -⟩ := mem_itemFields_iff.1 added
      rw [named]
      exact plain part given
  once := by
    rw [List.map_append]
    refine List.nodup_append.2 ⟨told.once, nodup_names_itemFields distinct, ?_⟩
    intro name earlier other added same
    obtain ⟨field, mem, rfl⟩ := List.mem_map.1 earlier
    obtain ⟨⟨_, value⟩, there, rfl⟩ := List.mem_map.1 added
    obtain ⟨part, -, i, _, -, rfl, -⟩ := mem_itemFields_iff.1 there
    exact lacks field mem (congrArg FieldName.list? same)

/-- A form gives items by their numbers: each has the number after its index, and no other number
from one on is given. -/
def Numbers (form : List (String × String)) (before after : String) (items : List String) : Prop :=
  ∀ i, NameMap.lookupEntry (before ++ toString (i + 1) ++ after) form = items[i]?

/-- Items that are held under their numbers are given by them. -/
theorem Distinguished.numbers {α : Type} {items : List α} (told : Distinguished fields)
    (list : String) (part : Option String) (text : α → String)
    (plain : (FieldName.item list 1 part).IsPlain)
    (held : ∀ i value, (.item list (1 + i) part, value) ∈ fields ↔
      ∃ item, items[i]? = some item ∧ value = text item) :
    Numbers (fields.map spell) (list ++ ".member.") (part.elim "" ("." ++ ·))
      (items.map text) := by
  intro i
  have named : list ++ ".member." ++ toString (i + 1) ++ part.elim "" ("." ++ ·) =
      (FieldName.item list (1 + i) part).text := by
    rw [Nat.add_comm i 1]
    cases part with
    | none => exact String.append_empty
    | some word => exact String.append_assoc.symm
  have plainHere : (FieldName.item list (1 + i) part).IsPlain := plain
  rw [named]
  apply lookupEntry_spell plainHere told.plain told.once
  intro value
  rw [held, List.getElem?_map, Option.map_eq_some_iff]
  simp only [eq_comm]

/-! ## The forms of the calls -/

/-- The form that asks to create or update a stack. -/
def stackForm (action : String) (request : StackRequest) (token : String) :
    List (String × String) :=
  [("Action", action), ("Version", "2010-05-15"), ("StackName", request.stack),
    ("TemplateBody", request.templateBody), ("ClientRequestToken", token)] ++
  ((request.capabilities.zipIdx 1).map fun (capability, n) =>
    ("Capabilities.member." ++ toString n, capability)) ++
  ((request.parameters.zipIdx 1).flatMap fun (parameter, n) =>
    [("Parameters.member." ++ toString n ++ ".ParameterKey", parameter.1),
      ("Parameters.member." ++ toString n ++ ".ParameterValue", parameter.2)]) ++
  (request.tags.zipIdx 1).flatMap fun (tag, n) =>
    [("Tags.member." ++ toString n ++ ".Key", tag.1),
      ("Tags.member." ++ toString n ++ ".Value", tag.2)]

/-- The form that asks to delete a stack but for some of its resources. -/
def deleteForm (stack token : String) (retain : List String) : List (String × String) :=
  [("Action", "DeleteStack"), ("Version", "2010-05-15"), ("StackName", stack),
    ("ClientRequestToken", token)] ++
  (retain.zipIdx 1).map fun (resource, n) => ("RetainResources.member." ++ toString n, resource)

/-- The fields of a form are those of a request for a stack, each under a name of its own. -/
structure TellsStack (form : List (String × String)) (action : String) (request : StackRequest)
    (token : String) : Prop where
  fields : form = stackForm action request token
  once : (form.map Prod.fst).Nodup
  capabilities : Numbers form "Capabilities.member." "" request.capabilities
  parameterKeys :
    Numbers form "Parameters.member." ".ParameterKey" (request.parameters.map Prod.fst)
  parameterValues :
    Numbers form "Parameters.member." ".ParameterValue" (request.parameters.map Prod.snd)
  tagKeys : Numbers form "Tags.member." ".Key" (request.tags.map Prod.fst)
  tagValues : Numbers form "Tags.member." ".Value" (request.tags.map Prod.snd)

/-- The fields of a form are those of a request to delete a stack, each under a name of its own. -/
structure TellsDeletion (form : List (String × String)) (stack token : String)
    (retain : List String) : Prop where
  fields : form = deleteForm stack token retain
  once : (form.map Prod.fst).Nodup
  retained : Numbers form "RetainResources.member." "" retain

theorem numberFrom_eq {α : Type} (start : Nat) (items : List α) :
    numberFrom start items = (items.zipIdx start).map Prod.swap := by
  induction items generalizing start with
  | nil => rfl
  | cons item rest ih =>
      rw [numberFrom, ih, List.zipIdx_cons, List.map_cons]
      rfl

theorem part_name (list : String) (n : Nat) (part : String) :
    memberName list n ++ "." ++ part = list ++ ".member." ++ toString n ++ ("." ++ part) :=
  String.append_assoc

/-- What a request for a stack sends is its form. -/
theorem stackForm_eq (action : String) (request : StackRequest) (token : String) :
    ("Action", action) :: ("Version", version) :: stackFields request token =
      stackForm action request token := by
  rw [stackFields, listFields, pairFields, pairFields, numberFrom_eq, numberFrom_eq, numberFrom_eq,
    List.map_map, List.flatMap_map, List.flatMap_map]
  simp only [part_name]
  rfl

theorem deleteForm_eq (stack token : String) (retain : List String) :
    ("Action", "DeleteStack") :: ("Version", version) :: deleteFields stack token retain =
      deleteForm stack token retain := by
  rw [deleteFields, listFields, numberFrom_eq, List.map_map]
  rfl

/-- The fields of a request for a stack, by what they are. -/
def stackNames (action : String) (request : StackRequest) (token : String) :
    List (FieldName × String) :=
  singles [("Action", action), ("Version", version), ("StackName", request.stack),
    ("TemplateBody", request.templateBody), ("ClientRequestToken", token)] ++
  itemFields "Capabilities" [(none, id)] 1 request.capabilities ++
  itemFields "Parameters" [(some "ParameterKey", Prod.fst), (some "ParameterValue", Prod.snd)] 1
    request.parameters ++
  itemFields "Tags" [(some "Key", Prod.fst), (some "Value", Prod.snd)] 1 request.tags

theorem spell_stackNames (action : String) (request : StackRequest) (token : String) :
    (stackNames action request token).map spell = stackForm action request token := by
  rw [← stackForm_eq, stackFields, spell_listFields, spell_pairFields, spell_pairFields, stackNames,
    List.map_append, List.map_append, List.map_append, spell_singles]
  rfl

theorem distinguished_stackNames (action : String) (request : StackRequest) (token : String) :
    Distinguished (stackNames action request token) := by
  apply Distinguished.append_itemFields
  · apply Distinguished.append_itemFields
    · apply Distinguished.append_itemFields
      · exact distinguished_singles (by simp) (by simp)
      · exact lacks_singles _ _
      · simp [FieldName.IsPlain]
      · simp
    · exact (lacks_singles _ _).append_itemFields (by decide) _ _ _
    · simp [FieldName.IsPlain]
    · simp
  · apply Lacks.append_itemFields
    · exact (lacks_singles _ _).append_itemFields (by decide) _ _ _
    · decide
  · simp [FieldName.IsPlain]
  · simp

/-- Its own names tell the form of a request for a stack apart, item by item. -/
theorem tellsStack_stackForm (action : String) (request : StackRequest) (token : String) :
    TellsStack (stackForm action request token) action request token := by
  have told := distinguished_stackNames action request token
  refine ⟨rfl, ?_, ?_, ?_, ?_, ?_, ?_⟩ <;> rw [← spell_stackNames]
  · exact nodup_names_spell told.plain told.once
  · have given : Numbers _ _ _ (request.capabilities.map id) :=
      told.numbers "Capabilities" none id (by simp [FieldName.IsPlain])
        (by simp [stackNames, singles, mem_itemFields_iff])
    rwa [List.map_id] at given
  · exact told.numbers "Parameters" (some "ParameterKey") Prod.fst (by simp [FieldName.IsPlain])
      (by simp [stackNames, singles, mem_itemFields_iff])
  · exact told.numbers "Parameters" (some "ParameterValue") Prod.snd (by simp [FieldName.IsPlain])
      (by simp [stackNames, singles, mem_itemFields_iff])
  · exact told.numbers "Tags" (some "Key") Prod.fst (by simp [FieldName.IsPlain])
      (by simp [stackNames, singles, mem_itemFields_iff])
  · exact told.numbers "Tags" (some "Value") Prod.snd (by simp [FieldName.IsPlain])
      (by simp [stackNames, singles, mem_itemFields_iff])

theorem tellsDeletion_deleteForm (stack token : String) (retain : List String) :
    TellsDeletion (deleteForm stack token retain) stack token retain := by
  have spelled : (singles [("Action", "DeleteStack"), ("Version", version), ("StackName", stack),
      ("ClientRequestToken", token)] ++ itemFields "RetainResources" [(none, id)] 1 retain).map
        spell = deleteForm stack token retain := by
    rw [← deleteForm_eq, deleteFields, spell_listFields, List.map_append, spell_singles]
    rfl
  have told : Distinguished (singles [("Action", "DeleteStack"), ("Version", version),
      ("StackName", stack), ("ClientRequestToken", token)] ++
        itemFields "RetainResources" [(none, id)] 1 retain) := by
    apply Distinguished.append_itemFields
    · exact distinguished_singles (by simp) (by simp)
    · exact lacks_singles _ _
    · simp [FieldName.IsPlain]
    · simp
  refine ⟨rfl, ?_, ?_⟩ <;> rw [← spelled]
  · exact nodup_names_spell told.plain told.once
  · have given : Numbers _ _ _ (retain.map id) :=
      told.numbers "RetainResources" none id (by simp [FieldName.IsPlain])
        (by simp [singles, mem_itemFields_iff])
    rwa [List.map_id] at given

/-! ## The calls -/

variable {σ : Type}

/-- What a call sends, given what comes of posting a form without fields at its second. A client
that can post that one sends one request, whose body is read as a form. A client that cannot sends
nothing, and the call ends with the same error. -/
def Sends {α : Type} (posting : Except CallError WireRequest)
    (call : StateM (σ × List WireRequest) (Except StackError α)) (s : σ)
    (Tells : List (String × String) → Prop) : Prop :=
  ∃ result s' sent, call.run (s, []) = pure (result, s', sent) ∧
    match posting with
    | .error cause => sent = [] ∧ result = .error (.call cause)
    | .ok _ => ∃ wire form, sent = [wire] ∧ Signing.readPairs wire.body = some form ∧ Tells form

/-- If a form without fields can be posted, the form of the call is sent. -/
theorem Sends.of_posted {α : Type} {posting : Except CallError WireRequest} {empty : WireRequest}
    {call : StateM (σ × List WireRequest) (Except StackError α)} {s : σ}
    {Tells : List (String × String) → Prop} (sends : Sends posting call s Tells)
    (posted : posting = .ok empty) :
    ∃ wire form, (call.run (s, [])).2.2 = [wire] ∧ Signing.readPairs wire.body = some form ∧
      Tells form := by
  rw [posted] at sends
  obtain ⟨result, s', sent, ran, wire, form, rfl, read, tells⟩ := sends
  rw [ran]
  exact ⟨wire, form, rfl, read, tells⟩

/-- A call sends the form of its fields. -/
theorem sends_query {α : Type} (client : Client) (network : Network (StateM σ)) (s : σ)
    (action : String) (parameters : String → List (String × String))
    {told : Except CallError (Option Json.Value) → Except StackError α}
    (own : ∀ cause, Client.IsOwnError cause → told (.error cause) = .error (.call cause))
    {Tells : List (String × String) → Prop}
    (tells : Tells (("Action", action) :: ("Version", version) ::
      parameters (network.freshToken.run s).1)) :
    Sends (client.posting (network.now.run (network.freshToken.run s).2).1) (do
      let token ← network.recording.freshToken
      let answer ← client.query network.recording action version (parameters token)
      pure (told answer)) s Tells := by
  have fresh := network.run_freshToken_recording s []
  generalize (network.freshToken.run s).1 = token, (network.freshToken.run s).2 = started
    at fresh tells
  rcases client.prepare_queryRequest action version (parameters token) (network.now.run started).1
    with ⟨cause, failed, prepared⟩ | ⟨empty, wire, posted, prepared, body⟩
  · have ran := Client.run_send_recording_of_error [] prepared
    rw [failed]
    refine ⟨told (.error cause), (network.now.run started).2, [], ?_, rfl,
      own cause (Client.isOwnError_of_prepare prepared)⟩
    simp [Client.query, fresh, ran]
  · obtain ⟨reply, s', ran⟩ := Client.run_send_recording_of_ok [] prepared
    rw [List.nil_append] at ran
    rw [posted]
    refine ⟨told reply, s', [wire], ?_, wire, _, rfl, ?_, tells⟩
    · simp [Client.query, fresh, ran]
    · rw [body, readPairs_formBody (List.cons_ne_nil _ _)]

/-- Every call that changes a stack sends a form that says its request, under the token that the
network gives it. Whether it is sent depends neither on the request nor on the token, but only on
whether the client can post a form at all as of the second of its clock; if it cannot, nothing is
sent, and the call ends with the error of the client. -/
theorem form_tells_request (client : Client) (network : Network (StateM σ)) (s : σ) :
    let plane := controlPlane client network.recording
    let token := (network.freshToken.run s).1
    let posting := client.posting (network.now.run (network.freshToken.run s).2).1
    (∀ request, Sends posting (plane.create request) s
        fun form => TellsStack form "CreateStack" request token) ∧
      (∀ request, Sends posting (plane.update request) s
        fun form => TellsStack form "UpdateStack" request token) ∧
      ∀ stack retain, Sends posting (plane.delete stack retain) s
        fun form => TellsDeletion form stack token retain := by
  intro plane token posting
  refine ⟨fun request => ?_, fun request => ?_, fun stack retain => ?_⟩
  · apply sends_query client network s "CreateStack" (stackFields request) fun _ _ => rfl
    rw [stackForm_eq]
    exact tellsStack_stackForm "CreateStack" request token
  · apply sends_query client network s "UpdateStack" (stackFields request)
    · intro cause own
      cases cause with
      | signing _ | network _ => rfl
      | _ => cases own
    · rw [stackForm_eq]
      exact tellsStack_stackForm "UpdateStack" request token
  · apply sends_query client network s "DeleteStack" (fun token => deleteFields stack token retain)
      fun _ _ => rfl
    rw [deleteForm_eq]
    exact tellsDeletion_deleteForm stack token retain

/-- A request with marks that a form has to escape and with a parameter that is given twice. -/
def workersRequest : StackRequest where
  stack := "wörkers & co"
  templateBody := "\x7b\x7d"
  parameters := [("Size", "1"), ("Size", "2=3")]
  capabilities := ["CAPABILITY_IAM"]
  tags := [("team", "50%")]

/-- A client that can post a form creates and deletes a stack by one form each. -/
theorem workers_request_is_told :
    let plane := controlPlane exampleClient (Network.answering ⟨200, ""⟩).recording
    (∃ wire, ((plane.create workersRequest).run ((), [])).2.2 = [wire] ∧
      Signing.readPairs wire.body = some [("Action", "CreateStack"), ("Version", "2010-05-15"),
        ("StackName", "wörkers & co"), ("TemplateBody", "\x7b\x7d"), ("ClientRequestToken", ""),
        ("Capabilities.member.1", "CAPABILITY_IAM"),
        ("Parameters.member.1.ParameterKey", "Size"), ("Parameters.member.1.ParameterValue", "1"),
        ("Parameters.member.2.ParameterKey", "Size"),
        ("Parameters.member.2.ParameterValue", "2=3"), ("Tags.member.1.Key", "team"),
        ("Tags.member.1.Value", "50%")]) ∧
      ∃ wire, ((plane.delete "workers" ["Queue"]).run ((), [])).2.2 = [wire] ∧
        Signing.readPairs wire.body = some [("Action", "DeleteStack"), ("Version", "2010-05-15"),
          ("StackName", "workers"), ("ClientRequestToken", ""),
          ("RetainResources.member.1", "Queue")] := by
  intro plane
  obtain ⟨empty, posted⟩ : ∃ empty, exampleClient.posting 0 = .ok empty := exampleClient_sends ""
  obtain ⟨creates, -, deletes⟩ := form_tells_request exampleClient (Network.answering ⟨200, ""⟩) ()
  obtain ⟨wire, form, sent, read, told⟩ := (creates workersRequest).of_posted posted
  obtain ⟨wire', form', sent', read', told'⟩ := (deletes "workers" ["Queue"]).of_posted posted
  rw [told.fields] at read
  rw [told'.fields] at read'
  exact ⟨⟨wire, sent, read⟩, wire', sent', read'⟩

end CloudFormation

end StackDeploy
