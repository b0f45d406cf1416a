/-
# Round trips of templates

A template is written with some of its fields left out and read with what is left out refilled. For
each record this module pairs the members that are written with the parts that they are read into,
field by field, and shows that the record that is made of these parts is the one that was written.
Since the two layouts give the same document, both texts of a template that was read are read as
that template again. A template that was made otherwise is read as it is but for parameters with a
null for their default, which are read as parameters without one. That the numbers of the template
read back is assumed: whether the shortest text of a double does is a matter of its digits and not
of the document.
-/

import StackDeploy.Proofs.Json.Record
import StackDeploy.Proofs.Template.Content
import StackDeploy.Template.Printer

namespace StackDeploy

open Json FieldReader

/-- A list, unless it is empty. -/
def nonempty? {α : Type} (items : List α) : Option (List α) :=
  if items.isEmpty then none else some items

theorem listMember_eq (key : String) (items : List Value) :
    listMember key items = optionalMember key ((nonempty? items).map .array) := by
  unfold listMember nonempty?
  split <;> rfl

theorem objectMember_eq (key : String) (members : Members) :
    objectMember key members = optionalMember key ((nonempty? members).map .object) := by
  unfold objectMember nonempty?
  split <;> rfl

theorem eq_some_of_nonempty?_eq_some {α : Type} {items found : List α}
    (stated : nonempty? items = some found) : found = items := by
  unfold nonempty? at stated
  split at stated
  · cases stated
  · exact (Option.some.inj stated).symm

/-- A field that is written if there is something to write. -/
theorem Json.FieldReader.Writes.optional {Part α : Type} {field : FieldReader Part}
    {fields : List (FieldReader Part)} {members : Members} {parts : List Part} {stated : Option α}
    {write : α → Value} {part : α → Part}
    (read : ∀ a, stated = some a → field.read (write a).toTree = .ok (part a))
    (later : Writes fields members parts) :
    Writes (field :: fields) (optionalMember field.name (stated.map write) ++ members)
      ((stated.map part).toList ++ parts) := by
  cases stated with
  | none => exact .omits later
  | some a => exact .states (read a rfl) later

/-- The last field of a record, if it is written when there is something to write. -/
theorem Json.FieldReader.Writes.last {Part α : Type} {field : FieldReader Part} {stated : Option α}
    {write : α → Value} {part : α → Part}
    (read : ∀ a, stated = some a → field.read (write a).toTree = .ok (part a)) :
    Writes [field] (optionalMember field.name (stated.map write)) (stated.map part).toList := by
  cases stated with
  | none => exact .omits .nil
  | some a => exact .states (read a rfl) .nil

theorem findSome?_toList {α β : Type} (f : α → Option β) (o : Option α) :
    o.toList.findSome? f = o.bind f := by
  cases o with
  | none => rfl
  | some a =>
      rw [Option.toList_some, List.findSome?_cons, Option.bind_some]
      cases f a <;> rfl

theorem getD_nonempty? {α : Type} (items : List α) : (nonempty? items).getD [] = items := by
  cases items <;> rfl

theorem join_bind_some {α β : Type} (o : Option α) (f : α → Option β) :
    (o.bind fun a => some (f a)).join = o.bind f := by
  cases o <;> rfl

/-- Names that are not written are the empty set. -/
theorem NameSet.getD_nonempty?_toValues (s : NameSet) :
    ((nonempty? s.toValues).bind fun _ => some s).getD .empty = s := by
  obtain ⟨names, sorted⟩ := s
  cases names <;> rfl

/-- A section that was written is read again, entry by entry. -/
theorem NameMap.ofTree_toTree {α β : Type} {depth : Depth} {reader : Depth → Tree → Reading α}
    {write : β → Value} {asRead : β → α} {m : NameMap β}
    (read : ∀ name value, m.get? name = some value →
      reader depth (write value).toTree = .ok (asRead value)) :
    NameMap.ofTree (depth + 1) reader (Value.object (Template.sectionMembers write m)).toTree =
      .ok (m.mapValues asRead) := by
  have each : ∀ entry ∈ m.entries,
      reader depth (write entry.2).toTree = .ok (asRead entry.2) :=
    fun entry mem => read entry.1 entry.2 (get?_eq_some_iff.2 mem)
  have entries := Tree.toEntries_toTree each
  rw [NameMap.ofTree, Template.sectionMembers, entries]
  exact congrArg Except.ok (m.mapValues asRead).ofList_entries

/-- A set of names that was written is read again as a dependency list. -/
theorem NameSet.ofTree_toTree (depth : Depth) (s : NameSet) :
    NameSet.ofTree (depth + 1) (Value.array s.toValues).toTree = .ok s := by
  have sound : Tree.Sound (depth + 1) (.array s.toValues) := by
    refine Tree.sound_array fun item mem => ?_
    obtain ⟨name, -, rfl⟩ := List.mem_map.1 mem
    exact ⟨.string name, .string name⟩
  have names (listed : List String) : namesOfValues (listed.map .string) = some listed := by
    induction listed with
    | nil => rfl
    | cons name rest ih => rw [List.map_cons, namesOfValues, ih, Option.map_some]
  rw [NameSet.ofTree, Tree.toValue_toTree sound]
  dsimp only [bind, Except.bind]
  rw [NameSet.toValues, names]
  exact congrArg Except.ok s.ofList_names

theorem DeletionPolicy.ofTree_toTree (depth : Depth) (policy : DeletionPolicy) :
    DeletionPolicy.ofTree depth (Value.string policy.name).toTree = .ok policy := by
  cases policy <;> rfl

namespace Resource

/-- The deletion policy, unless it is the one that counts where none is stated. -/
def statedPolicy? (r : Resource) : Option DeletionPolicy :=
  if r.deletionPolicy = .delete then none else some r.deletionPolicy

theorem getD_statedPolicy? (r : Resource) : r.statedPolicy?.getD .delete = r.deletionPolicy := by
  unfold statedPolicy?
  split
  · next deletes => exact deletes.symm
  · rfl

theorem writtenPolicy_eq (r : Resource) :
    (if r.deletionPolicy = .delete then none else some (Value.string r.deletionPolicy.name)) =
      r.statedPolicy?.map fun policy => .string policy.name := by
  unfold statedPolicy?
  split <;> rfl

/-- The parts that a written resource is read into. -/
def parts (r : Resource) : List ResourcePart :=
  .type r.type ::
    (((nonempty? r.properties).map .properties).toList ++
    (((nonempty? r.dependsOn.toValues).map fun _ => .dependsOn r.dependsOn).toList ++
    ((r.condition.map fun name => .condition (some name)).toList ++
    ((r.statedPolicy?.map .deletionPolicy).toList ++
    (r.updateReplacePolicy.map fun policy => .updateReplacePolicy (some policy)).toList))))

theorem ofParts_parts (r : Resource) : ofParts r.parts = .ok r := by
  simp only [ofParts, parts, List.findSome?_cons, List.findSome?_append, findSome?_toList,
    Option.bind_map, Function.comp_def, Option.bind_fun_none, Option.none_or, Option.or_none,
    Option.bind_fun_some, getD_nonempty?, NameSet.getD_nonempty?_toValues, join_bind_some,
    getD_statedPolicy?]
  rfl

theorem writes_fields {depth : Depth} {r : Resource} (sound : r.Every Tree.Sound (depth + 1)) :
    ∃ members, r.toValue = .object members ∧ Writes (fields (depth + 1)) members r.parts := by
  refine ⟨_, rfl, ?_⟩
  simp only [objectMember_eq, listMember_eq, writtenPolicy_eq, List.append_assoc]
  refine .states rfl (.optional ?_ (.optional ?_ (.optional ?_ (.optional ?_ (.last ?_)))))
  · intro members stated
    rw [eq_some_of_nonempty?_eq_some stated]
    show (Members.ofTree _ _).map _ = _
    rw [Members.ofTree_toTree sound]
    rfl
  · intro items stated
    rw [eq_some_of_nonempty?_eq_some stated]
    show (NameSet.ofTree _ _).map _ = _
    rw [NameSet.ofTree_toTree]
    rfl
  · exact fun _ _ => rfl
  · intro policy _
    show (DeletionPolicy.ofTree _ _).map _ = _
    rw [DeletionPolicy.ofTree_toTree]
    rfl
  · intro policy _
    show (Tree.toOption _ _).map _ = _
    rw [Tree.toOption_toTree (by rintro ⟨⟩) (DeletionPolicy.ofTree_toTree _ policy)]
    rfl

/-- A resource is read as it was written. -/
theorem ofTree_toTree {depth : Depth} {r : Resource} (sound : r.Every Tree.Sound (depth + 1)) :
    Resource.ofTree (depth + 2) r.toValue.toTree = .ok r := by
  obtain ⟨members, same, writes⟩ := writes_fields sound
  have nodup : ((fields (depth + 1)).map FieldReader.name).Nodup := by simp [fields]
  rw [same, Resource.ofTree, readRecord_of_writes nodup writes]
  exact r.ofParts_parts

end Resource

namespace Parameter

/-- The flag, unless it is the one that counts where none is stated. -/
def statedFlag? (p : Parameter) : Option Bool :=
  if p.noEcho then some true else none

theorem getD_statedFlag? (p : Parameter) : p.statedFlag?.getD false = p.noEcho := by
  unfold statedFlag?
  cases p.noEcho <;> rfl

theorem writtenFlag_eq (p : Parameter) :
    (if p.noEcho then some (Value.bool true) else none) = p.statedFlag?.map .bool := by
  unfold statedFlag?
  split <;> rfl

/-- A parameter as it is read after it was written: a default that is null is not told from none. -/
def asRead (p : Parameter) : Parameter :=
  { p with default := p.default.bind Value.present? }

theorem asRead_eq_self {p : Parameter} (present : p.default ≠ some .null) : p.asRead = p := by
  obtain ⟨type, default, description, allowedValues, noEcho⟩ := p
  cases default with
  | none => rfl
  | some value =>
      have not_null : value ≠ .null := fun null => present (congrArg some null)
      rw [asRead, Option.bind_some, Value.present?_of_ne_null not_null]

/-- The parts that a written parameter is read into. -/
def parts (p : Parameter) : List ParameterPart :=
  .type p.type ::
    ((p.default.map fun value => .default value.present?).toList ++
    ((p.description.map fun text => .description (some text)).toList ++
    (((nonempty? p.allowedValues).map .allowedValues).toList ++
    (p.statedFlag?.map .noEcho).toList)))

theorem ofParts_parts (p : Parameter) : ofParts p.parts = .ok p.asRead := by
  simp only [ofParts, parts, List.findSome?_cons, List.findSome?_append, findSome?_toList,
    Option.bind_map, Function.comp_def, Option.bind_fun_none, Option.none_or, Option.or_none,
    Option.bind_fun_some, getD_nonempty?, join_bind_some, getD_statedFlag?]
  rfl

theorem writes_fields {depth : Depth} {p : Parameter} (sound : p.Every Tree.Sound (depth + 1)) :
    ∃ members, p.toValue = .object members ∧ Writes (fields (depth + 1)) members p.parts := by
  have default : optionalMember "Default" p.default =
      optionalMember "Default" (p.default.map id) := by
    rw [Option.map_id, id]
  refine ⟨_, rfl, ?_⟩
  rw [default]
  simp only [listMember_eq, writtenFlag_eq, List.append_assoc]
  refine .states rfl (.optional ?_ (.optional ?_ (.optional ?_ (.last ?_))))
  · intro value stated
    show (Tree.toOption _ _).map _ = _
    rw [id, Tree.toOption_toTree_value (sound.default value stated)]
    rfl
  · exact fun _ _ => rfl
  · intro values stated
    rw [eq_some_of_nonempty?_eq_some stated]
    have items : ∀ value ∈ p.allowedValues, (id value : Value).toTree.toValue depth = .ok value :=
      fun value mem => Tree.toValue_toTree (sound.allowedValues value mem)
    have read := Tree.toList_toTree items
    rw [List.map_id] at read
    show (Tree.toList _ _ _).map _ = _
    rw [read]
    rfl
  · exact fun _ _ => rfl

/-- A parameter is read as it was written, but for a default that is null. -/
theorem ofTree_toTree {depth : Depth} {p : Parameter} (sound : p.Every Tree.Sound (depth + 1)) :
    Parameter.ofTree (depth + 2) p.toValue.toTree = .ok p.asRead := by
  obtain ⟨members, same, writes⟩ := writes_fields sound
  have nodup : ((fields (depth + 1)).map FieldReader.name).Nodup := by simp [fields]
  rw [same, Parameter.ofTree, readRecord_of_writes nodup writes]
  exact p.ofParts_parts

end Parameter

namespace Output

/-- The parts that a written output is read into. -/
def parts (o : Output) : List OutputPart :=
  .value o.value ::
    ((o.description.map fun text => .description (some text)).toList ++
    (o.exportName.map fun name => .exportName (some name)).toList)

theorem ofParts_parts (o : Output) : ofParts o.parts = .ok o := by
  simp only [ofParts, parts, List.findSome?_cons, List.findSome?_append, findSome?_toList,
    Option.bind_map, Function.comp_def, Option.bind_fun_none, Option.none_or, Option.or_none,
    join_bind_some, Option.bind_fun_some]
  rfl

theorem exportOfTree_toTree {depth : Depth} {name : Value} (sound : Tree.Sound depth name) :
    exportOfTree (depth + 1) (Value.object [("Name", name)]).toTree = .ok name := by
  have writes : Writes (exportFields depth) [("Name", name)] [name] :=
    .states (Tree.toValue_toTree sound) .nil
  have nodup : ((exportFields depth).map FieldReader.name).Nodup := by simp [exportFields]
  rw [exportOfTree, readRecord_of_writes nodup writes]
  rfl

theorem writes_fields {depth : Depth} {o : Output} (sound : o.Every Tree.Sound (depth + 1)) :
    ∃ members, o.toValue = .object members ∧ Writes (fields (depth + 1)) members o.parts := by
  refine ⟨_, rfl, ?_⟩
  simp only [List.append_assoc]
  refine .states ?_ (.optional ?_ (.last ?_))
  · show (Tree.toValue _ _).map _ = _
    rw [Tree.toValue_toTree sound.value]
    rfl
  · exact fun _ _ => rfl
  · intro name stated
    have named : Tree.Sound depth name := sound.exportName name stated
    show (Tree.toOption _ _).map _ = _
    rw [Tree.toOption_toTree (by rintro ⟨⟩) (exportOfTree_toTree named)]
    rfl

/-- An output is read as it was written. -/
theorem ofTree_toTree {depth : Depth} {o : Output} (sound : o.Every Tree.Sound (depth + 1)) :
    Output.ofTree (depth + 2) o.toValue.toTree = .ok o := by
  obtain ⟨members, same, writes⟩ := writes_fields sound
  have nodup : ((fields (depth + 1)).map FieldReader.name).Nodup := by simp [fields]
  rw [same, Output.ofTree, readRecord_of_writes nodup writes]
  exact o.ofParts_parts

end Output

namespace Template

/-- A template as it is read after it was written. -/
def asRead (t : Template) : Template :=
  { t with parameters := t.parameters.mapValues Parameter.asRead }

/-- Only the default of a parameter can be lost by writing. -/
theorem asRead_eq_self {t : Template}
    (present : ∀ name p, t.parameters.get? name = some p → p.default ≠ some .null) :
    t.asRead = t := by
  rw [asRead, NameMap.mapValues_eq_self fun name p declared =>
    Parameter.asRead_eq_self (present name p declared)]

/-- The parts that a written template is read into. -/
def parts (t : Template) : List TemplatePart :=
  .formatVersion t.formatVersion ::
    ((t.description.map fun text => .description (some text)).toList ++
    (((nonempty? (sectionMembers Parameter.toValue t.parameters)).map fun _ =>
      .parameters (t.parameters.mapValues Parameter.asRead)).toList ++
    (((nonempty? (sectionMembers id t.mappings)).map fun _ => .mappings t.mappings).toList ++
    (((nonempty? (sectionMembers id t.conditions)).map fun _ => .conditions t.conditions).toList ++
    (.resources t.resources ::
    ((nonempty? (sectionMembers Output.toValue t.outputs)).map fun _ =>
      .outputs t.outputs).toList)))))

/-- A section that is not written is empty. -/
theorem getD_nonempty?_mapValues {α β : Type} (write : α → Value) (f : α → β) (m : NameMap α) :
    ((nonempty? (sectionMembers write m)).bind fun _ => some (m.mapValues f)).getD .empty =
      m.mapValues f := by
  obtain ⟨entries, sorted⟩ := m
  cases entries <;> rfl

theorem getD_nonempty?_sectionMembers {α : Type} (write : α → Value) (m : NameMap α) :
    ((nonempty? (sectionMembers write m)).bind fun _ => some m).getD .empty = m := by
  have mapped := getD_nonempty?_mapValues write id m
  rwa [NameMap.mapValues_eq_self (f := id) fun _ _ _ => rfl] at mapped

theorem ofParts_parts (t : Template) : ofParts t.parts = t.asRead := by
  simp only [ofParts, parts, List.findSome?_cons, List.findSome?_append, findSome?_toList,
    Option.bind_map, Function.comp_def, Option.bind_fun_none, Option.none_or, Option.or_none,
    join_bind_some, Option.bind_fun_some, getD_nonempty?_mapValues, getD_nonempty?_sectionMembers,
    Option.getD_some, asRead]

/-- A section that is written is read, two levels inside the document. -/
private theorem read_section {α β : Type} {reader : Depth → Tree → Reading β} {write : α → Value}
    {asRead : α → β} {m : NameMap α}
    (read : ∀ name value, m.get? name = some value →
      reader (maxDepth - 2) (write value).toTree = .ok (asRead value)) :
    NameMap.ofTree (maxDepth - 1) reader (Value.object (sectionMembers write m)).toTree =
      .ok (m.mapValues asRead) :=
  NameMap.ofTree_toTree read

/-- So is one whose declarations are read as they were written. -/
private theorem read_section_self {α : Type} {reader : Depth → Tree → Reading α} {write : α → Value}
    {m : NameMap α}
    (read : ∀ name value, m.get? name = some value →
      reader (maxDepth - 2) (write value).toTree = .ok value) :
    NameMap.ofTree (maxDepth - 1) reader (Value.object (sectionMembers write m)).toTree =
      .ok m := by
  have whole : NameMap.ofTree (maxDepth - 1) reader (Value.object (sectionMembers write m)).toTree =
      .ok (m.mapValues id) := read_section read
  rwa [NameMap.mapValues_eq_self (f := id) fun _ _ _ => rfl] at whole

/-- The part of a section that is stated. -/
private theorem read_part {α : Type} {reader : Depth → Tree → Reading α} {members stated : Members}
    {m : NameMap α} (part : NameMap α → TemplatePart)
    (whole : NameMap.ofTree (maxDepth - 1) reader (Value.object members).toTree = .ok m)
    (written : nonempty? members = some stated) :
    (NameMap.ofTree (maxDepth - 1) reader (Value.object stated).toTree).map part =
      .ok (part m) := by
  rw [eq_some_of_nonempty?_eq_some written, whole]
  rfl

/-- The resources are written even if there are none. -/
theorem writes_fields {t : Template} (sound : t.Every Tree.Sound) :
    ∃ members, t.toValue = .object members ∧ Writes (fields (maxDepth - 1)) members t.parts := by
  refine ⟨_, rfl, ?_⟩
  simp only [objectMember_eq, List.append_assoc]
  refine .states rfl (.optional ?_ (.optional ?_ (.optional ?_ (.optional ?_ (.states ?_
    (.last ?_))))))
  · exact fun _ _ => rfl
  · exact fun _ => read_part .parameters (read_section fun name p declared =>
      Parameter.ofTree_toTree (sound.parameters name p declared))
  · exact fun _ => read_part .mappings (read_section_self fun name table declared =>
      Tree.toValue_toTree (sound.mappings name table declared))
  · exact fun _ => read_part .conditions (read_section_self fun name term declared =>
      Tree.toValue_toTree (sound.conditions name term declared))
  · show (NameMap.ofTree (maxDepth - 1) Resource.ofTree
      (Value.object (sectionMembers Resource.toValue t.resources)).toTree).map _ = _
    rw [read_section_self fun name r declared =>
      Resource.ofTree_toTree (sound.resources name r declared)]
    rfl
  · exact fun _ => read_part .outputs (read_section_self fun name o declared =>
      Output.ofTree_toTree (sound.outputs name o declared))

/-- A template is read as it was written, but for defaults that are null. -/
theorem ofTree_toTree_asRead {t : Template} (sound : t.Every Tree.Sound) :
    Template.ofTree t.toValue.toTree = .ok t.asRead := by
  obtain ⟨members, same, writes⟩ := writes_fields sound
  have nodup : ((fields (maxDepth - 1)).map FieldReader.name).Nodup := by simp [fields]
  have read : readRecord "Template" maxDepth fields (Value.object members).toTree = .ok t.parts :=
    readRecord_of_writes nodup writes
  rw [same, Template.ofTree, read]
  exact congrArg Except.ok t.ofParts_parts

/-- In every layout a template is read as it was written, but for defaults that are null. -/
theorem ofText_chars_asRead (layout : Layout) {t : Template} (sound : t.Every Tree.Sound)
    (readsBack : ∀ n ∈ t.toValue.numbers, n.ReadsBack) :
    Template.ofText (String.ofList (layout.chars 0 t.toValue)) = .ok t.asRead := by
  rw [Template.ofText, Document.ofText_chars layout readsBack, Document.read,
    ofTree_toTree_asRead sound]
  rfl

theorem ofText_text {t : Template} (sound : t.Every Tree.Sound)
    (readsBack : ∀ n ∈ t.toValue.numbers, n.ReadsBack) : Template.ofText t.text = .ok t.asRead := by
  rw [text, Value.compact, ← Layout.chars_compact 0, ofText_chars_asRead .compact sound readsBack]

/-- In every layout a template without such a default is read as it was written. -/
theorem ofText_chars (layout : Layout) {t : Template} (sound : t.Every Tree.Sound)
    (present : ∀ name p, t.parameters.get? name = some p → p.default ≠ some .null)
    (readsBack : ∀ n ∈ t.toValue.numbers, n.ReadsBack) :
    Template.ofText (String.ofList (layout.chars 0 t.toValue)) = .ok t := by
  rw [ofText_chars_asRead layout sound readsBack, asRead_eq_self present]

/-- The round trip of a template that was read: both of its texts are read as that template again,
and writing what was read again gives the same text. The numbers of the template are assumed to
read back by themselves. -/
theorem ofText_text_of_ofText {document : String} {t : Template}
    (read : Template.ofText document = .ok t)
    (readsBack : ∀ n ∈ t.toValue.numbers, n.ReadsBack) :
    Template.ofText t.text = .ok t ∧ Template.ofText t.prettyText = .ok t ∧
      ∀ again, Template.ofText t.text = .ok again → again.text = t.text := by
  have sound := every_sound_of_ofText read
  have present : ∀ name p, t.parameters.get? name = some p → p.default ≠ some .null :=
    fun name p declared => default_ne_null_of_ofText read declared
  have compact : Template.ofText t.text = .ok t := by
    rw [text, Value.compact, ← Layout.chars_compact 0]
    exact ofText_chars .compact sound present readsBack
  have pretty : Template.ofText t.prettyText = .ok t := by
    rw [prettyText, Value.pretty, ← Layout.chars_pretty]
    exact ofText_chars .pretty sound present readsBack
  refine ⟨compact, pretty, fun again readAgain => ?_⟩
  rw [compact] at readAgain
  cases readAgain
  rfl

/-- A server on a port, which waits for its network. -/
def webServer : Template :=
  { Template.empty with
    resources := NameMap.empty.insert "Server"
      ⟨"Web::Server", [("Port", .number (.int 80))], .ofList ["Network"], none, .delete, none⟩ }

/-- The same server as the array of its fields, with one name for the list of what it waits for. -/
def webServerFields : Value :=
  .object [("Resources", .object [("Server",
    .array [.string "Web::Server", .object [("Port", .number (.int 80))], .string "Network"])])]

/-- What is read from an array is written as an object, and read again from that. -/
theorem webServer_is_read_again :
    let document := "\x7b
  \"Resources\": \x7b
    \"Server\": [
      \"Web::Server\",
      \x7b
        \"Port\": 80
      \x7d,
      \"Network\"
    ]
  \x7d
\x7d"
    Template.ofText document = .ok webServer ∧ Template.ofText webServer.text = .ok webServer ∧
      Template.ofText webServer.prettyText = .ok webServer := by
  intro document
  have port : ∀ n ∈ [Number.int 80], n.ReadsBack := by
    intro n mem
    rw [List.mem_singleton.1 mem]
    rfl
  have written : webServerFields.pretty = document := by decide
  have read : Template.ofText document = .ok webServer := by
    rw [← written, Value.pretty, ← Layout.chars_pretty, Template.ofText,
      Document.ofText_chars .pretty (v := webServerFields) port]
    rfl
  obtain ⟨compact, pretty, -⟩ := ofText_text_of_ofText read port
  exact ⟨read, compact, pretty⟩

end Template

end StackDeploy
