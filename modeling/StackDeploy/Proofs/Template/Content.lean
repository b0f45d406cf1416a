/-
# The dynamic values of a template

Besides its fixed fields a template holds dynamic values: the defaults and allowed values of
parameters, mappings, conditions, the properties of resources, and the values and export names of
outputs. A property of values is lifted to templates here, once for all these places, together with
the nesting that is left at each of them. A template that was read holds only values that reading
can give; in particular its objects hold every key once.
-/

import StackDeploy.Proofs.Json.Reading
import StackDeploy.Proofs.Names.Lookup
import StackDeploy.Template.Reader

namespace StackDeploy

open Json

/-- A property of the values at a depth holds of the properties of a resource. -/
def Resource.Every (P : Depth → Value → Prop) (depth : Depth) (r : Resource) : Prop :=
  P depth (.object r.properties)

/-- A property of the values at a depth holds of the default and of the allowed values, which stand
one level further in. -/
structure Parameter.Every (P : Depth → Value → Prop) (depth : Depth) (p : Parameter) : Prop where
  default : ∀ value, p.default = some value → P depth value
  allowedValues : ∀ value ∈ p.allowedValues, P (depth - 1) value

/-- A property of the values at a depth holds of the value and of the export name, which stands one
level further in. -/
structure Output.Every (P : Depth → Value → Prop) (depth : Depth) (o : Output) : Prop where
  value : P depth o.value
  exportName : ∀ name, o.exportName = some name → P (depth - 1) name

/-- A property of the values at a depth holds of every dynamic value of a template. A mapping lies
inside two containers, the template and its section; a field of a declaration inside three. -/
structure Template.Every (P : Depth → Value → Prop) (t : Template) : Prop where
  parameters : ∀ name p, t.parameters.get? name = some p → p.Every P (maxDepth - 3)
  mappings : ∀ name table, t.mappings.get? name = some table → P (maxDepth - 2) table
  conditions : ∀ name term, t.conditions.get? name = some term → P (maxDepth - 2) term
  resources : ∀ name r, t.resources.get? name = some r → r.Every P (maxDepth - 3)
  outputs : ∀ name o, t.outputs.get? name = some o → o.Every P (maxDepth - 3)

/-- A template in whose dynamic values every object holds every key once. -/
def Template.Distinct (t : Template) : Prop :=
  t.Every fun _ value => value.Distinct

section

variable {α : Type} {P : α → Prop} {Q : Depth → Value → Prop} [DecidablePred P]
  [∀ depth, DecidablePred (Q depth)]

/-- A property of what a section declares is found by looking through its entries. -/
instance (m : NameMap α) : Decidable (∀ name a, m.get? name = some a → P a) :=
  decidable_of_iff (∀ entry ∈ m.entries, P entry.2)
    ⟨fun all name a declared => all (name, a) (NameMap.get?_eq_some_iff.1 declared),
      fun all entry mem => all entry.1 entry.2 (NameMap.get?_eq_some_iff.2 mem)⟩

instance (depth : Depth) (r : Resource) : Decidable (r.Every Q depth) :=
  inferInstanceAs (Decidable (Q depth (.object r.properties)))

instance (depth : Depth) (p : Parameter) : Decidable (p.Every Q depth) :=
  decidable_of_iff ((∀ value ∈ p.default, Q depth value) ∧
      ∀ value ∈ p.allowedValues, Q (depth - 1) value)
    ⟨fun every => ⟨every.1, every.2⟩, fun every => ⟨every.1, every.2⟩⟩

instance (depth : Depth) (o : Output) : Decidable (o.Every Q depth) :=
  decidable_of_iff (Q depth o.value ∧ ∀ name ∈ o.exportName, Q (depth - 1) name)
    ⟨fun every => ⟨every.1, every.2⟩, fun every => ⟨every.1, every.2⟩⟩

instance (t : Template) : Decidable (t.Every Q) :=
  decidable_of_iff
    ((∀ name p, t.parameters.get? name = some p → p.Every Q (maxDepth - 3)) ∧
      (∀ name table, t.mappings.get? name = some table → Q (maxDepth - 2) table) ∧
      (∀ name term, t.conditions.get? name = some term → Q (maxDepth - 2) term) ∧
      (∀ name r, t.resources.get? name = some r → r.Every Q (maxDepth - 3)) ∧
      ∀ name o, t.outputs.get? name = some o → o.Every Q (maxDepth - 3))
    ⟨fun every => ⟨every.1, every.2.1, every.2.2.1, every.2.2.2.1, every.2.2.2.2⟩,
      fun every => ⟨every.1, every.2, every.3, every.4, every.5⟩⟩

instance (t : Template) : Decidable t.Distinct :=
  inferInstanceAs (Decidable (t.Every fun _ value => value.Distinct))

end

theorem Template.Every.mono {P Q : Depth → Value → Prop} {t : Template} (every : t.Every P)
    (weaker : ∀ depth value, P depth value → Q depth value) : t.Every Q where
  parameters := fun name p declared =>
    ⟨fun value stated => weaker _ _ ((every.parameters name p declared).default value stated),
      fun value mem => weaker _ _ ((every.parameters name p declared).allowedValues value mem)⟩
  mappings := fun name table declared => weaker _ _ (every.mappings name table declared)
  conditions := fun name term declared => weaker _ _ (every.conditions name term declared)
  resources := fun name r declared => weaker _ _ (every.resources name r declared)
  outputs := fun name o declared =>
    ⟨weaker _ _ (every.outputs name o declared).value,
      fun value stated => weaker _ _ ((every.outputs name o declared).exportName value stated)⟩

/-- The template without declarations has no dynamic value. -/
theorem Template.distinct_empty : Template.empty.Distinct := by
  constructor <;> intro name value declared <;> cases declared

namespace NameMap

variable {α : Type}

/-- An entry of a section comes from the list that the section was made of. -/
theorem mem_of_mem_insertEntry {name : String} {value : α} {entry : String × α}
    {entries : List (String × α)} (mem : entry ∈ insertEntry name value entries) :
    entry = (name, value) ∨ entry ∈ entries := by
  induction entries with
  | nil => exact Or.inl (List.mem_singleton.1 mem)
  | cons first rest ih =>
      obtain ⟨key, kept⟩ := first
      unfold insertEntry at mem
      split at mem
      · exact List.mem_cons.1 mem
      · split at mem
        · exact (List.mem_cons.1 mem).imp id (List.mem_cons_of_mem _)
        · rcases List.mem_cons.1 mem with rfl | later
          · exact Or.inr List.mem_cons_self
          · exact (ih later).imp id (List.mem_cons_of_mem _)

theorem mem_of_mem_insertAll {settings : List (String × α)} {m : NameMap α}
    {entry : String × α} (mem : entry ∈ (insertAll settings m).entries) :
    entry ∈ settings ∨ entry ∈ m.entries := by
  induction settings generalizing m with
  | nil => exact Or.inr mem
  | cons setting rest ih =>
      rcases ih mem with later | kept
      · exact Or.inl (List.mem_cons_of_mem _ later)
      · rcases mem_of_mem_insertEntry kept with rfl | old
        · exact Or.inl List.mem_cons_self
        · exact Or.inr old

/-- Every declaration of a section that is read comes from one level further in. -/
theorem of_get?_ofTree {depth : Depth} {reader : Depth → Tree → Reading α} {tree : Tree}
    {m : NameMap α} (read : NameMap.ofTree depth reader tree = .ok m) :
    ∃ inner, depth = inner + 1 ∧
      ∀ name value, m.get? name = some value → ∃ item, reader inner item = .ok value := by
  obtain ⟨entries, readEntries, rfl⟩ := ok_of_map read
  obtain ⟨inner, rfl, origin⟩ := Tree.of_mem_toEntries readEntries
  refine ⟨inner, rfl, fun name value declared => ?_⟩
  have mem := mem_of_mem_insertAll (get?_eq_some_iff.1 declared)
  exact origin _ (mem.resolve_right List.not_mem_nil)

end NameMap

namespace Resource

/-- The part of the properties is the only one of a written resource that holds a dynamic value. -/
private theorem sound_of_part {depth : Depth} {field : FieldReader ResourcePart} {item : Tree}
    {members : Members} (mem : field ∈ fields depth)
    (read : field.read item = .ok (.properties members)) :
    Tree.Sound depth (.object members) := by
  simp only [fields, List.mem_cons, List.not_mem_nil, or_false] at mem
  rcases mem with rfl | rfl | rfl | rfl | rfl | rfl <;>
    obtain ⟨value, readValue, same⟩ := ok_of_map read <;> cases same
  exact Members.sound_ofTree readValue

/-- Properties that are not stated are an empty object, which needs one level itself. -/
theorem every_sound_ofTree {depth : Depth} {tree : Tree} {r : Resource}
    (read : Resource.ofTree (depth + 2) tree = .ok r) : r.Every Tree.Sound (depth + 1) := by
  obtain ⟨parts, readParts, made⟩ := ok_of_exceptBind read
  obtain ⟨_, ⟨⟩, origin⟩ := FieldReader.of_mem_readRecord readParts
  obtain ⟨type, -, made⟩ := ok_of_bind made
  cases made
  show Tree.Sound (depth + 1) (.object (Option.getD _ []))
  generalize stated : List.findSome? _ parts = chosen
  cases chosen with
  | none => exact ⟨.object List.nodup_nil (List.forall_mem_nil _), .object (List.forall_mem_nil _)⟩
  | some members =>
      obtain ⟨part, mem, same⟩ := List.exists_of_findSome?_eq_some stated
      obtain ⟨field, field_mem, item, readItem⟩ := origin part mem
      cases part with
      | properties found => cases same; exact sound_of_part field_mem readItem
      | _ => cases same

end Resource

namespace Parameter

private theorem sound_of_default {depth : Depth} {field : FieldReader ParameterPart} {item : Tree}
    {value : Value} (mem : field ∈ fields depth)
    (read : field.read item = .ok (.default (some value))) :
    Tree.Sound depth value ∧ value ≠ .null := by
  simp only [fields, List.mem_cons, List.not_mem_nil, or_false] at mem
  rcases mem with rfl | rfl | rfl | rfl | rfl <;>
    obtain ⟨found, readFound, same⟩ := ok_of_map read <;> cases same
  obtain ⟨notNull, readValue⟩ := Tree.of_toOption readFound
  refine ⟨Tree.sound_toValue readValue, ?_⟩
  rintro rfl
  exact notNull ((Tree.leaf_of_toValue readValue).1 rfl)

private theorem sound_of_allowedValues {depth : Depth} {field : FieldReader ParameterPart}
    {item : Tree} {values : List Value} (mem : field ∈ fields depth)
    (read : field.read item = .ok (.allowedValues values)) :
    ∀ value ∈ values, Tree.Sound (depth - 1) value := by
  simp only [fields, List.mem_cons, List.not_mem_nil, or_false] at mem
  rcases mem with rfl | rfl | rfl | rfl | rfl <;>
    obtain ⟨found, readFound, same⟩ := ok_of_map read <;> cases same
  obtain ⟨inner, rfl, origin⟩ := Tree.of_mem_toList readFound
  intro value mem
  obtain ⟨tree, readValue⟩ := origin value mem
  exact Tree.sound_toValue readValue

/-- A parameter that was read has no null for its default: a null default counts as none. -/
theorem every_sound_ofTree {depth : Depth} {tree : Tree} {p : Parameter}
    (read : Parameter.ofTree (depth + 1) tree = .ok p) :
    p.Every Tree.Sound depth ∧ p.default ≠ some .null := by
  obtain ⟨parts, readParts, made⟩ := ok_of_exceptBind read
  obtain ⟨_, ⟨⟩, origin⟩ := FieldReader.of_mem_readRecord readParts
  obtain ⟨type, -, made⟩ := ok_of_bind made
  have default_sound : ∀ value, p.default = some value →
      Tree.Sound depth value ∧ value ≠ .null := by
    cases made
    intro value stated
    obtain ⟨part, mem, same⟩ := List.exists_of_findSome?_eq_some (Option.join_eq_some_iff.1 stated)
    obtain ⟨field, field_mem, item, readItem⟩ := origin part mem
    cases part with
    | default found => cases same; exact sound_of_default field_mem readItem
    | _ => cases same
  have allowed_sound : ∀ value ∈ p.allowedValues, Tree.Sound (depth - 1) value := by
    cases made
    show ∀ value ∈ Option.getD _ [], Tree.Sound (depth - 1) value
    generalize stated : List.findSome? _ parts = chosen
    cases chosen with
    | none => exact List.forall_mem_nil _
    | some values =>
        obtain ⟨part, mem, same⟩ := List.exists_of_findSome?_eq_some stated
        obtain ⟨field, field_mem, item, readItem⟩ := origin part mem
        cases part with
        | allowedValues found => cases same; exact sound_of_allowedValues field_mem readItem
        | _ => cases same
  exact ⟨⟨fun value stated => (default_sound value stated).1, allowed_sound⟩,
    fun stated => (default_sound _ stated).2 rfl⟩

end Parameter

namespace Output

private theorem sound_of_value {depth : Depth} {field : FieldReader OutputPart} {item : Tree}
    {value : Value} (mem : field ∈ fields depth) (read : field.read item = .ok (.value value)) :
    Tree.Sound depth value := by
  simp only [fields, List.mem_cons, List.not_mem_nil, or_false] at mem
  rcases mem with rfl | rfl | rfl <;>
    obtain ⟨found, readFound, same⟩ := ok_of_map read <;> cases same
  exact Tree.sound_toValue readFound

private theorem sound_exportOfTree {depth : Depth} {tree : Tree} {name : Value}
    (read : exportOfTree depth tree = .ok name) : Tree.Sound (depth - 1) name := by
  obtain ⟨parts, readParts, made⟩ := ok_of_bind read
  obtain ⟨inner, rfl, origin⟩ := FieldReader.of_mem_readRecord readParts
  cases parts with
  | nil => cases made
  | cons part rest =>
      cases made
      obtain ⟨field, mem, item, readItem⟩ := origin name List.mem_cons_self
      rw [exportFields, List.mem_singleton] at mem
      subst mem
      exact Tree.sound_toValue readItem

private theorem sound_of_exportName {depth : Depth} {field : FieldReader OutputPart} {item : Tree}
    {name : Value} (mem : field ∈ fields depth)
    (read : field.read item = .ok (.exportName (some name))) : Tree.Sound (depth - 1) name := by
  simp only [fields, List.mem_cons, List.not_mem_nil, or_false] at mem
  rcases mem with rfl | rfl | rfl <;>
    obtain ⟨found, readFound, same⟩ := ok_of_map read <;> cases same
  exact sound_exportOfTree (Tree.of_toOption readFound).2

theorem every_sound_ofTree {depth : Depth} {tree : Tree} {o : Output}
    (read : Output.ofTree (depth + 1) tree = .ok o) : o.Every Tree.Sound depth := by
  obtain ⟨parts, readParts, made⟩ := ok_of_exceptBind read
  obtain ⟨_, ⟨⟩, origin⟩ := FieldReader.of_mem_readRecord readParts
  obtain ⟨value, required, made⟩ := ok_of_bind made
  cases made
  constructor
  · show Tree.Sound depth value
    obtain ⟨part, mem, same⟩ :=
      List.exists_of_findSome?_eq_some (FieldReader.eq_some_of_require required)
    obtain ⟨field, field_mem, item, readItem⟩ := origin part mem
    cases part with
    | value found => cases same; exact sound_of_value field_mem readItem
    | _ => cases same
  · intro name stated
    obtain ⟨part, mem, same⟩ := List.exists_of_findSome?_eq_some (Option.join_eq_some_iff.1 stated)
    obtain ⟨field, field_mem, item, readItem⟩ := origin part mem
    cases part with
    | exportName found => cases same; exact sound_of_exportName field_mem readItem
    | _ => cases same

end Output

namespace Template

/-- What is declared in a section was declared in the part that the section was read from. -/
private theorem declared_in_part {α : Type} {parts : List TemplatePart}
    {select : TemplatePart → Option (NameMap α)} {name : String} {value : α}
    (declared : ((parts.findSome? select).getD .empty).get? name = some value) :
    ∃ part ∈ parts, ∃ m, select part = some m ∧ m.get? name = some value := by
  cases stated : parts.findSome? select with
  | none =>
      rw [stated] at declared
      cases declared
  | some m =>
      rw [stated] at declared
      obtain ⟨part, mem, same⟩ := List.exists_of_findSome?_eq_some stated
      exact ⟨part, mem, m, same, declared⟩

/-- What reading guarantees of the sections in a part of a template. -/
private def SoundPart : TemplatePart → Prop
  | .parameters m => ∀ name p, m.get? name = some p →
      p.Every Tree.Sound (maxDepth - 3) ∧ p.default ≠ some .null
  | .mappings m | .conditions m => ∀ name v, m.get? name = some v → Tree.Sound (maxDepth - 2) v
  | .resources m => ∀ name r, m.get? name = some r → r.Every Tree.Sound (maxDepth - 3)
  | .outputs m => ∀ name o, m.get? name = some o → o.Every Tree.Sound (maxDepth - 3)
  | _ => True

private theorem soundPart_of_field {field : FieldReader TemplatePart} {item : Tree}
    {part : TemplatePart} (mem : field ∈ fields (maxDepth - 1))
    (read : field.read item = .ok part) : SoundPart part := by
  simp only [fields, List.mem_cons, List.not_mem_nil, or_false] at mem
  rcases mem with rfl | rfl | rfl | rfl | rfl | rfl | rfl <;>
    obtain ⟨found, readFound, rfl⟩ := ok_of_map read
  · trivial
  · trivial
  · obtain ⟨_, ⟨⟩, origin⟩ := NameMap.of_get?_ofTree readFound
    intro name p declared
    obtain ⟨tree, readTree⟩ := origin name p declared
    exact Parameter.every_sound_ofTree readTree
  · obtain ⟨_, ⟨⟩, origin⟩ := NameMap.of_get?_ofTree readFound
    intro name v declared
    obtain ⟨tree, readTree⟩ := origin name v declared
    exact Tree.sound_toValue readTree
  · obtain ⟨_, ⟨⟩, origin⟩ := NameMap.of_get?_ofTree readFound
    intro name v declared
    obtain ⟨tree, readTree⟩ := origin name v declared
    exact Tree.sound_toValue readTree
  · obtain ⟨_, ⟨⟩, origin⟩ := NameMap.of_get?_ofTree readFound
    intro name r declared
    obtain ⟨tree, readTree⟩ := origin name r declared
    exact Resource.every_sound_ofTree readTree
  · obtain ⟨_, ⟨⟩, origin⟩ := NameMap.of_get?_ofTree readFound
    intro name o declared
    obtain ⟨tree, readTree⟩ := origin name o declared
    exact Output.every_sound_ofTree readTree

private theorem of_ofText {text : String} {t : Template} (read : Template.ofText text = .ok t) :
    ∃ parts, t = ofParts parts ∧ ∀ part ∈ parts, SoundPart part := by
  obtain ⟨parts, readParts, rfl⟩ := ok_of_map (Document.of_read read).2
  obtain ⟨_, ⟨⟩, origin⟩ := FieldReader.of_mem_readRecord readParts
  refine ⟨parts, rfl, fun part mem => ?_⟩
  obtain ⟨field, field_mem, item, readItem⟩ := origin part mem
  exact soundPart_of_field field_mem readItem

/-- A template that was read holds only values that reading can give. -/
theorem every_sound_of_ofText {text : String} {t : Template}
    (read : Template.ofText text = .ok t) : t.Every Tree.Sound := by
  obtain ⟨parts, rfl, sound⟩ := of_ofText read
  constructor
  · intro name p declared
    obtain ⟨part, mem, m, same, found⟩ := declared_in_part declared
    cases part <;> cases same
    exact (sound _ mem name p found).1
  · intro name v declared
    obtain ⟨part, mem, m, same, found⟩ := declared_in_part declared
    cases part <;> cases same
    exact sound _ mem name v found
  · intro name v declared
    obtain ⟨part, mem, m, same, found⟩ := declared_in_part declared
    cases part <;> cases same
    exact sound _ mem name v found
  · intro name r declared
    obtain ⟨part, mem, m, same, found⟩ := declared_in_part declared
    cases part <;> cases same
    exact sound _ mem name r found
  · intro name o declared
    obtain ⟨part, mem, m, same, found⟩ := declared_in_part declared
    cases part <;> cases same
    exact sound _ mem name o found

theorem default_ne_null_of_ofText {text : String} {t : Template}
    (read : Template.ofText text = .ok t) {name : String} {p : Parameter}
    (declared : t.parameters.get? name = some p) : p.default ≠ some .null := by
  obtain ⟨parts, rfl, sound⟩ := of_ofText read
  obtain ⟨part, mem, m, same, found⟩ := declared_in_part declared
  cases part <;> cases same
  exact (sound _ mem name p found).2

theorem distinct_of_ofText {text : String} {t : Template}
    (read : Template.ofText text = .ok t) : t.Distinct :=
  (every_sound_of_ofText read).mono fun _ _ sound => sound.1

end Template

end StackDeploy
