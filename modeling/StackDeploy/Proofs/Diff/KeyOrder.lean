/-
# Unchanged means the same declaration

For templates without doubles, what a diff leaves unchanged is what both revisions declare alike up
to the order of keys. The order is removed by sorting the keys of every object in a dynamic value;
the fields of a declaration stand in a fixed order already, and sections are sorted by themselves.
Since different declarations have different texts, there is nothing to apply exactly if the compared
sections have one text once their keys are sorted. Each comparison of a record is met field by
field, so that a field it passed over would show here.
-/

import StackDeploy.Proofs.Deployment.Submission
import StackDeploy.Proofs.Diff.Equivalence
import StackDeploy.Proofs.Json.KeyOrder
import StackDeploy.Proofs.Template.Faithful

namespace StackDeploy

open Json (Depth Members Number Value)

/-! ## Values without doubles -/

namespace Json.Value

/-- A value that a document without doubles can hold. -/
structure IsWhole (v : Value) : Prop extends v.WellFormed where
  integers : ∀ n ∈ v.numbers, n.IsInteger

instance (v : Value) : Decidable v.IsWhole :=
  decidable_of_iff (v.WellFormed ∧ ∀ n ∈ v.numbers, n.IsInteger)
    ⟨fun both => ⟨both.1, both.2⟩, fun whole => ⟨whole.1, whole.2⟩⟩

namespace IsWhole

variable {a b v : Value}

theorem same_iff (ha : a.IsWhole) (hb : b.IsWhole) : a.same b = true ↔ a.sortKeys = b.sortKeys :=
  same_iff_sortKeys_eq ha.distinct hb.distinct ha.integers hb.integers

theorem readsBack_sortKeys (whole : v.IsWhole) : ∀ n ∈ v.sortKeys.numbers, n.ReadsBack := by
  intro n inside
  rw [whole.distinct.mem_numbers_sortKeys] at inside
  exact Number.readsBack_of_isInteger (whole.integers n inside) (whole.fits n inside)

end IsWhole

end Json.Value

/-! ## Sorted keys -/

/-- A resource with the keys in its properties sorted. -/
def Resource.sortKeys (r : Resource) : Resource :=
  { r with properties := Members.byKey (Value.sortMembers r.properties) }

/-- A parameter with the keys in its default and its allowed values sorted. -/
def Parameter.sortKeys (p : Parameter) : Parameter :=
  { p with
    default := p.default.map Value.sortKeys
    allowedValues := p.allowedValues.map Value.sortKeys }

/-- An output with the keys in its value and its export name sorted. -/
def Output.sortKeys (o : Output) : Output :=
  { o with
    value := o.value.sortKeys
    exportName := o.exportName.map Value.sortKeys }

namespace Template

/-- A template with the keys of every object in its dynamic values sorted. -/
def sortKeys (t : Template) : Template :=
  { t with
    parameters := t.parameters.mapValues Parameter.sortKeys
    mappings := t.mappings.mapValues Value.sortKeys
    conditions := t.conditions.mapValues Value.sortKeys
    resources := t.resources.mapValues Resource.sortKeys
    outputs := t.outputs.mapValues Output.sortKeys }

/-- The template of the sections that a diff compares, alone. -/
def compared (t : Template) : Template :=
  { empty with parameters := t.parameters, resources := t.resources, outputs := t.outputs }

/-- A template that a document without doubles can hold. -/
def IsWhole (t : Template) : Prop :=
  t.Every fun _ value => value.IsWhole

instance (t : Template) : Decidable t.IsWhole :=
  inferInstanceAs (Decidable (t.Every fun _ value => value.IsWhole))

end Template

/-! ## Declarations that say the same -/

section

variable {α β : Type}

/-- Sections say the same exactly if they are equal after a change of their values that makes values
equal exactly if they say the same. -/
theorem NameMap.sameBy_iff_mapValues_eq {same : α → α → Bool} {f : α → β} {left right : NameMap α}
    (each : ∀ name x y, left.get? name = some x → right.get? name = some y →
      (same x y = true ↔ f x = f y)) :
    sameBy same left right = true ↔ left.mapValues f = right.mapValues f := by
  have agree (name : String) : optionsSame same (left.get? name) (right.get? name) = true ↔
      (left.mapValues f).get? name = (right.mapValues f).get? name := by
    rw [get?_mapValues, get?_mapValues]
    exact optionsSame_iff_map_eq (each name)
  rw [sameBy_iff, forall_congr' agree]
  exact ⟨eq_of_get?, fun same name => congrArg (get? · name) same⟩

end

section

variable {depth : Depth}

theorem Resource.same_iff {a b : Resource} (ha : a.Every (fun _ v => v.IsWhole) depth)
    (hb : b.Every (fun _ v => v.IsWhole) depth) :
    Resource.same a b = true ↔ a.sortKeys = b.sortKeys := by
  have properties : Members.same a.properties b.properties = true ↔
      Members.byKey (Value.sortMembers a.properties) =
        Members.byKey (Value.sortMembers b.properties) := by
    refine (Value.IsWhole.same_iff ha hb).trans ?_
    rw [Value.sortKeys, Value.sortKeys, Value.object.injEq]
  simp only [Resource.same, Bool.and_eq_true, beq_iff_eq, properties, sortKeys, mk.injEq]
  constructor
  · rintro ⟨⟨⟨⟨⟨type, dependsOn⟩, condition⟩, deletion⟩, update⟩, properties⟩
    exact ⟨type, properties, dependsOn, condition, deletion, update⟩
  · rintro ⟨type, properties, dependsOn, condition, deletion, update⟩
    exact ⟨⟨⟨⟨⟨type, dependsOn⟩, condition⟩, deletion⟩, update⟩, properties⟩

theorem Parameter.same_iff {a b : Parameter} (ha : a.Every (fun _ v => v.IsWhole) depth)
    (hb : b.Every (fun _ v => v.IsWhole) depth) :
    Parameter.same a b = true ↔ a.sortKeys = b.sortKeys := by
  have default : optionsSame Value.same a.default b.default = true ↔
      a.default.map Value.sortKeys = b.default.map Value.sortKeys :=
    optionsSame_iff_map_eq fun x y atA atB => (ha.default x atA).same_iff (hb.default y atB)
  have allowed : Value.sameItems a.allowedValues b.allowedValues = true ↔
      a.allowedValues.map Value.sortKeys = b.allowedValues.map Value.sortKeys :=
    Value.sameItems_iff_forall₂.trans (forall₂_iff_map_eq fun x hx y hy =>
      (ha.allowedValues x hx).same_iff (hb.allowedValues y hy))
  simp only [Parameter.same, Bool.and_eq_true, beq_iff_eq, default, allowed, sortKeys, mk.injEq]
  constructor
  · rintro ⟨⟨⟨⟨type, description⟩, noEcho⟩, default⟩, allowed⟩
    exact ⟨type, default, description, allowed, noEcho⟩
  · rintro ⟨type, default, description, allowed, noEcho⟩
    exact ⟨⟨⟨⟨type, description⟩, noEcho⟩, default⟩, allowed⟩

theorem Output.same_iff {a b : Output} (ha : a.Every (fun _ v => v.IsWhole) depth)
    (hb : b.Every (fun _ v => v.IsWhole) depth) :
    Output.same a b = true ↔ a.sortKeys = b.sortKeys := by
  have value : Value.same a.value b.value = true ↔ a.value.sortKeys = b.value.sortKeys :=
    ha.value.same_iff hb.value
  have exportName : optionsSame Value.same a.exportName b.exportName = true ↔
      a.exportName.map Value.sortKeys = b.exportName.map Value.sortKeys :=
    optionsSame_iff_map_eq fun x y atA atB => (ha.exportName x atA).same_iff (hb.exportName y atB)
  simp only [Output.same, Bool.and_eq_true, beq_iff_eq, value, exportName, sortKeys, mk.injEq]
  constructor
  · rintro ⟨⟨description, value⟩, exportName⟩
    exact ⟨value, description, exportName⟩
  · rintro ⟨value, description, exportName⟩
    exact ⟨⟨description, value⟩, exportName⟩

end

namespace Template

variable {a b t : Template}

/-! ## Sections that agree -/

theorem sameBy_resources_iff_sortKeys (ha : a.IsWhole) (hb : b.IsWhole) :
    NameMap.sameBy Resource.same a.resources b.resources = true ↔
      a.sortKeys.resources = b.sortKeys.resources :=
  NameMap.sameBy_iff_mapValues_eq fun name x y atA atB =>
    Resource.same_iff (ha.resources name x atA) (hb.resources name y atB)

theorem sameBy_parameters_iff_sortKeys (ha : a.IsWhole) (hb : b.IsWhole) :
    NameMap.sameBy Parameter.same a.parameters b.parameters = true ↔
      a.sortKeys.parameters = b.sortKeys.parameters :=
  NameMap.sameBy_iff_mapValues_eq fun name x y atA atB =>
    Parameter.same_iff (ha.parameters name x atA) (hb.parameters name y atB)

theorem sameBy_outputs_iff_sortKeys (ha : a.IsWhole) (hb : b.IsWhole) :
    NameMap.sameBy Output.same a.outputs b.outputs = true ↔
      a.sortKeys.outputs = b.sortKeys.outputs :=
  NameMap.sameBy_iff_mapValues_eq fun name x y atA atB =>
    Output.same_iff (ha.outputs name x atA) (hb.outputs name y atB)

/-- Templates have the same compared sections once their keys are sorted exactly if each of these
sections is the same. -/
theorem compared_sortKeys_eq_iff :
    a.compared.sortKeys = b.compared.sortKeys ↔
      a.sortKeys.resources = b.sortKeys.resources ∧
        a.sortKeys.parameters = b.sortKeys.parameters ∧
          a.sortKeys.outputs = b.sortKeys.outputs := by
  simp only [compared, sortKeys, mk.injEq, true_and]
  exact ⟨fun ⟨parameters, resources, outputs⟩ => ⟨resources, parameters, outputs⟩,
    fun ⟨resources, parameters, outputs⟩ => ⟨parameters, resources, outputs⟩⟩

/-! ## Texts that agree -/

theorem Every.compared {P : Depth → Value → Prop} (every : t.Every P) : t.compared.Every P where
  parameters := every.parameters
  mappings := nofun
  conditions := nofun
  resources := every.resources
  outputs := every.outputs

/-- What holds of every dynamic value once it is sorted holds of every one of a sorted template. -/
theorem Every.sortKeys {P Q : Depth → Value → Prop} (every : t.Every P)
    (each : ∀ depth v, P depth v → Q depth v.sortKeys) : t.sortKeys.Every Q where
  parameters := NameMap.forall_get?_mapValues.2 fun name p declared =>
    { default := fun value stated => by
        obtain ⟨kept, given, rfl⟩ := Option.map_eq_some_iff.1 stated
        exact each _ _ ((every.parameters name p declared).default kept given)
      allowedValues := List.forall_mem_map.2 fun value mem =>
        each _ _ ((every.parameters name p declared).allowedValues value mem) }
  mappings := NameMap.forall_get?_mapValues.2 fun name table declared =>
    each _ _ (every.mappings name table declared)
  conditions := NameMap.forall_get?_mapValues.2 fun name term declared =>
    each _ _ (every.conditions name term declared)
  resources := NameMap.forall_get?_mapValues.2 fun name r declared =>
    each _ _ (every.resources name r declared)
  outputs := NameMap.forall_get?_mapValues.2 fun name o declared =>
    { value := each _ _ (every.outputs name o declared).value
      exportName := fun value stated => by
        obtain ⟨kept, given, rfl⟩ := Option.map_eq_some_iff.1 stated
        exact each _ _ ((every.outputs name o declared).exportName kept given) }

theorem IsWhole.readsBack (whole : t.IsWhole) :
    ∀ n ∈ t.compared.sortKeys.toValue.numbers, n.ReadsBack :=
  (whole.compared.sortKeys fun _ _ => Value.IsWhole.readsBack_sortKeys).forall_numbers

/-- The diff of templates without doubles decides whether their declarations are equal up to the
order of keys: an id that both have is unchanged exactly if its two resources are equal once their
keys are sorted, the parameters and the outputs have changed exactly if they are not, and there is
nothing to apply exactly if the compared sections have the same text once their keys are sorted. -/
theorem diff_decides_equality_up_to_key_order (a b : Template) (ha : a.IsWhole) (hb : b.IsWhole) :
    (∀ id before after, a.resources.get? id = some before → b.resources.get? id = some after →
      (id ∈ (a.diff b).unchanged.names ↔ before.sortKeys = after.sortKeys)) ∧
      ((a.diff b).parametersChanged = false ↔ a.sortKeys.parameters = b.sortKeys.parameters) ∧
        ((a.diff b).outputsChanged = false ↔ a.sortKeys.outputs = b.sortKeys.outputs) ∧
          ((a.diff b).strategy = .skip ↔
            a.compared.sortKeys.text = b.compared.sortKeys.text) := by
  refine ⟨fun id before after atA atB => ?_, ?_, ?_, ?_⟩
  · rw [← Resource.same_iff (ha.resources id before atA) (hb.resources id after atB)]
    refine (mem_idsOf_diff_iff .unchanged).trans ?_
    rw [fate, atA, atB]
    show some (Fate.ofSame (Resource.same before after)) = some .unchanged ↔ _
    cases Resource.same before after <;> decide
  · rw [← sameBy_parameters_iff_sortKeys ha hb]
    exact iff_of_eq (Bool.not_eq_false' _)
  · rw [← sameBy_outputs_iff_sortKeys ha hb]
    exact iff_of_eq (Bool.not_eq_false' _)
  · have skips : (a.diff b).strategy = .skip ↔ (a.diff b).hasChanges = false := by
      rw [TemplateDiff.strategy_eq_skip_iff, ← TemplateDiff.hasChanges_iff, Bool.not_eq_true]
    rw [skips, hasChanges_diff_eq_false_iff, sameBy_resources_iff_sortKeys ha hb,
      sameBy_parameters_iff_sortKeys ha hb, sameBy_outputs_iff_sortKeys ha hb,
      ← compared_sortKeys_eq_iff, text_inj ha.readsBack hb.readsBack]

/-- A queue whose keys change places is unchanged, and there is nothing to apply. -/
theorem keys_of_a_queue_change_places :
    let before := queues [("Jobs",
      [("QueueName", .string "jobs"), ("DelaySeconds", .number (.int 5))])]
    let after := queues [("Jobs",
      [("DelaySeconds", .number (.int 5)), ("QueueName", .string "jobs")])]
    before.IsWhole ∧ after.IsWhole ∧ before ≠ after ∧
      "Jobs" ∈ (before.diff after).unchanged.names ∧
        (before.diff after).parametersChanged = false ∧
          (before.diff after).outputsChanged = false ∧ (before.diff after).strategy = .skip := by
  intro before after
  have wholeBefore : before.IsWhole := by decide
  have wholeAfter : after.IsWhole := by decide
  obtain ⟨resources, parameters, outputs, texts⟩ :=
    diff_decides_equality_up_to_key_order before after wholeBefore wholeAfter
  have sorted : before.compared.sortKeys = after.compared.sortKeys := by decide
  refine ⟨wholeBefore, wholeAfter, by decide, ?_, parameters.2 rfl, outputs.2 rfl,
    texts.2 (congrArg text sorted)⟩
  exact (resources "Jobs" _ _ rfl rfl).2 (by decide)

end Template

end StackDeploy
