/-
# References of revisions that say the same

Comparing two revisions and collecting the names that their resources refer to are separate walks
over the same values. They agree: values that say the same mention the same names, whatever the
order of their keys and the spelling of their numbers, because an intrinsic function is told by its
only key, by texts, and by the keys of its variables. Revisions without changes between them are
therefore checked with the same outcome.
-/

import StackDeploy.Proofs.Diff.Partition
import StackDeploy.Proofs.Template.Mention
import StackDeploy.Template.Validation

namespace StackDeploy

open Json (Members Value)

/-! ## Values that say the same -/

section

variable {α β : Type} {R : α → β → Prop} {P : α → Prop} {Q : β → Prop}

private theorem exists_mem_congr_of_forall₂ {xs : List α} {ys : List β}
    (related : List.Forall₂ R xs ys) (agree : ∀ x ∈ xs, ∀ y ∈ ys, R x y → (P x ↔ Q y)) :
    (∃ x ∈ xs, P x) ↔ ∃ y ∈ ys, Q y := by
  induction related with
  | nil => simp
  | cons here _ ih =>
      rw [List.exists_mem_cons_iff, List.exists_mem_cons_iff]
      refine or_congr (agree _ List.mem_cons_self _ List.mem_cons_self here)
        (ih fun x hx y hy => ?_)
      exact agree x (List.mem_cons_of_mem _ hx) y (List.mem_cons_of_mem _ hy)

/-- What is made of related options is the same if it is the same for related values. -/
private theorem map_eq_of_optionsSame {same : α → α → Bool} {a b : Option α} {f g : α → β}
    (related : optionsSame same a b = true)
    (agree : ∀ x y, a = some x → b = some y → same x y = true → f x = g y) :
    a.map f = b.map g := by
  cases a with
  | none => cases b with
    | none => rfl
    | some => cases related
  | some x => cases b with
    | none => cases related
    | some y => exact congrArg some (agree x y rfl rfl related)

theorem isNone_eq_of_optionsSame {same : α → α → Bool} {a b : Option α}
    (related : optionsSame same a b = true) : a.isNone = b.isNone := by
  have units : a.map (fun _ => ()) = b.map fun _ => () :=
    map_eq_of_optionsSame related fun _ _ _ _ _ => rfl
  rw [← Option.isNone_map, units, Option.isNone_map]

end

namespace Json

/-- How two values say the same: they are of one kind, and so do their parts. -/
inductive Value.Agrees : Value → Value → Prop
  | null : Agrees .null .null
  | bool (value : Bool) : Agrees (.bool value) (.bool value)
  | number {m n : Number} : m.same n = true → Agrees (.number m) (.number n)
  | string (text : String) : Agrees (.string text) (.string text)
  | array {xs ys : List Value} : sameItems xs ys = true → Agrees (.array xs) (.array ys)
  | object {left right : Members} : Members.same left right = true →
      Agrees (.object left) (.object right)

theorem Value.agrees_of_same {a b : Value} (same : a.same b = true) : a.Agrees b := by
  cases a with
  | null => cases b with
    | null => exact .null
    | _ => cases same
  | bool value => cases b with
    | bool other => exact beq_iff_eq.1 (show (value == other) = true from same) ▸ .bool value
    | _ => cases same
  | number m => cases b with
    | number n => exact .number same
    | _ => cases same
  | string text => cases b with
    | string other => exact beq_iff_eq.1 (show (text == other) = true from same) ▸ .string text
    | _ => cases same
  | array xs => cases b with
    | array ys => exact .array same
    | _ => cases same
  | object left => cases b with
    | object right => exact .object same
    | _ => cases same

/-- A member has a counterpart in every object that has a related value at each key. -/
private theorem Members.exists_counterpart {left right : Members} {related : Value → Value → Bool}
    (once : (left.map Prod.fst).Nodup)
    (agree : ∀ key, optionsSame related (get? key left) (get? key right) = true)
    {member : String × Value} (mem : member ∈ left) :
    ∃ other ∈ right, related member.2 other.2 = true := by
  have atKey := agree member.1
  rw [get?_eq_lookupEntry, get?_eq_lookupEntry, NameMap.lookupEntry_of_mem once mem] at atKey
  cases found : NameMap.lookupEntry member.1 right with
  | none => rw [found] at atKey; cases atKey
  | some other =>
      rw [found] at atKey
      exact ⟨_, NameMap.mem_of_lookupEntry found, atKey⟩

/-- Objects that say the same have members with a property if the values of the members agree on
it. -/
theorem Members.exists_mem_congr {left right : Members} {P : Value → Prop}
    (hleft : (left.map Prod.fst).Nodup) (hright : (right.map Prod.fst).Nodup)
    (same : Members.same left right = true)
    (agree : ∀ l ∈ left, ∀ r ∈ right, Value.same l.2 r.2 = true → (P l.2 ↔ P r.2)) :
    (∃ l ∈ left, P l.2) ↔ ∃ r ∈ right, P r.2 := by
  rw [same_iff hleft hright] at same
  have back (key : String) :
      optionsSame (fun r l => Value.same l r) (get? key right) (get? key left) = true := by
    rw [← same key]
    cases get? key left <;> cases get? key right <;> rfl
  constructor
  · rintro ⟨l, mem, holds⟩
    obtain ⟨r, there, agrees⟩ := exists_counterpart hleft same mem
    exact ⟨r, there, (agree l mem r there agrees).1 holds⟩
  · rintro ⟨r, mem, holds⟩
    obtain ⟨l, there, agrees⟩ := exists_counterpart hright back mem
    exact ⟨l, there, (agree l there r mem agrees).2 holds⟩

theorem Value.string?_eq_of_same {a b : Value} (same : a.same b = true) :
    a.string? = b.string? := by
  cases agrees_of_same same <;> rfl

end Json

namespace Reference

variable {a b : Value} {name : String}

theorem attributeTarget_cons (item : Value) (rest : List Value) :
    attributeTarget (.array (item :: rest)) = item.string? := by
  cases item <;> rfl

/-- The variables that come with a text. -/
private def localVariables : List Value → Members
  | .object bound :: _ => bound
  | _ => []

private theorem substitutionNames_cons (item : Value) (rest : List Value) :
    substitutionNames (.array (item :: rest)) =
      (item.string?.toList.flatMap namesInText).filter fun name =>
        (Members.get? name (localVariables rest)).isNone := by
  cases item with
  | string text =>
      show substitutionNames _ = List.filter _ (namesInText text ++ [])
      rw [List.append_nil]
      match rest with
      | .object bound :: _ => rfl
      | [] | .null :: _ | .bool _ :: _ | .number _ :: _ | .string _ :: _ | .array _ :: _ =>
          exact (List.filter_eq_self.2 fun _ _ => rfl).symm
  | _ => rfl

private theorem isNone_get?_localVariables_eq {xs ys : List Value} (hxs : ∀ x ∈ xs, x.Distinct)
    (hys : ∀ y ∈ ys, y.Distinct) (items : List.Forall₂ (fun x y => x.same y = true) xs ys) :
    (Members.get? name (localVariables xs)).isNone =
      (Members.get? name (localVariables ys)).isNone := by
  cases items with
  | nil => rfl
  | cons first _ =>
      have hx := hxs _ List.mem_cons_self
      have hy := hys _ List.mem_cons_self
      cases Value.agrees_of_same first with
      | object members =>
          have keys := (Value.distinct_object_iff.1 hx).1
          have keys' := (Value.distinct_object_iff.1 hy).1
          exact isNone_eq_of_optionsSame ((Members.same_iff keys keys').1 members name)
      | _ => rfl

theorem attributeTarget_eq_of_same (same : a.same b = true) :
    attributeTarget a = attributeTarget b := by
  cases Value.agrees_of_same same with
  | array items =>
      cases Value.sameItems_iff_forall₂.1 items with
      | nil => rfl
      | cons first _ =>
          rw [attributeTarget_cons, attributeTarget_cons, Value.string?_eq_of_same first]
  | _ => rfl

theorem substitutionNames_eq_of_same (ha : a.Distinct) (hb : b.Distinct)
    (same : a.same b = true) : substitutionNames a = substitutionNames b := by
  cases Value.agrees_of_same same with
  | array items =>
      cases ha with
      | array distinct =>
          cases hb with
          | array distinct' =>
              cases Value.sameItems_iff_forall₂.1 items with
              | nil => rfl
              | cons first rest =>
                  rw [substitutionNames_cons, substitutionNames_cons,
                    Value.string?_eq_of_same first]
                  refine List.filter_congr fun name _ => isNone_get?_localVariables_eq ?_ ?_ rest
                  · exact (List.forall_mem_cons.1 distinct).2
                  · exact (List.forall_mem_cons.1 distinct').2
  | _ => rfl

theorem ownNames_single_eq_of_same {key : String} (ha : a.Distinct) (hb : b.Distinct)
    (same : a.same b = true) : ownNames [(key, a)] = ownNames [(key, b)] := by
  rw [ownNames, ownNames, Value.string?_eq_of_same same, intrinsicNames, intrinsicNames,
    attributeTarget_eq_of_same same, substitutionNames_eq_of_same ha hb same]

theorem ownNames_of_length_ne_one {members : Members} (many : members.length ≠ 1) :
    ownNames members = [] := by
  unfold ownNames
  split
  · exact absurd rfl many
  · rfl

theorem ownNames_eq_of_same {left right : Members} (hleft : ∀ l ∈ left, l.2.Distinct)
    (hright : ∀ r ∈ right, r.2.Distinct) (same : Members.same left right = true) :
    ownNames left = ownNames right := by
  rw [Members.same, Bool.and_eq_true, beq_iff_eq, Members.within_eq_true_iff] at same
  obtain ⟨lengths, within⟩ := same
  by_cases single : left.length = 1
  · obtain ⟨⟨key, value⟩, rfl⟩ := List.length_eq_one_iff.1 single
    obtain ⟨⟨key', value'⟩, rfl⟩ := List.length_eq_one_iff.1 lengths.symm
    obtain ⟨other, found, same⟩ := within _ List.mem_cons_self
    by_cases keys : key' = key
    · subst keys
      cases (if_pos rfl).symm.trans found
      exact ownNames_single_eq_of_same (hleft _ List.mem_cons_self) (hright _ List.mem_cons_self)
        same
    · cases (if_neg keys).symm.trans found
  · rw [ownNames_of_length_ne_one single, ownNames_of_length_ne_one (lengths ▸ single)]

/-- Values that say the same mention the same names. -/
theorem mem_mentioned_iff_of_same (ha : a.Distinct) (hb : b.Distinct) (same : a.same b = true) :
    name ∈ mentioned a ↔ name ∈ mentioned b := by
  induction ha generalizing b with
  | null | bool | number | string =>
      cases Value.agrees_of_same same
      exact Iff.rfl
  | array _ ih =>
      cases Value.agrees_of_same same with
      | array items =>
          cases hb with
          | array distinct =>
              rw [mem_mentioned_array_iff, mem_mentioned_array_iff]
              refine exists_mem_congr_of_forall₂ (Value.sameItems_iff_forall₂.1 items) ?_
              exact fun x hx y hy => ih x hx (distinct y hy)
  | object keys distinct ih =>
      cases Value.agrees_of_same same with
      | object members =>
          cases hb with
          | object keys' distinct' =>
              rw [mem_mentioned_object_iff, mem_mentioned_object_iff,
                ownNames_eq_of_same distinct distinct' members]
              refine or_congr Iff.rfl (Members.exists_mem_congr
                (P := fun value => name ∈ mentioned value) keys keys' members ?_)
              exact fun l hl r hr => ih l hl (distinct' r hr)

end Reference

/-! ## Revisions without changes between them -/

theorem Resource.implicitReferences_eq_of_same {r s : Resource}
    (hr : (Value.object r.properties).Distinct) (hs : (Value.object s.properties).Distinct)
    (same : Resource.same r s = true) : r.implicitReferences = s.implicitReferences := by
  simp only [Resource.same, Bool.and_eq_true] at same
  refine NameSet.eq_of_mem_iff fun name => ?_
  rw [mem_implicitReferences_iff, mem_implicitReferences_iff]
  obtain ⟨keys, distinct⟩ := Value.distinct_object_iff.1 hr
  obtain ⟨keys', distinct'⟩ := Value.distinct_object_iff.1 hs
  refine and_congr (Members.exists_mem_congr (P := fun value => name ∈ Reference.mentioned value)
    keys keys' same.2 ?_) Iff.rfl
  exact fun l hl r hr => Reference.mem_mentioned_iff_of_same (distinct l hl) (distinct' r hr)

namespace NameMap

variable {α β : Type} {left right : NameMap α}

theorem keys_eq_of_sameBy {same : α → α → Bool} (agree : sameBy same left right = true) :
    left.keys = right.keys :=
  congrArg NameSet.names (NameSet.eq_of_mem_iff (s := left.names) (t := right.names)
    (sameBy_iff_sameEntries.1 agree).keys)

theorem contains_eq_of_keys_eq (keys : left.keys = right.keys) :
    left.contains = right.contains := by
  funext name
  rw [Bool.eq_iff_iff, ← mem_keys_iff_contains, ← mem_keys_iff_contains, keys]

/-- What is listed of the entries is found by looking up one name after the other. -/
theorem flatMap_entries (m : NameMap α) (list : String → α → List β) :
    (m.entries.flatMap fun entry => list entry.1 entry.2) =
      m.keys.flatMap fun name => ((m.get? name).map (list name)).getD [] := by
  rw [keys, List.flatMap_map]
  refine List.flatMap_congr fun entry mem => ?_
  rw [get?_eq_some_iff.2 mem]
  rfl

end NameMap

namespace Template

variable {a b : Template}

theorem unresolvedOf_eq_of_same (resources : a.resources.keys = b.resources.keys)
    (parameters : a.parameters.keys = b.parameters.keys)
    (conditions : a.conditions.keys = b.conditions.keys) {r s : Resource} (id : String)
    (same : Resource.same r s = true) (references : r.implicitReferences = s.implicitReferences) :
    a.unresolvedOf id r = b.unresolvedOf id s := by
  simp only [Resource.same, Bool.and_eq_true, beq_iff_eq] at same
  obtain ⟨⟨⟨⟨⟨-, dependsOn⟩, condition⟩, -⟩, -⟩, -⟩ := same
  rw [unresolvedOf, unresolvedOf, dependsOn, condition, references,
    NameMap.contains_eq_of_keys_eq resources, NameMap.contains_eq_of_keys_eq parameters,
    NameMap.contains_eq_of_keys_eq conditions]

/-- If nothing changes from one revision to another and both name the same conditions, then each
resource refers to the same names in both, and the check of the references comes to the same end:
both pass, or both are refused with the same list. The objects of the revisions hold every key
once. -/
theorem unchanged_revisions_validate_alike (a b : Template) (ha : a.Distinct) (hb : b.Distinct)
    (same : (a.diff b).hasChanges = false) (conditions : a.conditions.keys = b.conditions.keys) :
    (∀ id, (a.resources.get? id).map Resource.implicitReferences =
        (b.resources.get? id).map Resource.implicitReferences) ∧
      a.validateReferences = b.validateReferences := by
  obtain ⟨resources, parameters, -⟩ := hasChanges_diff_eq_false_iff.1 same
  have atId := NameMap.sameBy_iff.1 resources
  have references (id : String) (r s : Resource) (atA : a.resources.get? id = some r)
      (atB : b.resources.get? id = some s) (agree : Resource.same r s = true) :
      r.implicitReferences = s.implicitReferences :=
    Resource.implicitReferences_eq_of_same (ha.resources id r atA) (hb.resources id s atB) agree
  refine ⟨fun id => map_eq_of_optionsSame (atId id) (references id), ?_⟩
  have keys := NameMap.keys_eq_of_sameBy resources
  have keys' := NameMap.keys_eq_of_sameBy parameters
  have unresolved : a.unresolved = b.unresolved := by
    rw [Template.unresolved, Template.unresolved, NameMap.flatMap_entries a.resources,
      NameMap.flatMap_entries b.resources, keys]
    refine List.flatMap_congr fun id _ => congrArg (Option.getD · []) ?_
    refine map_eq_of_optionsSame (atId id) fun r s atA atB agree => ?_
    exact unresolvedOf_eq_of_same keys keys' conditions id agree (references id r s atA atB agree)
  rw [validateReferences, validateReferences, unresolved]

/-- The properties of a queue change places, its delay is written with a fraction, and the
condition of the template gets another meaning. A name that was not declared before is not declared
after. -/
theorem rewritten_queue_is_refused_alike :
    let five : Value :=
      .number (.double ⟨false, 5 <<< 50, 1024, by decide, by decide, by decide⟩)
    let name := Value.object [("Ref", .string "Name")]
    let before := { queues [("Jobs", [("QueueName", name), ("DelaySeconds", .number (.int 5))])] with
      conditions := .ofList [("IsLive", .bool true)] }
    let after := { queues [("Jobs", [("DelaySeconds", five), ("QueueName", name)])] with
      conditions := .ofList [("IsLive", .bool false)] }
    before.Distinct ∧ after.Distinct ∧ (before.diff after).hasChanges = false ∧
      before.conditions.keys = after.conditions.keys ∧
        (after.resources.get? "Jobs").map Resource.implicitReferences = some (.ofList ["Name"]) ∧
          after.validateReferences =
            .error (.unresolvedReferences [⟨"Jobs", "Name", .property⟩]) := by
  intro five name before after
  have distinctBefore : before.Distinct := by decide
  have distinctAfter : after.Distinct := by decide
  have same : (before.diff after).hasChanges = false := by decide +kernel
  obtain ⟨references, outcome⟩ :=
    unchanged_revisions_validate_alike before after distinctBefore distinctAfter same rfl
  refine ⟨distinctBefore, distinctAfter, same, rfl, ?_, ?_⟩
  · rw [← references]
    decide
  · rw [← outcome]
    decide

end Template

end StackDeploy
