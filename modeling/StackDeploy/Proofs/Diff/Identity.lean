/-
# Keeping the identity of resources

A change keeps a resource if the provider can carry it out on the physical resource that is there:
the resource is still declared, its kind is the same, and no property that makes its identity has
come, gone or changed. The planner looks for lost resources only among those that the diff calls
deleted or modified. This module shows that nothing is overlooked there: a resource that the diff
calls unchanged is kept, because two property bags that say the same agree at every property, also
at one that only one of them states.
-/

import StackDeploy.Deployment.Plan
import StackDeploy.Proofs.Template.Content

namespace StackDeploy

open Json (Value Members)

/-- One definition of a resource can follow another on the same physical resource: the kind is the
same, and every property that makes the identity of the kind is absent from both or present in both
with values that say the same. -/
structure Resource.KeepsIdentity (before after : Resource) : Prop where
  type_eq : before.type = after.type
  identity : ∀ properties, identityProperties after.type = some properties →
    ∀ property ∈ properties,
      optionsSame Value.same (Members.get? property before.properties)
        (Members.get? property after.properties) = true

/-- A revision keeps a resource of the baseline. -/
def Template.Keeps (baseline proposed : Template) (id : String) : Prop :=
  ∀ before, baseline.resources.get? id = some before →
    ∃ after, proposed.resources.get? id = some after ∧ before.KeepsIdentity after

namespace Resource

/-- There is no reason to replace a resource exactly when its identity is kept. -/
theorem replacementReasons_eq_nil_iff {before after : Resource} :
    before.replacementReasons after = [] ↔ before.KeepsIdentity after := by
  unfold replacementReasons
  by_cases type_eq : before.type = after.type
  · rw [if_neg (not_not_intro type_eq), List.filterMap_eq_nil_iff]
    constructor
    · intro none_changed
      refine ⟨type_eq, fun properties listed property mem => ?_⟩
      have unchanged := none_changed property (by rw [listed]; exact mem)
      by_contra differs
      rw [if_neg differs] at unchanged
      cases unchanged
    · intro keeps property mem
      cases listed : identityProperties after.type with
      | none => rw [listed] at mem; cases mem
      | some properties =>
          rw [listed] at mem
          rw [if_pos (keeps.identity properties listed property mem)]
  · rw [if_pos type_eq]
    constructor
    · intro reasons
      cases reasons
    · intro keeps
      exact absurd keeps.type_eq type_eq

/-- Definitions that declare the same keep the identity. The properties are compared from the side
of the old definition only; that they agree at every property needs distinct keys on both sides. -/
theorem keepsIdentity_of_same {before after : Resource}
    (hbefore : (before.properties.map Prod.fst).Nodup)
    (hafter : (after.properties.map Prod.fst).Nodup) (same : Resource.same before after = true) :
    before.KeepsIdentity after := by
  simp only [Resource.same, Bool.and_eq_true, beq_iff_eq] at same
  have agree := (Members.same_iff hbefore hafter).1 same.2
  exact ⟨same.1.1.1.1.1, fun _ _ property _ => agree property⟩

end Resource

namespace Template

variable {old new baseline proposed : Template} {id : String}

theorem mem_idsWhere_iff {t other : Template} {test : Resource → Option Resource → Bool} :
    id ∈ (t.idsWhere test other).names ↔
      ∃ r, t.resources.get? id = some r ∧ test r (other.resources.get? id) = true := by
  rw [idsWhere, NameSet.mem_ofList, List.mem_map]
  constructor
  · rintro ⟨⟨name, r⟩, mem, rfl⟩
    rw [List.mem_filter] at mem
    exact ⟨r, NameMap.get?_eq_some_iff.2 mem.1, mem.2⟩
  · rintro ⟨r, declared, passes⟩
    refine ⟨(id, r), ?_, rfl⟩
    rw [List.mem_filter]
    exact ⟨NameMap.get?_eq_some_iff.1 declared, passes⟩

theorem mem_deleted_iff :
    id ∈ (old.diff new).deleted.names ↔
      ∃ before, old.resources.get? id = some before ∧ new.resources.get? id = none := by
  refine mem_idsWhere_iff.trans (exists_congr fun before => and_congr Iff.rfl ?_)
  rw [Option.isNone_iff_eq_none]

theorem mem_modified_iff :
    id ∈ (old.diff new).modified.names ↔
      ∃ before after, old.resources.get? id = some before ∧
        new.resources.get? id = some after ∧ Resource.same before after = false := by
  refine mem_idsWhere_iff.trans ?_
  constructor
  · rintro ⟨after, declared, passes⟩
    obtain ⟨before, was, differs⟩ := (Option.any_eq_true _ _).1 passes
    rw [Bool.not_eq_true'] at differs
    exact ⟨before, after, was, declared, differs⟩
  · rintro ⟨before, after, was, declared, differs⟩
    refine ⟨after, declared, (Option.any_eq_true _ _).2 ⟨before, was, ?_⟩⟩
    rw [differs]
    rfl

/-- The replaced resources are the modified ones that there is a reason to replace. -/
theorem mem_replacements_iff :
    id ∈ ((old.diff new).replacements old new).map Replacement.id ↔
      ∃ before after, old.resources.get? id = some before ∧
        new.resources.get? id = some after ∧ Resource.same before after = false ∧
          before.replacementReasons after ≠ [] := by
  simp only [TemplateDiff.replacements, List.mem_map, List.mem_flatMap]
  constructor
  · rintro ⟨replacement, ⟨name, modified, mem⟩, rfl⟩
    obtain ⟨before, after, was, declared, differs⟩ := mem_modified_iff.1 modified
    rw [was, declared, List.mem_map] at mem
    obtain ⟨reason, reason_mem, rfl⟩ := mem
    exact ⟨before, after, was, declared, differs, List.ne_nil_of_mem reason_mem⟩
  · rintro ⟨before, after, was, declared, differs, reasons⟩
    obtain ⟨reason, mem⟩ := List.exists_mem_of_ne_nil _ reasons
    refine ⟨⟨id, reason⟩, ⟨id, mem_modified_iff.2 ⟨before, after, was, declared, differs⟩, ?_⟩, rfl⟩
    rw [was, declared]
    exact List.mem_map_of_mem mem

theorem mem_affected_iff_deleted_or_replaced :
    id ∈ (baseline.affected proposed).names ↔
      id ∈ (baseline.diff proposed).deleted.names ∨
        id ∈ ((baseline.diff proposed).replacements baseline proposed).map Replacement.id := by
  rw [affected, NameSet.mem_union, NameSet.mem_ofList]

/-- A change is destructive exactly when it affects a resource. -/
theorem isDestructive_iff :
    baseline.isDestructive proposed = true ↔ (baseline.affected proposed).names ≠ [] := by
  have some_name : (baseline.affected proposed).names ≠ [] ↔
      ∃ id, id ∈ (baseline.affected proposed).names :=
    ⟨List.exists_mem_of_ne_nil _, fun ⟨_, mem⟩ => List.ne_nil_of_mem mem⟩
  simp only [some_name, mem_affected_iff_deleted_or_replaced, exists_or, isDestructive,
    TemplateDiff.requiresReplacement, NameSet.isEmpty, Bool.or_eq_true, Bool.not_eq_true',
    List.isEmpty_eq_false_iff_exists_mem, List.mem_map]
  refine or_congr Iff.rfl ⟨?_, ?_⟩
  · rintro ⟨replacement, mem⟩
    exact ⟨replacement.id, replacement, mem, rfl⟩
  · rintro ⟨_, replacement, mem, rfl⟩
    exact ⟨replacement, mem⟩

private theorem nodup_properties {t : Template} (distinct : t.Distinct) {r : Resource}
    (declared : t.resources.get? id = some r) : (r.properties.map Prod.fst).Nodup :=
  (Value.distinct_object_iff.1 (distinct.resources id r declared)).1

/-- The affected resources are exactly those that the proposed revision does not keep. -/
theorem mem_affected_iff (hbaseline : baseline.Distinct) (hproposed : proposed.Distinct) :
    id ∈ (baseline.affected proposed).names ↔ ¬ baseline.Keeps proposed id := by
  rw [mem_affected_iff_deleted_or_replaced, mem_deleted_iff, mem_replacements_iff]
  constructor
  · rintro (⟨before, was, missing⟩ | ⟨before, after, was, declared, -, reasons⟩) keeps
    · obtain ⟨after, declared, -⟩ := keeps before was
      rw [missing] at declared
      cases declared
    · obtain ⟨other, declared', kept⟩ := keeps before was
      rw [declared] at declared'
      cases declared'
      exact reasons (Resource.replacementReasons_eq_nil_iff.2 kept)
  · intro lost
    simp only [Keeps, not_forall, not_exists, not_and] at lost
    obtain ⟨before, was, lost⟩ := lost
    cases declared : proposed.resources.get? id with
    | none => exact Or.inl ⟨before, was, rfl⟩
    | some after =>
        have identity_lost := lost after declared
        refine Or.inr ⟨before, after, was, rfl, ?_, fun reasons => ?_⟩
        -- The comparison of the whole resource cannot miss what the identity depends on.
        · by_contra same
          rw [Bool.not_eq_false] at same
          exact identity_lost (Resource.keepsIdentity_of_same (nodup_properties hbaseline was)
            (nodup_properties hproposed declared) same)
        · exact identity_lost (Resource.replacementReasons_eq_nil_iff.1 reasons)

/-- A change that is not destructive keeps every resource of the baseline. -/
theorem keeps_of_not_destructive (hbaseline : baseline.Distinct) (hproposed : proposed.Distinct)
    (safe : baseline.isDestructive proposed = false) (id : String) :
    baseline.Keeps proposed id := by
  have none_affected : (baseline.affected proposed).names = [] := by
    by_contra some_affected
    rw [isDestructive_iff.2 some_affected] at safe
    cases safe
  by_contra lost
  have mem := (mem_affected_iff hbaseline hproposed).2 lost
  rw [none_affected] at mem
  cases mem

end Template

end StackDeploy
