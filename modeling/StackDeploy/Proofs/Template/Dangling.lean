/-
# What a template leaves undeclared

A template is closed if each of its resources depends on resources, refers to resources and
parameters, and is guarded by a condition, all of which the template declares. Checking a template
decides this, and otherwise answers the complete list of what is missing: every use of a name that
is not declared, once, in the order of the resources and within a resource by the kind of the use
and the name.
-/

import StackDeploy.Proofs.Diff.Partition
import StackDeploy.Template.Validation

namespace StackDeploy

/-- The order in which the uses of names by one resource are reported. -/
def ReferenceKind.rank : ReferenceKind → Nat
  | .dependsOn => 0
  | .property => 1
  | .condition => 2

namespace UnresolvedReference

/-- One use is reported before another: its resource comes first, or for the same resource its kind,
or for the same kind its name. -/
inductive Precedes (first second : UnresolvedReference) : Prop
  | source : first.source < second.source → Precedes first second
  | kind : first.source = second.source → first.kind.rank < second.kind.rank →
      Precedes first second
  | target : first.source = second.source → first.kind = second.kind →
      first.target < second.target → Precedes first second

theorem not_precedes_self {r : UnresolvedReference} : ¬ r.Precedes r := by
  rintro (lt | ⟨-, lt⟩ | ⟨-, -, lt⟩)
  · exact String.lt_irrefl _ lt
  · exact Nat.lt_irrefl _ lt
  · exact String.lt_irrefl _ lt

end UnresolvedReference

namespace Template

variable {t : Template} {id : String} {r : Resource} {reference : UnresolvedReference}

/-- Every name that a template uses is declared in it. -/
structure IsClosed (t : Template) : Prop where
  dependencies : ∀ id r, t.resources.get? id = some r → ∀ target ∈ r.dependsOn.names,
    target ∈ t.resources.keys
  references : ∀ id r, t.resources.get? id = some r → ∀ target ∈ r.implicitReferences.names,
    target ∈ t.resources.keys ∨ target ∈ t.parameters.keys
  conditions : ∀ id r, t.resources.get? id = some r → ∀ name, r.condition = some name →
    name ∈ t.conditions.keys

/-- A resource uses a name that the template does not declare for that use. -/
inductive Dangles (t : Template) : UnresolvedReference → Prop
  | dependsOn {id target : String} {r : Resource} : t.resources.get? id = some r →
      target ∈ r.dependsOn.names → target ∉ t.resources.keys → Dangles t ⟨id, target, .dependsOn⟩
  | property {id target : String} {r : Resource} : t.resources.get? id = some r →
      target ∈ r.implicitReferences.names → target ∉ t.resources.keys →
        target ∉ t.parameters.keys → Dangles t ⟨id, target, .property⟩
  | condition {id name : String} {r : Resource} : t.resources.get? id = some r →
      r.condition = some name → name ∉ t.conditions.keys → Dangles t ⟨id, name, .condition⟩

theorem isClosed_iff : t.IsClosed ↔ ∀ reference, ¬ t.Dangles reference := by
  constructor
  · intro closed reference dangles
    cases dangles with
    | dependsOn declared mem missing => exact missing (closed.dependencies _ _ declared _ mem)
    | property declared mem noResource noParameter =>
        rcases closed.references _ _ declared _ mem with resource | parameter
        · exact noResource resource
        · exact noParameter parameter
    | condition declared guard missing => exact missing (closed.conditions _ _ declared _ guard)
  · intro none
    refine ⟨fun id r declared target mem => ?_, fun id r declared target mem => ?_,
      fun id r declared name guard => ?_⟩
    · by_contra missing
      exact none _ (.dependsOn declared mem missing)
    · by_contra missing
      rw [not_or] at missing
      exact none _ (.property declared mem missing.1 missing.2)
    · by_contra missing
      exact none _ (.condition declared guard missing)

/-! ## The uses of one resource -/

/-- The targets of a resource that no resource has the name of. -/
private theorem mem_missingDependencies_iff {target : String} :
    target ∈ (r.dependsOn.filter fun target => !t.resources.contains target).names ↔
      target ∈ r.dependsOn.names ∧ target ∉ t.resources.keys := by
  rw [NameSet.filter, List.mem_filter, NameMap.mem_keys_iff_contains, Bool.not_eq_true',
    Bool.not_eq_true]

private theorem mem_missingReferences_iff {target : String} :
    target ∈ (r.implicitReferences.filter fun target =>
        !t.resources.contains target && !t.parameters.contains target).names ↔
      target ∈ r.implicitReferences.names ∧ target ∉ t.resources.keys ∧
        target ∉ t.parameters.keys := by
  rw [NameSet.filter, List.mem_filter, NameMap.mem_keys_iff_contains,
    NameMap.mem_keys_iff_contains, Bool.and_eq_true, Bool.not_eq_true', Bool.not_eq_true',
    Bool.not_eq_true, Bool.not_eq_true]

/-- What a resource is guarded by, if that is not declared. -/
private def missingCondition (t : Template) (r : Resource) : Option String :=
  r.condition.filter fun name => !t.conditions.contains name

private theorem missingCondition_eq_some_iff {name : String} :
    t.missingCondition r = some name ↔ r.condition = some name ∧ name ∉ t.conditions.keys := by
  rw [missingCondition, Option.filter_eq_some_iff, NameMap.mem_keys_iff_contains,
    Bool.not_eq_true', Bool.not_eq_true]

private theorem unresolvedOf_eq :
    t.unresolvedOf id r =
      (r.dependsOn.filter fun target => !t.resources.contains target).names.map
          (fun target => ⟨id, target, .dependsOn⟩) ++
        (r.implicitReferences.filter fun target =>
            !t.resources.contains target && !t.parameters.contains target).names.map
          (fun target => ⟨id, target, .property⟩) ++
        (t.missingCondition r).toList.map fun name => ⟨id, name, .condition⟩ := by
  unfold unresolvedOf missingCondition
  cases r.condition with
  | none => rfl
  | some name =>
      dsimp only
      rw [Option.filter_some]
      cases t.conditions.contains name <;> rfl

theorem mem_unresolvedOf_iff (declared : t.resources.get? id = some r) :
    reference ∈ t.unresolvedOf id r ↔ reference.source = id ∧ t.Dangles reference := by
  rw [unresolvedOf_eq, List.mem_append, List.mem_append, List.mem_map, List.mem_map, List.mem_map]
  simp only [mem_missingDependencies_iff, mem_missingReferences_iff, Option.mem_toList,
    missingCondition_eq_some_iff]
  constructor
  · rintro ((⟨target, ⟨mem, missing⟩, rfl⟩ | ⟨target, ⟨mem, noResource, noParameter⟩, rfl⟩) |
      ⟨name, ⟨guard, missing⟩, rfl⟩)
    · exact ⟨rfl, .dependsOn declared mem missing⟩
    · exact ⟨rfl, .property declared mem noResource noParameter⟩
    · exact ⟨rfl, .condition declared guard missing⟩
  · rintro ⟨rfl, dangles⟩
    cases dangles with
    | dependsOn found mem missing =>
        cases declared.symm.trans found
        exact Or.inl (Or.inl ⟨_, ⟨mem, missing⟩, rfl⟩)
    | property found mem noResource noParameter =>
        cases declared.symm.trans found
        exact Or.inl (Or.inr ⟨_, ⟨mem, noResource, noParameter⟩, rfl⟩)
    | condition found guard missing =>
        cases declared.symm.trans found
        exact Or.inr ⟨_, ⟨guard, missing⟩, rfl⟩

/-- The uses of one kind are reported in the order of the names. -/
private theorem pairwise_uses (s : NameSet) (kind : ReferenceKind) :
    (s.names.map fun target => (⟨id, target, kind⟩ : UnresolvedReference)).Pairwise
      UnresolvedReference.Precedes := by
  rw [List.pairwise_map]
  exact s.sorted.imp fun lt => .target rfl rfl lt

theorem pairwise_unresolvedOf :
    (t.unresolvedOf id r).Pairwise UnresolvedReference.Precedes := by
  have single : ((t.missingCondition r).toList.map fun name =>
      (⟨id, name, .condition⟩ : UnresolvedReference)).Pairwise UnresolvedReference.Precedes := by
    cases t.missingCondition r with
    | none => exact .nil
    | some name => exact List.pairwise_singleton _ _
  rw [unresolvedOf_eq, List.pairwise_append, List.pairwise_append]
  refine ⟨⟨pairwise_uses _ _, pairwise_uses _ _, ?_⟩, single, ?_⟩
  · simp only [List.forall_mem_map]
    exact fun _ _ _ _ => .kind rfl Nat.zero_lt_one
  · simp only [List.forall_mem_append, List.forall_mem_map]
    exact ⟨fun _ _ _ _ => .kind rfl Nat.zero_lt_two, fun _ _ _ _ => .kind rfl Nat.one_lt_two⟩

/-! ## The uses of a template -/

theorem mem_unresolved_iff : reference ∈ t.unresolved ↔ t.Dangles reference := by
  rw [unresolved, List.mem_flatMap]
  constructor
  · rintro ⟨⟨id, r⟩, entry, mem⟩
    exact ((mem_unresolvedOf_iff (NameMap.get?_eq_some_iff.2 entry)).1 mem).2
  · intro dangles
    have declared : ∃ r, t.resources.get? reference.source = some r := by
      cases dangles with
      | dependsOn declared => exact ⟨_, declared⟩
      | property declared => exact ⟨_, declared⟩
      | condition declared => exact ⟨_, declared⟩
    obtain ⟨r, declared⟩ := declared
    exact ⟨(reference.source, r), NameMap.get?_eq_some_iff.1 declared,
      (mem_unresolvedOf_iff declared).2 ⟨rfl, dangles⟩⟩

theorem pairwise_unresolved : t.unresolved.Pairwise UnresolvedReference.Precedes := by
  rw [unresolved, List.pairwise_flatMap]
  refine ⟨fun _ _ => pairwise_unresolvedOf, ?_⟩
  refine (List.pairwise_map.1 t.resources.sorted).imp_of_mem ?_
  rintro ⟨id, r⟩ ⟨other, s⟩ atFirst atSecond lt first inFirst second inSecond
  refine .source ?_
  rwa [((mem_unresolvedOf_iff (NameMap.get?_eq_some_iff.2 atFirst)).1 inFirst).1,
    ((mem_unresolvedOf_iff (NameMap.get?_eq_some_iff.2 atSecond)).1 inSecond).1]

theorem unresolved_eq_nil_iff : t.unresolved = [] ↔ t.IsClosed := by
  rw [List.eq_nil_iff_forall_not_mem, isClosed_iff]
  exact forall_congr' fun reference => not_congr mem_unresolved_iff

theorem validateReferences_eq_ok_iff : t.validateReferences = .ok () ↔ t.unresolved = [] := by
  unfold validateReferences
  cases t.unresolved <;> simp

/-- A template passes the check exactly if every name it uses is declared; a template that does not
is refused with the list of all uses that dangle, each once, in the order of the resources, of the
kinds of use and of the names. -/
theorem validation_reports_what_dangles (t : Template) :
    (t.validateReferences = .ok () ↔ t.IsClosed) ∧
      ∃ references : List UnresolvedReference,
        (t.validateReferences = .ok () ∨
            t.validateReferences = .error (.unresolvedReferences references)) ∧
          (∀ reference, reference ∈ references ↔ t.Dangles reference) ∧
            references.Pairwise UnresolvedReference.Precedes ∧ references.Nodup := by
  refine ⟨validateReferences_eq_ok_iff.trans unresolved_eq_nil_iff, t.unresolved, ?_,
    fun reference => mem_unresolved_iff, pairwise_unresolved, ?_⟩
  · unfold validateReferences
    cases t.unresolved with
    | nil => exact Or.inl rfl
    | cons => exact Or.inr rfl
  · refine pairwise_unresolved.imp fun {first second} before (same : first = second) => ?_
    exact UnresolvedReference.not_precedes_self (same ▸ before)

end Template

end StackDeploy
