/-
# The sets of a diff

Between two revisions every id has one fate: it is added, modified, deleted or unchanged. The four
sets of a diff are the ids of each fate, so they share no id and leave none out. Swapping the
revisions swaps the fates, since the comparison of resources does not depend on the side. A diff
without changes therefore means that the sections it compares agree, and it means the same from
either side.
-/

import Mathlib.Data.List.Nodup
import StackDeploy.Proofs.Diff.Comparison
import StackDeploy.Proofs.Diff.Identity

namespace StackDeploy

open Json (Members Value)

namespace NameSet

theorem nodup_names (s : NameSet) : s.names.Nodup := by
  refine s.sorted.imp fun {first second} lt same => ?_
  exact String.lt_irrefl second (same ▸ lt)

/-- A set is determined by its members, since it lists them in order. -/
theorem eq_of_mem_iff {s t : NameSet} (members : ∀ name, name ∈ s.names ↔ name ∈ t.names) :
    s = t := by
  have listed : s.names = t.names := by
    have perm := (List.perm_ext_iff_of_nodup s.nodup_names t.nodup_names).2 members
    exact perm.eq_of_pairwise (fun _ _ _ _ lt gt => absurd gt (String.lt_asymm lt)) s.sorted
      t.sorted
  cases s
  cases t
  cases listed
  rfl

theorem isEmpty_iff {s : NameSet} : s.isEmpty = true ↔ s = .empty := by
  obtain ⟨names, sorted⟩ := s
  rw [isEmpty, List.isEmpty_iff, empty, mk.injEq]

end NameSet

/-- The names of a section as a set. -/
def NameMap.names {α : Type} (m : NameMap α) : NameSet := ⟨m.keys, m.sorted⟩

/-- What becomes of an id between two revisions. -/
inductive Fate where
  | added
  | modified
  | deleted
  | unchanged
deriving DecidableEq

namespace Fate

/-- The fate of an id that both revisions have, by whether its resources say the same. -/
def ofSame : Bool → Fate
  | true => .unchanged
  | false => .modified

@[simp]
theorem ofSame_eq_unchanged_iff {same : Bool} : ofSame same = .unchanged ↔ same = true := by
  cases same <;> simp [ofSame]

@[simp]
theorem ofSame_eq_modified_iff {same : Bool} : ofSame same = .modified ↔ same = false := by
  cases same <;> simp [ofSame]

@[simp]
theorem ofSame_ne_added {same : Bool} : ofSame same ≠ .added := by
  cases same <;> nofun

@[simp]
theorem ofSame_ne_deleted {same : Bool} : ofSame same ≠ .deleted := by
  cases same <;> nofun

/-- The fate when the revisions are swapped. -/
def swap : Fate → Fate
  | .added => .deleted
  | .modified => .modified
  | .deleted => .added
  | .unchanged => .unchanged

@[simp]
theorem swap_ofSame {same : Bool} : (ofSame same).swap = ofSame same := by
  cases same <;> rfl

theorem swap_eq_iff {f g : Fate} : f.swap = g ↔ f = g.swap := by
  cases f <;> cases g <;> simp [swap]

end Fate

namespace TemplateDiff

/-- The ids of a fate. -/
def idsOf (d : TemplateDiff) : Fate → NameSet
  | .added => d.added
  | .modified => d.modified
  | .deleted => d.deleted
  | .unchanged => d.unchanged

/-- The sets of a diff partition some ids: they share none and leave none out. -/
structure Partitions (d : TemplateDiff) (ids : NameSet) : Prop where
  disjoint : ∀ f g, f ≠ g → (d.idsOf f).names.Disjoint (d.idsOf g).names
  covers : ∀ id, id ∈ ids.names ↔ ∃ f, id ∈ (d.idsOf f).names

theorem hasChanges_eq_false_iff {d : TemplateDiff} :
    d.hasChanges = false ↔ d.added = .empty ∧ d.modified = .empty ∧ d.deleted = .empty ∧
      d.parametersChanged = false ∧ d.outputsChanged = false := by
  simp only [hasChanges, Bool.or_eq_false_iff, Bool.not_eq_false', NameSet.isEmpty_iff, and_assoc]

/-- The sizes of the sets add up to the number of ids. -/
theorem Partitions.total_eq {d : TemplateDiff} {ids : NameSet} (partitions : d.Partitions ids) :
    d.total = ids.size := by
  have apart (f g : Fate) (differ : f ≠ g) := partitions.disjoint f g differ
  have nodup : (d.added.names ++ (d.modified.names ++ (d.deleted.names ++
      d.unchanged.names))).Nodup := by
    refine List.nodup_append'.2 ⟨d.added.nodup_names, List.nodup_append'.2
      ⟨d.modified.nodup_names, List.nodup_append'.2 ⟨d.deleted.nodup_names,
        d.unchanged.nodup_names, apart .deleted .unchanged nofun⟩, ?_⟩, ?_⟩
    · exact List.disjoint_append_right.2
        ⟨apart .modified .deleted nofun, apart .modified .unchanged nofun⟩
    · exact List.disjoint_append_right.2 ⟨apart .added .modified nofun,
        List.disjoint_append_right.2 ⟨apart .added .deleted nofun, apart .added .unchanged nofun⟩⟩
  have listed : (d.added.names ++ (d.modified.names ++ (d.deleted.names ++
      d.unchanged.names))).Perm ids.names := by
    refine (List.perm_ext_iff_of_nodup nodup ids.nodup_names).2 fun id => ?_
    rw [partitions.covers]
    simp only [List.mem_append]
    constructor
    · rintro (mem | mem | mem | mem)
      exacts [⟨.added, mem⟩, ⟨.modified, mem⟩, ⟨.deleted, mem⟩, ⟨.unchanged, mem⟩]
    · rintro ⟨f, mem⟩
      cases f
      exacts [Or.inl mem, Or.inr (Or.inl mem), Or.inr (Or.inr (Or.inl mem)),
        Or.inr (Or.inr (Or.inr mem))]
  have length_eq := listed.length_eq
  simp only [List.length_append] at length_eq
  unfold total NameSet.size
  omega

end TemplateDiff

namespace Template

variable {old new : Template} {id : String}

/-- The fate of an id between two revisions, if either has it. -/
def fate (old new : Template) (id : String) : Option Fate :=
  match old.resources.get? id, new.resources.get? id with
  | none, none => none
  | none, some _ => some .added
  | some _, none => some .deleted
  | some before, some after => some (.ofSame (Resource.same before after))

/-- Each set of a diff holds the ids of its fate. -/
theorem mem_idsOf_diff_iff (f : Fate) :
    id ∈ ((old.diff new).idsOf f).names ↔ old.fate new id = some f := by
  have added : id ∈ (old.diff new).added.names ↔ ∃ after, new.resources.get? id = some after ∧
      (old.resources.get? id).isNone = true := mem_idsWhere_iff
  have unchanged : id ∈ (old.diff new).unchanged.names ↔ ∃ after,
      new.resources.get? id = some after ∧
        ((old.resources.get? id).any fun before => Resource.same before after) = true :=
    mem_idsWhere_iff
  unfold fate
  cases f with
  | added =>
      refine added.trans ?_
      cases old.resources.get? id <;> cases new.resources.get? id <;> simp
  | modified =>
      refine mem_modified_iff.trans ?_
      cases old.resources.get? id <;> cases new.resources.get? id <;> simp
  | deleted =>
      refine mem_deleted_iff.trans ?_
      cases old.resources.get? id <;> cases new.resources.get? id <;> simp
  | unchanged =>
      refine unchanged.trans ?_
      cases old.resources.get? id <;> cases new.resources.get? id <;> simp

theorem fate_eq_none_iff :
    old.fate new id = none ↔ id ∉ old.resources.keys ∧ id ∉ new.resources.keys := by
  rw [NameMap.mem_keys_iff, NameMap.mem_keys_iff, fate]
  cases old.resources.get? id <;> cases new.resources.get? id <;> simp

theorem fate_eq_added_iff :
    old.fate new id = some .added ↔ id ∈ new.resources.keys ∧ id ∉ old.resources.keys := by
  rw [NameMap.mem_keys_iff, NameMap.mem_keys_iff, fate]
  cases old.resources.get? id <;> cases new.resources.get? id <;> simp

theorem fate_eq_deleted_iff :
    old.fate new id = some .deleted ↔ id ∈ old.resources.keys ∧ id ∉ new.resources.keys := by
  rw [NameMap.mem_keys_iff, NameMap.mem_keys_iff, fate]
  cases old.resources.get? id <;> cases new.resources.get? id <;> simp

/-- The sets of a diff partition the ids of the two revisions. -/
theorem partitions_diff (old new : Template) :
    (old.diff new).Partitions (old.resources.names.union new.resources.names) where
  disjoint := by
    intro f g differ id memF memG
    rw [mem_idsOf_diff_iff] at memF memG
    exact differ (Option.some.inj (memF.symm.trans memG))
  covers := by
    intro id
    have known : id ∈ (old.resources.names.union new.resources.names).names ↔
        old.fate new id ≠ none := by
      rw [NameSet.mem_union, ne_eq, fate_eq_none_iff, not_and_or, not_not, not_not]
      exact Iff.rfl
    rw [known, Option.ne_none_iff_exists']
    exact exists_congr fun f => (mem_idsOf_diff_iff f).symm

/-- Swapping the revisions swaps the fates, since resources are compared alike from either side. -/
theorem fate_swap (hold : old.Distinct) (hnew : new.Distinct) (id : String) :
    new.fate old id = (old.fate new id).map Fate.swap := by
  unfold fate
  cases declaredOld : old.resources.get? id with
  | none => cases new.resources.get? id <;> rfl
  | some before =>
      cases declaredNew : new.resources.get? id with
      | none => rfl
      | some after =>
          have comm : Resource.same after before = Resource.same before after :=
            Resource.same_comm (hnew.resources id after declaredNew)
              (hold.resources id before declaredOld)
          dsimp only
          rw [comm, Option.map_some, Fate.swap_ofSame]

theorem idsOf_diff_swap (hold : old.Distinct) (hnew : new.Distinct) (f : Fate) :
    (new.diff old).idsOf f = (old.diff new).idsOf f.swap := by
  refine NameSet.eq_of_mem_iff fun id => ?_
  rw [mem_idsOf_diff_iff, mem_idsOf_diff_iff, fate_swap hold hnew, Option.map_eq_some_iff]
  simp only [Fate.swap_eq_iff, exists_eq_right]

theorem sameBy_parameters_comm (hold : old.Distinct) (hnew : new.Distinct) :
    NameMap.sameBy Parameter.same old.parameters new.parameters =
      NameMap.sameBy Parameter.same new.parameters old.parameters :=
  NameMap.sameBy_comm fun name l r atOld atNew =>
    Parameter.same_comm (hold.parameters name l atOld) (hnew.parameters name r atNew)

theorem sameBy_outputs_comm (hold : old.Distinct) (hnew : new.Distinct) :
    NameMap.sameBy Output.same old.outputs new.outputs =
      NameMap.sameBy Output.same new.outputs old.outputs :=
  NameMap.sameBy_comm fun name l r atOld atNew =>
    Output.same_comm (hold.outputs name l atOld) (hnew.outputs name r atNew)

/-- Swapping the revisions exchanges what is added with what is deleted and keeps the rest. -/
theorem diff_swap (hold : old.Distinct) (hnew : new.Distinct) :
    new.diff old =
      { old.diff new with added := (old.diff new).deleted, deleted := (old.diff new).added } := by
  have modified := idsOf_diff_swap hold hnew .modified
  have unchanged := idsOf_diff_swap hold hnew .unchanged
  have parameters : (new.diff old).parametersChanged = (old.diff new).parametersChanged :=
    congrArg (!·) (sameBy_parameters_comm hold hnew).symm
  have outputs : (new.diff old).outputsChanged = (old.diff new).outputsChanged :=
    congrArg (!·) (sameBy_outputs_comm hold hnew).symm
  rw [TemplateDiff.mk.injEq]
  exact ⟨rfl, modified, rfl, unchanged, parameters, outputs⟩

/-- The resources agree exactly if no id has another fate than to be unchanged. -/
theorem sameBy_resources_iff :
    NameMap.sameBy Resource.same old.resources new.resources = true ↔
      ∀ id f, old.fate new id = some f → f = .unchanged := by
  rw [NameMap.sameBy_iff]
  refine forall_congr' fun id => ?_
  unfold fate
  cases old.resources.get? id with
  | none => cases new.resources.get? id <;> simp [optionsSame]
  | some before => cases new.resources.get? id <;> simp [optionsSame]

private theorem idsOf_diff_eq_empty_iff (f : Fate) :
    (old.diff new).idsOf f = .empty ↔ ∀ id, old.fate new id ≠ some f := by
  rw [← NameSet.isEmpty_iff, NameSet.isEmpty, List.isEmpty_iff, List.eq_nil_iff_forall_not_mem]
  exact forall_congr' fun id => not_congr (mem_idsOf_diff_iff f)

/-- A diff has no changes exactly if the sections that it compares agree. -/
theorem hasChanges_diff_eq_false_iff :
    (old.diff new).hasChanges = false ↔
      NameMap.sameBy Resource.same old.resources new.resources = true ∧
        NameMap.sameBy Parameter.same old.parameters new.parameters = true ∧
          NameMap.sameBy Output.same old.outputs new.outputs = true := by
  have none_of (f : Fate) : (old.diff new).idsOf f = .empty ↔ ∀ id, old.fate new id ≠ some f :=
    idsOf_diff_eq_empty_iff f
  have parameters : (old.diff new).parametersChanged = false ↔
      NameMap.sameBy Parameter.same old.parameters new.parameters = true :=
    iff_of_eq (Bool.not_eq_false' _)
  have outputs : (old.diff new).outputsChanged = false ↔
      NameMap.sameBy Output.same old.outputs new.outputs = true :=
    iff_of_eq (Bool.not_eq_false' _)
  rw [TemplateDiff.hasChanges_eq_false_iff, parameters, outputs, sameBy_resources_iff]
  constructor
  · rintro ⟨notAdded, notModified, notDeleted, parametersAgree, outputsAgree⟩
    refine ⟨fun id f isFate => ?_, parametersAgree, outputsAgree⟩
    cases f with
    | added => exact absurd isFate ((none_of .added).1 notAdded id)
    | modified => exact absurd isFate ((none_of .modified).1 notModified id)
    | deleted => exact absurd isFate ((none_of .deleted).1 notDeleted id)
    | unchanged => rfl
  · rintro ⟨only, parametersAgree, outputsAgree⟩
    have empty {f : Fate} (changes : f ≠ .unchanged) : (old.diff new).idsOf f = .empty :=
      (none_of f).2 fun id isFate => changes (only id f isFate)
    exact ⟨empty (f := .added) nofun, empty (f := .modified) nofun, empty (f := .deleted) nofun,
      parametersAgree, outputsAgree⟩

/-- Where a diff has no changes, every id of either revision is unchanged. -/
theorem unchanged_eq_names (same : (old.diff new).hasChanges = false) :
    (old.diff new).unchanged = old.resources.names ∧
      (old.diff new).unchanged = new.resources.names := by
  have only := sameBy_resources_iff.1 (hasChanges_diff_eq_false_iff.1 same).1
  have unchanged (id : String) : id ∈ (old.diff new).unchanged.names ↔ old.fate new id ≠ none := by
    rw [Option.ne_none_iff_exists', show (old.diff new).unchanged =
      (old.diff new).idsOf .unchanged from rfl, mem_idsOf_diff_iff]
    exact ⟨fun isFate => ⟨_, isFate⟩, fun ⟨f, isFate⟩ => only id f isFate ▸ isFate⟩
  constructor <;> refine NameSet.eq_of_mem_iff fun id => (unchanged id).trans ?_
  · rw [ne_eq, fate_eq_none_iff, not_and_or, not_not, not_not]
    refine or_iff_left_of_imp fun declared => ?_
    by_contra missing
    cases only id _ (fate_eq_added_iff.2 ⟨declared, missing⟩)
  · rw [ne_eq, fate_eq_none_iff, not_and_or, not_not, not_not]
    refine or_iff_right_of_imp fun declared => ?_
    by_contra missing
    cases only id _ (fate_eq_deleted_iff.2 ⟨declared, missing⟩)

/-- Two revisions say the same: their diff has no changes, and the sections that a diff does not
compare match. -/
structure SaysSame (old new : Template) : Prop where
  diff : (old.diff new).hasChanges = false
  sections : old.sectionsMatch new = true

theorem SaysSame.symm (hold : old.Distinct) (hnew : new.Distinct) (same : old.SaysSame new) :
    new.SaysSame old := by
  obtain ⟨resources, parameters, outputs⟩ := hasChanges_diff_eq_false_iff.1 same.diff
  have sections := same.sections
  simp only [sectionsMatch, Bool.and_eq_true, beq_iff_eq] at sections
  obtain ⟨⟨description, mappings⟩, conditions⟩ := sections
  constructor
  · rw [hasChanges_diff_eq_false_iff]
    refine ⟨?_, sameBy_parameters_comm hold hnew ▸ parameters,
      sameBy_outputs_comm hold hnew ▸ outputs⟩
    rw [← resources]
    exact NameMap.sameBy_comm fun name l r atNew atOld =>
      Resource.same_comm (hnew.resources name l atNew) (hold.resources name r atOld)
  · simp only [sectionsMatch, Bool.and_eq_true, beq_iff_eq]
    refine ⟨⟨description.symm, ?_⟩, ?_⟩
    · rw [← mappings]
      exact NameMap.sameBy_comm fun name l r atNew atOld =>
        Value.same_comm (hnew.mappings name l atNew) (hold.mappings name r atOld)
    · rw [← conditions]
      exact NameMap.sameBy_comm fun name l r atNew atOld =>
        Value.same_comm (hnew.conditions name l atNew) (hold.conditions name r atOld)

theorem SaysSame.refl {t : Template} (distinct : t.Distinct) : t.SaysSame t := by
  constructor
  · rw [hasChanges_diff_eq_false_iff]
    exact ⟨NameMap.sameBy_refl fun name r declared =>
        Resource.same_refl (distinct.resources name r declared),
      NameMap.sameBy_refl fun name p declared =>
        Parameter.same_refl (distinct.parameters name p declared),
      NameMap.sameBy_refl fun name o declared =>
        Output.same_refl (distinct.outputs name o declared)⟩
  · simp only [sectionsMatch, Bool.and_eq_true, beq_iff_eq]
    exact ⟨⟨trivial, NameMap.sameBy_refl fun name table declared =>
        Value.same_refl (distinct.mappings name table declared)⟩,
      NameMap.sameBy_refl fun name term declared =>
        Value.same_refl (distinct.conditions name term declared)⟩

/-- A diff partitions the ids of its revisions, so that its total counts them; what is added or
deleted is what only one of them has. The diff of the swapped revisions exchanges these two sets and
is the same otherwise, and a revision differs in nothing from itself. The objects of the revisions
hold every key once. -/
theorem diff_partitions_and_reverses (a b : Template) (ha : a.Distinct) (hb : b.Distinct) :
    (a.diff b).Partitions (a.resources.names.union b.resources.names) ∧
      (a.diff b).statistics.total = (a.resources.names.union b.resources.names).size ∧
      (∀ id, id ∈ (a.diff b).added.names ↔ id ∈ b.resources.keys ∧ id ∉ a.resources.keys) ∧
      (∀ id, id ∈ (a.diff b).deleted.names ↔ id ∈ a.resources.keys ∧ id ∉ b.resources.keys) ∧
      b.diff a = { a.diff b with added := (a.diff b).deleted, deleted := (a.diff b).added } ∧
      (a.diff a).unchanged = a.resources.names ∧ (a.diff a).hasChanges = false := by
  have partitions := partitions_diff a b
  have same := (SaysSame.refl ha).diff
  refine ⟨partitions, partitions.total_eq, fun id => ?_, fun id => ?_, diff_swap ha hb,
    (unchanged_eq_names same).1, same⟩
  · exact (mem_idsOf_diff_iff .added).trans fate_eq_added_iff
  · exact (mem_idsOf_diff_iff .deleted).trans fate_eq_deleted_iff

/-- The template of some queues, each with its properties. -/
def queues (declared : List (String × Members)) : Template :=
  { Template.empty with
    resources := (NameMap.ofList declared).mapValues fun properties =>
      ⟨"AWS::SQS::Queue", properties, .empty, none, .delete, none⟩ }

/-- Three queues, one of which goes, another gets a longer delay, and the third is written anew,
while a new one comes. The diff has one id of each fate from either side. -/
theorem queues_diff_reverses :
    let old := queues [("Jobs", [("QueueName", .string "jobs"), ("DelaySeconds", .null)]),
      ("Mail", [("DelaySeconds", .number (.int 5))]), ("Past", [])]
    let new := queues [("Jobs", [("DelaySeconds", .null), ("QueueName", .string "jobs")]),
      ("Mail", [("DelaySeconds", .number (.int 9))]), ("Spare", [])]
    old.Distinct ∧ new.Distinct ∧ (old.diff new).statistics.total = 4 ∧
      old.diff new = ⟨.ofList ["Spare"], .ofList ["Mail"], .ofList ["Past"], .ofList ["Jobs"],
        false, false⟩ ∧
      new.diff old = ⟨.ofList ["Past"], .ofList ["Mail"], .ofList ["Spare"], .ofList ["Jobs"],
        false, false⟩ := by
  intro old new
  have distinctOld : old.Distinct := by decide
  have distinctNew : new.Distinct := by decide
  obtain ⟨-, total, -, -, reverses, -, -⟩ := diff_partitions_and_reverses old new distinctOld
    distinctNew
  have forward : old.diff new = ⟨.ofList ["Spare"], .ofList ["Mail"], .ofList ["Past"],
      .ofList ["Jobs"], false, false⟩ := by decide
  refine ⟨distinctOld, distinctNew, total.trans (by decide), forward, ?_⟩
  rw [reverses, forward]

end Template

end StackDeploy
