/-
# What a change replaces

The replacements of a change are looked for only among the resources that the diff calls modified.
Nothing is lost by that: a property that makes the identity of a resource and has come, gone or
changed makes the comparison of the whole resource fail, so the list can be read off the two
definitions of each resource. It holds every reason to replace something and no other, once and in
order, and what it says of a resource does not change with the rest of the template.
-/

import StackDeploy.Proofs.Diff.Partition

namespace StackDeploy

open Json (Members Value)

/-! ## The rows of the table -/

/-- The table has one row for a kind. -/
theorem identityProperties_eq_some_iff {type : String} {properties : List String} :
    identityProperties type = some properties ↔ (type, properties) ∈ identityTable := by
  constructor
  · intro listed
    obtain ⟨row, found, rfl⟩ := Option.map_eq_some_iff.1 listed
    have kind := List.find?_some found
    exact beq_iff_eq.1 kind ▸ List.mem_of_find?_eq_some found
  · have rows : ∀ row ∈ identityTable, identityProperties row.1 = some row.2 := by decide
    exact rows (type, properties)

theorem nodup_of_mem_identityTable : ∀ row ∈ identityTable, row.2.Nodup := by decide

/-! ## Reasons to replace a resource -/

namespace Resource

variable {before after : Resource} {property : String} {reason : ReplacementReason}

/-- A property differs between two definitions: one of them states it and the other does not, or
both do and the values do not say the same. -/
inductive PropertyDiffers (before after : Resource) (property : String) : Prop
  | comes {value : Value} : Members.get? property before.properties = none →
      Members.get? property after.properties = some value → PropertyDiffers before after property
  | goes {value : Value} : Members.get? property before.properties = some value →
      Members.get? property after.properties = none → PropertyDiffers before after property
  | changes {old new : Value} : Members.get? property before.properties = some old →
      Members.get? property after.properties = some new → old.same new = false →
        PropertyDiffers before after property

theorem propertyDiffers_iff :
    before.PropertyDiffers after property ↔
      optionsSame Value.same (Members.get? property before.properties)
        (Members.get? property after.properties) = false := by
  constructor
  · rintro (⟨atBefore, atAfter⟩ | ⟨atBefore, atAfter⟩ | ⟨atBefore, atAfter, differ⟩) <;>
      rw [atBefore, atAfter]
    · rfl
    · rfl
    · exact differ
  · intro differ
    cases atBefore : Members.get? property before.properties with
    | none =>
        cases atAfter : Members.get? property after.properties with
        | none => rw [atBefore, atAfter] at differ; cases differ
        | some value => exact .comes atBefore atAfter
    | some old =>
        cases atAfter : Members.get? property after.properties with
        | none => exact .goes atBefore atAfter
        | some new => rw [atBefore, atAfter] at differ; exact .changes atBefore atAfter differ

/-- Why one definition of a resource cannot follow another on the same physical resource: the kind
is another one, or a property that the table lists for the kind differs. -/
inductive IsReplacedBy (before after : Resource) : ReplacementReason → Prop
  | kind : before.type ≠ after.type →
      IsReplacedBy before after (.typeChanged before.type after.type)
  | property {properties : List String} {property : String} : before.type = after.type →
      (after.type, properties) ∈ identityTable → property ∈ properties →
        before.PropertyDiffers after property →
          IsReplacedBy before after (.propertyChanged property)

/-- Of two reasons, the table lists the property of the first one before that of the other. -/
inductive ListsBefore (r : Resource) : ReplacementReason → ReplacementReason → Prop
  | property {properties : List String} {first second : String} :
      (r.type, properties) ∈ identityTable → [first, second].Sublist properties →
        ListsBefore r (.propertyChanged first) (.propertyChanged second)

theorem replacementReasons_of_type_ne (other : before.type ≠ after.type) :
    before.replacementReasons after = [.typeChanged before.type after.type] :=
  if_pos other

theorem replacementReasons_of_unlisted (same : before.type = after.type)
    (unlisted : identityProperties after.type = none) : before.replacementReasons after = [] := by
  rw [replacementReasons, if_neg (not_not_intro same), unlisted]
  rfl

theorem replacementReasons_of_listed {properties : List String} (same : before.type = after.type)
    (listed : identityProperties after.type = some properties) :
    before.replacementReasons after = properties.filterMap fun property =>
      if optionsSame Value.same (Members.get? property before.properties)
          (Members.get? property after.properties) then none
      else some (.propertyChanged property) := by
  rw [replacementReasons, if_neg (not_not_intro same), listed]
  rfl

private theorem changed_eq_some_iff :
    (if optionsSame Value.same (Members.get? property before.properties)
        (Members.get? property after.properties) then none
      else some (ReplacementReason.propertyChanged property)) = some reason ↔
      before.PropertyDiffers after property ∧
        ReplacementReason.propertyChanged property = reason := by
  rw [propertyDiffers_iff]
  cases optionsSame Value.same (Members.get? property before.properties)
    (Members.get? property after.properties) <;> simp

theorem mem_replacementReasons_iff :
    reason ∈ before.replacementReasons after ↔ before.IsReplacedBy after reason := by
  by_cases same : before.type = after.type
  · cases listed : identityProperties after.type with
    | none =>
        rw [replacementReasons_of_unlisted same listed]
        refine iff_of_false List.not_mem_nil fun replaced => ?_
        cases replaced with
        | kind other => exact other same
        | property _ row =>
            rw [← identityProperties_eq_some_iff, listed] at row
            cases row
    | some properties =>
        rw [replacementReasons_of_listed same listed, List.mem_filterMap]
        simp only [changed_eq_some_iff]
        constructor
        · rintro ⟨property, mem, differs, rfl⟩
          exact .property same (identityProperties_eq_some_iff.1 listed) mem differs
        · intro replaced
          cases replaced with
          | kind other => exact absurd same other
          | property _ row mem differs =>
              rw [← identityProperties_eq_some_iff, listed, Option.some.injEq] at row
              exact ⟨_, row ▸ mem, differs, rfl⟩
  · rw [replacementReasons_of_type_ne same, List.mem_singleton]
    constructor
    · rintro rfl
      exact .kind same
    · intro replaced
      cases replaced with
      | kind => rfl
      | property type_eq => exact absurd type_eq same

theorem pairwise_replacementReasons :
    (before.replacementReasons after).Pairwise after.ListsBefore := by
  by_cases same : before.type = after.type
  · cases listed : identityProperties after.type with
    | none =>
        rw [replacementReasons_of_unlisted same listed]
        exact .nil
    | some properties =>
        have row := identityProperties_eq_some_iff.1 listed
        have inTable : properties.Pairwise fun first second =>
            [first, second].Sublist properties := List.pairwise_iff_forall_sublist.2 id
        rw [replacementReasons_of_listed same listed]
        refine inTable.filterMap _ fun first second order r atFirst s atSecond => ?_
        obtain ⟨-, rfl⟩ := changed_eq_some_iff.1 atFirst
        obtain ⟨-, rfl⟩ := changed_eq_some_iff.1 atSecond
        exact .property row order
  · rw [replacementReasons_of_type_ne same]
    exact List.pairwise_singleton _ _

theorem not_listsBefore_self : ¬ before.ListsBefore reason reason := by
  rintro ⟨row, order⟩
  exact List.nodup_iff_sublist.1 (nodup_of_mem_identityTable _ row) _ order

end Resource

namespace Template

variable {old new old' new' : Template} {id : String} {r : Replacement}

/-- A change replaces a resource for a reason: both revisions have it, and the reason lies in its
two definitions. -/
def Replaces (old new : Template) (r : Replacement) : Prop :=
  ∃ before after, old.resources.get? r.id = some before ∧ new.resources.get? r.id = some after ∧
    before.IsReplacedBy after r.reason

/-- One replacement is listed before another: its id comes first, or it is one of the same resource
and the table lists its property first. -/
inductive ListsBefore (new : Template) : Replacement → Replacement → Prop
  | id {first second : Replacement} : first.id < second.id → ListsBefore new first second
  | reason {id : String} {after : Resource} {first second : ReplacementReason} :
      new.resources.get? id = some after → after.ListsBefore first second →
        ListsBefore new ⟨id, first⟩ ⟨id, second⟩

theorem not_listsBefore_self : ¬ new.ListsBefore r r := by
  intro before
  cases before with
  | id lt => exact String.lt_irrefl _ lt
  | reason _ order => exact Resource.not_listsBefore_self order

/-- What is listed for one modified resource. -/
def replacementsOf (old new : Template) (id : String) : List Replacement :=
  match old.resources.get? id, new.resources.get? id with
  | some before, some after => (before.replacementReasons after).map fun reason => ⟨id, reason⟩
  | _, _ => []

theorem replacements_eq (d : TemplateDiff) :
    d.replacements old new = d.modified.names.flatMap (old.replacementsOf new) :=
  rfl

theorem mem_replacementsOf_iff :
    r ∈ old.replacementsOf new id ↔ r.id = id ∧ old.Replaces new r := by
  obtain ⟨name, reason⟩ := r
  unfold replacementsOf Replaces
  constructor
  · intro mem
    split at mem
    · rename_i before after atOld atNew
      obtain ⟨_, inside, same⟩ := List.mem_map.1 mem
      cases same
      exact ⟨rfl, before, after, atOld, atNew, Resource.mem_replacementReasons_iff.1 inside⟩
    · cases mem
  · rintro ⟨rfl, before, after, atOld, atNew, replaced⟩
    rw [atOld, atNew]
    exact List.mem_map_of_mem (Resource.mem_replacementReasons_iff.2 replaced)

theorem pairwise_replacementsOf : (old.replacementsOf new id).Pairwise new.ListsBefore := by
  unfold replacementsOf
  split
  · rename_i _ after _ atNew
    rw [List.pairwise_map]
    exact Resource.pairwise_replacementReasons.imp fun order => .reason atNew order
  · exact .nil

/-- A resource that a change replaces is modified: the comparison of its two definitions cannot miss
a property that makes its identity. -/
theorem Replaces.modified (hold : old.Distinct) (hnew : new.Distinct)
    (replaced : old.Replaces new r) : r.id ∈ (old.diff new).modified.names := by
  obtain ⟨before, after, atOld, atNew, reason⟩ := replaced
  refine mem_modified_iff.2 ⟨before, after, atOld, atNew, Bool.eq_false_iff.2 fun same => ?_⟩
  have keeps : before.KeepsIdentity after := Resource.keepsIdentity_of_same
    (Json.Value.distinct_object_iff.1 (hold.resources _ before atOld)).1
    (Json.Value.distinct_object_iff.1 (hnew.resources _ after atNew)).1 same
  have mem := Resource.mem_replacementReasons_iff.2 reason
  rw [Resource.replacementReasons_eq_nil_iff.2 keeps] at mem
  cases mem

theorem mem_replacements_diff_iff (hold : old.Distinct) (hnew : new.Distinct) :
    r ∈ (old.diff new).replacements old new ↔ old.Replaces new r := by
  rw [replacements_eq, List.mem_flatMap]
  simp only [mem_replacementsOf_iff]
  constructor
  · rintro ⟨_, -, -, replaced⟩
    exact replaced
  · exact fun replaced => ⟨r.id, replaced.modified hold hnew, rfl, replaced⟩

theorem pairwise_replacements (d : TemplateDiff) :
    (d.replacements old new).Pairwise new.ListsBefore := by
  rw [replacements_eq, List.pairwise_flatMap]
  refine ⟨fun _ _ => pairwise_replacementsOf, d.modified.sorted.imp ?_⟩
  intro first second lt r atFirst s atSecond
  refine .id ?_
  rwa [(mem_replacementsOf_iff.1 atFirst).1, (mem_replacementsOf_iff.1 atSecond).1]

/-- The entries of one resource are read off its two definitions. -/
private theorem filter_flatMap_replacementsOf {names : List String} (once : names.Nodup) :
    (names.flatMap (old.replacementsOf new)).filter (·.id = id) =
      if id ∈ names then old.replacementsOf new id else [] := by
  induction names with
  | nil => rfl
  | cons name rest ih =>
      obtain ⟨absent, once⟩ := List.nodup_cons.1 once
      rw [List.flatMap_cons, List.filter_append, ih once]
      by_cases here : id = name
      · subst here
        have all : (old.replacementsOf new id).filter (·.id = id) = old.replacementsOf new id :=
          List.filter_eq_self.2 fun r mem => decide_eq_true (mem_replacementsOf_iff.1 mem).1
        rw [all, if_neg absent, List.append_nil, if_pos List.mem_cons_self]
      · have none : (old.replacementsOf new name).filter (·.id = id) = [] := by
          refine List.filter_eq_nil_iff.2 fun r mem => ?_
          rw [(mem_replacementsOf_iff.1 mem).1, decide_eq_true_eq]
          exact Ne.symm here
        rw [none, List.nil_append]
        simp only [List.mem_cons, here, false_or]

theorem filter_replacements (d : TemplateDiff) :
    (d.replacements old new).filter (·.id = id) =
      if id ∈ d.modified.names then old.replacementsOf new id else [] :=
  filter_flatMap_replacementsOf d.modified.nodup_names

/-- The entries of a resource are the same in every change that has the same two definitions of
it. -/
theorem filter_replacements_congr (atOld : old'.resources.get? id = old.resources.get? id)
    (atNew : new'.resources.get? id = new.resources.get? id) :
    ((old'.diff new').replacements old' new').filter (·.id = id) =
      ((old.diff new).replacements old new).filter (·.id = id) := by
  have modified : id ∈ (old'.diff new').modified.names ↔ id ∈ (old.diff new).modified.names := by
    rw [mem_modified_iff, mem_modified_iff, atOld, atNew]
  have listed : old'.replacementsOf new' id = old.replacementsOf new id := by
    rw [replacementsOf, replacementsOf, atOld, atNew]
  rw [filter_replacements, filter_replacements, listed]
  simp only [modified]

theorem requiresReplacement_iff {d : TemplateDiff} :
    d.requiresReplacement old new = true ↔
      ∃ id, id ∈ d.deleted.names ∨ ∃ r ∈ d.replacements old new, r.id = id := by
  simp only [TemplateDiff.requiresReplacement, NameSet.isEmpty, Bool.or_eq_true, Bool.not_eq_true',
    List.isEmpty_eq_false_iff_exists_mem, exists_or]
  refine or_congr Iff.rfl ?_
  constructor
  · rintro ⟨r, mem⟩
    exact ⟨r.id, r, mem, rfl⟩
  · rintro ⟨_, r, mem, rfl⟩
    exact ⟨r, mem⟩

/-- The replacements of a change are exactly the reasons that lie in the definitions of its
resources, each once, in the order of the ids and for one id in the order of the table. What is
listed for an id is the same in every change that has the same two definitions of it, and so is that
the change replaces or deletes it, whatever else such a change does. -/
theorem replacements_are_complete_and_local (a b : Template) (ha : a.Distinct) (hb : b.Distinct) :
    (∀ r, r ∈ (a.diff b).replacements a b ↔ a.Replaces b r) ∧
      ((a.diff b).replacements a b).Pairwise b.ListsBefore ∧
        ((a.diff b).replacements a b).Nodup ∧
          ∀ (a' b' : Template) (id : String), a'.resources.get? id = a.resources.get? id →
            b'.resources.get? id = b.resources.get? id →
              ((a'.diff b').replacements a' b').filter (·.id = id) =
                  ((a.diff b).replacements a b).filter (·.id = id) ∧
                ((id ∈ (a.diff b).deleted.names ∨
                    ∃ r ∈ (a.diff b).replacements a b, r.id = id) →
                  (a'.diff b').requiresReplacement a' b' = true) := by
  have ordered : ((a.diff b).replacements a b).Pairwise b.ListsBefore := pairwise_replacements _
  refine ⟨fun r => mem_replacements_diff_iff ha hb, ordered, ?_, fun a' b' id atA atB => ?_⟩
  · refine ordered.imp fun {r s} before (same : r = s) => ?_
    exact not_listsBefore_self (same ▸ before)
  · have entries := filter_replacements_congr atA atB
    refine ⟨entries, fun reason => requiresReplacement_iff.2 ⟨id, reason.imp ?_ ?_⟩⟩
    · rw [mem_deleted_iff, mem_deleted_iff, atA, atB]
      exact fun deleted => deleted
    · rintro ⟨r, mem, sameId⟩
      have inside : r ∈ ((a.diff b).replacements a b).filter (·.id = id) :=
        List.mem_filter.2 ⟨mem, decide_eq_true sameId⟩
      rw [← entries, List.mem_filter] at inside
      exact ⟨r, inside.1, sameId⟩

/-- The template of some resources, each with its kind and its properties. -/
def declaring (resources : List (String × String × Members)) : Template :=
  { Template.empty with
    resources := (NameMap.ofList resources).mapValues fun declared =>
      ⟨declared.1, declared.2, .empty, none, .delete, none⟩ }

/-- A server gets another image and a subnet, and a bucket becomes a queue. The server is replaced
for the same two reasons when the bucket stays. -/
theorem server_and_bucket_are_replaced :
    let server := [("ImageId", Value.string "ami-2"), ("SubnetId", .string "net-1"),
      ("KeyName", .string "ops")]
    let old := declaring [("Server", "AWS::EC2::Instance",
        [("KeyName", .string "ops"), ("ImageId", .string "ami-1")]),
      ("Store", "AWS::S3::Bucket", [])]
    let new := declaring [("Server", "AWS::EC2::Instance", server),
      ("Store", "AWS::SQS::Queue", [])]
    let other := declaring [("Server", "AWS::EC2::Instance", server),
      ("Store", "AWS::S3::Bucket", [])]
    old.Distinct ∧ new.Distinct ∧
      (old.diff new).replacements old new =
        [⟨"Server", .propertyChanged "ImageId"⟩, ⟨"Server", .propertyChanged "SubnetId"⟩,
          ⟨"Store", .typeChanged "AWS::S3::Bucket" "AWS::SQS::Queue"⟩] ∧
      new.ListsBefore ⟨"Server", .propertyChanged "SubnetId"⟩
        ⟨"Store", .typeChanged "AWS::S3::Bucket" "AWS::SQS::Queue"⟩ ∧
      ((old.diff other).replacements old other).filter (·.id = "Server") =
        [⟨"Server", .propertyChanged "ImageId"⟩, ⟨"Server", .propertyChanged "SubnetId"⟩] ∧
      (old.diff other).requiresReplacement old other = true := by
  intro server old new other
  have distinctOld : old.Distinct := by decide
  have distinctNew : new.Distinct := by decide
  obtain ⟨-, ordered, -, atEach⟩ :=
    replacements_are_complete_and_local old new distinctOld distinctNew
  have listed : (old.diff new).replacements old new =
      [⟨"Server", .propertyChanged "ImageId"⟩, ⟨"Server", .propertyChanged "SubnetId"⟩,
        ⟨"Store", .typeChanged "AWS::S3::Bucket" "AWS::SQS::Queue"⟩] := by decide
  obtain ⟨entries, stays⟩ := atEach old other "Server" rfl (by decide)
  rw [listed] at ordered entries stays
  refine ⟨distinctOld, distinctNew, listed, ?_, entries, stays ?_⟩
  · exact List.rel_of_pairwise_cons (List.Pairwise.of_cons ordered) (List.mem_singleton.2 rfl)
  · exact Or.inr ⟨_, List.mem_cons_self, rfl⟩

end Template

end StackDeploy
