/-
# Reading records that were written

A record is written as an object that states some of its fields, in their order, and leaves out the
others. If what is written for each field is read by that field into some part, the whole record is
read into these parts. Sections and lists are read item by item in the same way.
-/

import StackDeploy.Proofs.Json.Written

namespace StackDeploy.Json

open Value

namespace FieldReader

variable {Part : Type} {field : FieldReader Part} {fields before : List (FieldReader Part)}
  {members : Members} {parts : List Part}

/-- Members that state some of the fields of a record, in order, and the parts that they are read
into. -/
inductive Writes : List (FieldReader Part) → Members → List Part → Prop
  | nil : Writes [] [] []
  | omits {field : FieldReader Part} {fields : List (FieldReader Part)} {members : Members}
      {parts : List Part} : Writes fields members parts → Writes (field :: fields) members parts
  | states {field : FieldReader Part} {fields : List (FieldReader Part)} {members : Members}
      {parts : List Part} {value : Value} {part : Part} :
      field.read value.toTree = .ok part → Writes fields members parts →
      Writes (field :: fields) ((field.name, value) :: members) (part :: parts)

private theorem find?_name (nodup : ((before ++ field :: fields).map name).Nodup) :
    (before ++ field :: fields).find? (fun other => other.name == field.name) = some field := by
  rw [List.map_append, List.map_cons, List.nodup_append] at nodup
  have not_before : before.find? (fun other => other.name == field.name) = none := by
    rw [List.find?_eq_none]
    intro other mem same
    exact nodup.2.2 _ (List.mem_map_of_mem mem) _ List.mem_cons_self (beq_iff_eq.1 same)
  rw [List.find?_append, not_before, Option.none_or]
  exact List.find?_cons_of_pos (beq_self_eq_true field.name)

/-- The fields that are still to come have not been seen. -/
private theorem readMembers_of_writes (writes : Writes fields members parts) :
    ∀ (before : List (FieldReader Part)) (seen : List String),
      ((before ++ fields).map name).Nodup → seen ⊆ before.map name →
      readMembers (before ++ fields) seen (memberTrees members) = .ok parts := by
  induction writes with
  | nil => exact fun _ _ _ _ => rfl
  | @omits field fields members parts _ ih =>
      intro before seen nodup past
      rw [List.append_cons] at nodup ⊢
      refine ih _ _ nodup (List.Subset.trans past ?_)
      rw [List.map_append]
      exact List.subset_append_left _ _
  | @states field fields members parts value part read _ ih =>
      intro before seen nodup past
      have found := find?_name nodup
      have unseen : seen.contains field.name = false := by
        rw [List.map_append, List.map_cons, List.nodup_append] at nodup
        rw [← Bool.not_eq_true, List.contains_iff_mem]
        exact fun mem => nodup.2.2 _ (past mem) _ List.mem_cons_self rfl
      have later : readMembers (before ++ field :: fields) (field.name :: seen)
          (memberTrees members) = .ok parts := by
        rw [List.append_cons] at nodup ⊢
        refine ih _ _ nodup (List.cons_subset.2 ⟨?_, List.Subset.trans past ?_⟩)
        · rw [List.map_append]
          exact List.mem_append_right _ List.mem_cons_self
        · rw [List.map_append]
          exact List.subset_append_left _ _
      rw [memberTrees, readMembers]
      dsimp only [bind, Except.bind]
      rw [found]
      dsimp only
      rw [unseen, read, later]
      rfl

/-- A record is read from its members. -/
theorem readRecord_of_writes {record : String} {depth : Depth}
    {fields : Depth → List (FieldReader Part)} (nodup : ((fields depth).map name).Nodup)
    (writes : Writes (fields depth) members parts) :
    readRecord record (depth + 1) fields (Value.object members).toTree = .ok parts := by
  have read : readMembers (fields depth) [] (memberTrees members) = .ok parts :=
    readMembers_of_writes writes [] [] nodup (List.nil_subset _)
  rw [toTree, readRecord, Tree.enter, read]
  rfl

end FieldReader

/-- A value as it counts where null stands for its absence. -/
def Value.present? : Value → Option Value
  | .null => none
  | value => some value

theorem Value.present?_of_ne_null {value : Value} (present : value ≠ .null) :
    value.present? = some value := by
  cases value with
  | null => exact absurd rfl present
  | _ => rfl

namespace Tree

variable {α β : Type} {depth : Depth} {reader : Depth → Tree → Reading α} {write : α → Value}

/-- A list is read item by item. -/
theorem toList_toTree {values : List α}
    (read : ∀ value ∈ values, reader depth (write value).toTree = .ok value) :
    (Value.array (values.map write)).toTree.toList (depth + 1) reader = .ok values := by
  have items : readItems (reader depth) (itemTrees (values.map write)) = .ok values := by
    induction values with
    | nil => rfl
    | cons value rest ih =>
        rw [List.map_cons, itemTrees, readItems, read value List.mem_cons_self,
          ih fun other mem => read other (List.mem_cons_of_mem _ mem)]
        rfl
  rw [toTree, toList, enter, items]
  rfl

/-- An object of entries is read entry by entry, each into what it is written for. -/
theorem toEntries_toTree {entries : List (String × β)} {writeEntry : β → Value} {asRead : β → α}
    (read : ∀ entry ∈ entries,
      reader depth (writeEntry entry.2).toTree = .ok (asRead entry.2)) :
    (Value.object (entries.map fun entry => (entry.1, writeEntry entry.2))).toTree.toEntries
      (depth + 1) reader = .ok (entries.map fun entry => (entry.1, asRead entry.2)) := by
  have members : readEntries (reader depth)
      (memberTrees (entries.map fun entry => (entry.1, writeEntry entry.2))) =
        .ok (entries.map fun entry => (entry.1, asRead entry.2)) := by
    induction entries with
    | nil => rfl
    | cons entry rest ih =>
        rw [List.map_cons, memberTrees, readEntries, read entry List.mem_cons_self,
          ih fun other mem => read other (List.mem_cons_of_mem _ mem)]
        rfl
  rw [toTree, toEntries, enter, members]
  rfl

/-- A value that is not null is read where it could be absent. -/
theorem toOption_toTree {value : Value} {a : α} {readOne : Tree → Reading α}
    (present : value ≠ .null) (read : readOne value.toTree = .ok a) :
    value.toTree.toOption readOne = .ok (some a) := by
  cases value with
  | null => exact absurd rfl present
  | _ =>
      show (readOne _).map some = _
      rw [read]
      rfl

/-- A dynamic value that could be absent is read, unless it is null. -/
theorem toOption_toTree_value {value : Value} (sound : Sound depth value) :
    value.toTree.toOption (toValue depth) = .ok value.present? := by
  by_cases isNull : value = .null
  · rw [isNull]
    rfl
  · rw [toOption_toTree isNull (toValue_toTree sound), present?_of_ne_null isNull]

end Tree

/-- An object that reading can give is read with its members. -/
theorem Members.ofTree_toTree {depth : Depth} {members : Members}
    (sound : Tree.Sound (depth + 1) (.object members)) :
    Members.ofTree (depth + 1) (Value.object members).toTree = .ok members := by
  obtain ⟨distinct, nested⟩ := sound
  cases distinct with
  | object keys distinct =>
      cases nested with
      | object nested =>
          have entries : (Value.object members).toTree.toEntries (depth + 1) Tree.toValue =
              .ok members := by
            have read : ∀ entry ∈ members,
                (id entry.2 : Value).toTree.toValue depth = .ok (id entry.2) :=
              fun entry mem => Tree.toValue_toTree ⟨distinct entry mem, nested entry mem⟩
            have written := Tree.toEntries_toTree read
            have same : members.map (fun entry => (entry.1, id entry.2)) = members :=
              List.map_id members
            rwa [same] at written
          rw [Members.ofTree, entries]
          exact congrArg Except.ok (Members.ofList_of_nodup keys)

end StackDeploy.Json
