/-
# Records whose members stand in another order

A record is read into its parts, one for each field that is stated, in the order of the text;
unknown fields leave no part. With every key once, what a member contributes does not depend on the
members before it, so another order of the members gives the parts in another order. The array form
of a record has no keys, and its parts stay where they are.
-/

import StackDeploy.Proofs.Json.Reordering

namespace StackDeploy.Json.FieldReader

open Json.Tree

variable {Part α : Type} {fields : List (FieldReader Part)}
  {members : List (Except Problem String × Tree)} {parts : List Part} {tag : Part → String}
  {Agrees : Part → Part → Prop}

/-- What a member contributes to the parts of a record: nothing under a key that is no field, else
the part that its field reads. -/
inductive Contributes (fields : List (FieldReader Part)) :
    Except Problem String × Tree → List Part → Prop
  | passed {key : String} {item : Tree} :
      fields.find? (fun field => field.name == key) = none → item.skip = .ok () →
      Contributes fields (.ok key, item) []
  | stated {key : String} {item : Tree} {field : FieldReader Part} {part : Part} :
      fields.find? (fun field => field.name == key) = some field → field.read item = .ok part →
      Contributes fields (.ok key, item) [part]

/-- The parts of a record are what its members contribute. -/
private theorem contributes_of_readMembers {seen : List String}
    (read : readMembers fields seen members = .ok parts) :
    ∃ chunks, List.Forall₂ (Contributes fields) members chunks ∧ chunks.flatten = parts := by
  induction members generalizing seen parts with
  | nil => cases read; exact ⟨[], .nil, rfl⟩
  | cons member rest ih =>
      obtain ⟨key, item⟩ := member
      obtain ⟨name, rfl, reads⟩ := ok_of_bind read
      split at reads
      · next unknown =>
          obtain ⟨⟨⟩, passed, later⟩ := ok_of_bind reads
          obtain ⟨chunks, contribute, rfl⟩ := ih later
          exact ⟨[] :: chunks, .cons (.passed unknown passed) contribute, rfl⟩
      · next field found =>
          split at reads
          · cases reads
          · obtain ⟨part, readItem, stated⟩ := ok_of_bind reads
            obtain ⟨later, readRest, made⟩ := ok_of_bind stated
            cases made
            obtain ⟨chunks, contribute, rfl⟩ := ih readRest
            exact ⟨[part] :: chunks, .cons (.stated found readItem) contribute, rfl⟩

/-- Conversely, members with distinct keys are read into what they contribute. -/
private theorem readMembers_of_contributes {seen : List String} {chunks : List (List Part)}
    (contribute : List.Forall₂ (Contributes fields) members chunks)
    (once : (readableKeys members).Nodup) (unseen : ∀ key ∈ readableKeys members, key ∉ seen) :
    readMembers fields seen members = .ok chunks.flatten := by
  induction contribute generalizing seen with
  | nil => rfl
  | @cons member chunk rest chunks contributes _ ih =>
      cases contributes with
      | @passed key item unknown passed =>
          have once' : (key :: readableKeys rest).Nodup := once
          have later := ih (List.nodup_cons.1 once').2 fun other mem =>
            unseen other (List.mem_cons_of_mem _ mem)
          rw [readMembers]
          dsimp only [bind, Except.bind]
          rw [unknown, passed]
          exact later
      | @stated key item field part found readItem =>
          have once' : (key :: readableKeys rest).Nodup := once
          have later : readMembers fields (key :: seen) rest = .ok chunks.flatten := by
            refine ih (List.nodup_cons.1 once').2 fun other mem seen_mem => ?_
            rcases List.mem_cons.1 seen_mem with rfl | before
            · exact (List.nodup_cons.1 once').1 mem
            · exact unseen other (List.mem_cons_of_mem _ mem) before
          have new : seen.contains key = false := by
            rw [← Bool.not_eq_true, List.contains_iff_mem]
            exact unseen key List.mem_cons_self
          rw [readMembers]
          dsimp only [bind, Except.bind]
          rw [found]
          dsimp only
          rw [new, readItem, later]
          rfl

/-- A field reads parts that carry its name, and ignores the order of keys. -/
structure Steady (tag : Part → String) (Agrees : Part → Part → Prop) (field : FieldReader Part) :
    Prop where
  named : ∀ item part, field.read item = .ok part → tag part = field.name
  ignores : IgnoresOrder field.read Agrees

/-- A field that reads a value into a part of its own is steady if the reader of the value ignores
the order of keys. -/
theorem Steady.of_map {name : String} {mayEnd : Bool} {reader : Tree → Reading α}
    {AgreeBefore : α → α → Prop} {part : α → Part} (ignores : IgnoresOrder reader AgreeBefore)
    (agree : ∀ a a', AgreeBefore a a' → Agrees (part a) (part a'))
    (named : ∀ a, tag (part a) = name) :
    Steady tag Agrees ⟨name, mayEnd, fun tree => (reader tree).map part⟩ where
  named := by
    intro item found read
    obtain ⟨a, -, rfl⟩ := ok_of_map read
    exact named a
  ignores := ignores.map agree

/-- Where members change places inside a member, it contributes a part that agrees. -/
private theorem Contributes.reordered {member member' : Except Problem String × Tree}
    {chunk : List Part} (steady : ∀ field ∈ fields, field.Steady tag Agrees)
    (same_key : member.1 = member'.1) (same_value : member.2.Reordered member'.2)
    (once : member.2.KeysOnce) (contributes : Contributes fields member chunk) :
    ∃ chunk', Contributes fields member' chunk' ∧
      List.Forall₂ (fun l r => tag l = tag r ∧ Agrees l r) chunk chunk' := by
  obtain ⟨key', item'⟩ := member'
  cases contributes with
  | @passed key item unknown passed =>
      cases same_key
      exact ⟨[], .passed unknown (same_value.skip passed), .nil⟩
  | @stated key item field part found readItem =>
      cases same_key
      have field_steady := steady field (List.mem_of_find?_eq_some found)
      obtain ⟨part', readItem', agree⟩ := field_steady.ignores same_value once readItem
      refine ⟨[part'], .stated found readItem', .cons ⟨?_, agree⟩ .nil⟩
      rw [field_steady.named _ _ readItem, field_steady.named _ _ readItem']

/-- The parts of members carry some of their keys. -/
private theorem map_tag_sublist {chunks : List (List Part)}
    (steady : ∀ field ∈ fields, field.Steady tag Agrees)
    (contribute : List.Forall₂ (Contributes fields) members chunks) :
    (chunks.flatten.map tag).Sublist (readableKeys members) := by
  induction contribute with
  | nil => exact .slnil
  | @cons member chunk rest chunks contributes _ ih =>
      cases contributes with
      | passed => exact ih.cons _
      | @stated key item field part found readItem =>
          have carries : tag part = key := by
            rw [(steady field (List.mem_of_find?_eq_some found)).named item part readItem]
            have matches_key := List.find?_some found
            exact beq_iff_eq.1 matches_key
          rw [List.flatten_cons, List.singleton_append, List.map_cons, carries]
          exact ih.cons_cons _

private theorem forall₂_flatten {chunks between : List (List Part)}
    (agree : List.Forall₂ (List.Forall₂ Agrees) chunks between) :
    List.Forall₂ Agrees chunks.flatten between.flatten :=
  List.rel_flatten agree

private theorem perm_keys {pairs : List ((Except Problem String × Tree) ×
    (Except Problem String × Tree))} (keys : ∀ pair ∈ pairs, pair.1.1 = pair.2.1)
    (perm : (pairs.map Prod.snd).Perm members) :
    (readableKeys (pairs.map Prod.fst)).Perm (readableKeys members) := by
  have same : readableKeys (pairs.map Prod.fst) = readableKeys (pairs.map Prod.snd) := by
    rw [readableKeys, readableKeys, List.filterMap_map, List.filterMap_map]
    exact List.filterMap_congr fun pair mem => congrArg Except.toOption (keys pair mem)
  rw [same]
  exact perm.filterMap _

/-- In the array form the parts correspond to each other in their order. -/
private theorem readItems_reordered {record : String} {count position : Nat} {ending : Ending}
    {pairs : List (Tree × Tree)} (steady : ∀ field ∈ fields, field.Steady tag Agrees)
    (items : ∀ pair ∈ pairs, pair.1.Reordered pair.2) (once : ∀ pair ∈ pairs, pair.1.KeysOnce)
    (read : readItems record count position ending fields (pairs.map Prod.fst) = .ok parts) :
    (parts.map tag).Sublist (fields.map name) ∧
      ∃ parts', readItems record count position ending fields (pairs.map Prod.snd) = .ok parts' ∧
        List.Forall₂ (fun l r => tag l = tag r ∧ Agrees l r) parts parts' := by
  induction fields generalizing pairs position parts with
  | nil =>
      cases pairs with
      | nil =>
          have ended := read
          obtain ⟨-, -, read⟩ := ok_of_bind read
          cases read
          exact ⟨.slnil, [], ended, .nil⟩
      | cons => cases read
  | cons field fields ih =>
      cases pairs with
      | nil =>
          have ended := read
          obtain ⟨-, -, read⟩ := ok_of_bind read
          split at read
          · cases read
            exact ⟨List.nil_sublist _, [], ended, .nil⟩
          · cases read
      | cons pair pairs =>
          obtain ⟨part, readItem, read⟩ := ok_of_bind read
          obtain ⟨later, readRest, read⟩ := ok_of_bind read
          cases read
          have head := steady field List.mem_cons_self
          obtain ⟨part', readItem', agree⟩ := head.ignores (items pair List.mem_cons_self)
            (once pair List.mem_cons_self) readItem
          obtain ⟨tags, later', readRest', agreeRest⟩ := ih
            (fun field mem => steady field (List.mem_cons_of_mem _ mem))
            (fun pair mem => items pair (List.mem_cons_of_mem _ mem))
            (fun pair mem => once pair (List.mem_cons_of_mem _ mem)) readRest
          have named := head.named _ _ readItem
          have named' := head.named _ _ readItem'
          refine ⟨?_, part' :: later', ?_, .cons ⟨named.trans named'.symm, agree⟩ agreeRest⟩
          · rw [List.map_cons, List.map_cons, named]
            exact tags.cons_cons _
          · rw [List.map_cons, readItems, readItem', readRest']
            rfl

/-- A record is read into parts that are rearranged, if its fields are steady and have distinct
names. -/
theorem readRecord_ignoresOrder {record : String} {fields : Depth → List (FieldReader Part)}
    (steady : ∀ inner, ∀ field ∈ fields inner, field.Steady tag Agrees)
    (distinct : ∀ inner, ((fields inner).map name).Nodup) (depth : Depth) :
    IgnoresOrder (readRecord record depth fields) (Rearranged tag Agrees) := by
  intro tree tree' parts reordered once read
  cases reordered with
  | @object pairs members ending keys values perm =>
      obtain ⟨inner, rfl, read⟩ := of_enter read
      obtain ⟨found, readFound, read⟩ := ok_of_bind read
      obtain ⟨⟨⟩, closed, read⟩ := ok_of_bind read
      cases read
      cases once with
      | object keysOnce once =>
          obtain ⟨chunks, contribute, rfl⟩ := contributes_of_readMembers readFound
          have counterpart : ∀ pair ∈ pairs, ∀ chunk, Contributes (fields inner) pair.1 chunk →
              ∃ chunk', Contributes (fields inner) pair.2 chunk' ∧
                List.Forall₂ (fun l r => tag l = tag r ∧ Agrees l r) chunk chunk' :=
            fun pair mem chunk => Contributes.reordered (steady inner) (keys pair mem)
              (values pair mem) (once _ (List.mem_map_of_mem mem))
          obtain ⟨chunks', contribute', between, agree, same⟩ :=
            exists_rearranged counterpart perm contribute
          refine ⟨chunks'.flatten, ?_, ?_, between.flatten, forall₂_flatten agree, same.flatten⟩
          · have unseen : ∀ key ∈ readableKeys members, key ∉ [] := fun _ _ => List.not_mem_nil
            have read' := readMembers_of_contributes contribute'
              ((perm_keys keys perm).nodup_iff.1 keysOnce) unseen
            rw [readRecord, enter, read', closed]
            rfl
          · exact (map_tag_sublist (steady inner) contribute).nodup keysOnce
  | @array pairs ending items =>
      obtain ⟨inner, rfl, readItems⟩ := of_enter read
      cases once with
      | array once =>
          rw [List.forall_mem_map] at once
          obtain ⟨tags, parts', read', agree⟩ := readItems_reordered (steady inner) items once
            readItems
          exact ⟨parts', read', tags.nodup (distinct inner), parts', agree, .refl _⟩
  | _ => cases read

end StackDeploy.Json.FieldReader
