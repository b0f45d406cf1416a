/-
# Reading without regard to the order of keys

An object says the same in whatever order its members stand. A reader ignores this order if it also
accepts what becomes of a tree when members of its objects change places, at any depth, and then
reads something that agrees with what it read before. How closely the two agree is up to the
reader: a text is the same text, a dynamic value has its own members in another order. That the
order does not count depends on keys that are not repeated, since of two members with one key the
last one counts.
-/

import StackDeploy.Proofs.Diff.Comparison
import StackDeploy.Proofs.Json.Written
import StackDeploy.Proofs.Names.Rearranged

namespace StackDeploy.Json

/-- One tree is the other up to the order in which the members of its objects stand, at any depth.
The items of an array are paired in their order; the members of an object are first paired by their
keys, and then listed in any order. -/
inductive Tree.Reordered : Tree → Tree → Prop
  | null : Reordered .null .null
  | bool (value : Bool) : Reordered (.bool value) (.bool value)
  | number (value : Except Problem Number) : Reordered (.number value) (.number value)
  | string (value : Except Problem String) : Reordered (.string value) (.string value)
  | broken (fragment : Fragment) (reading skipping : Problem) :
      Reordered (.broken fragment reading skipping) (.broken fragment reading skipping)
  | array {pairs : List (Tree × Tree)} {ending : Ending} :
      (∀ pair ∈ pairs, Reordered pair.1 pair.2) →
      Reordered (.array (pairs.map Prod.fst) ending) (.array (pairs.map Prod.snd) ending)
  | object {pairs : List ((Except Problem String × Tree) × (Except Problem String × Tree))}
      {members : List (Except Problem String × Tree)} {ending : Ending} :
      (∀ pair ∈ pairs, pair.1.1 = pair.2.1) →
      (∀ pair ∈ pairs, Reordered pair.1.2 pair.2.2) →
      (pairs.map Prod.snd).Perm members →
      Reordered (.object (pairs.map Prod.fst) ending) (.object members ending)

/-- One document is the other up to the order in which the members of its objects stand. -/
structure Document.Reordered (d d' : Document) : Prop where
  root : d.root.Reordered d'.root
  trailing : d.trailing = d'.trailing

/-- The keys of members, as far as they can be read. -/
def Tree.readableKeys (members : List (Except Problem String × Tree)) : List String :=
  members.filterMap fun member => member.1.toOption

/-- No object of a tree, at any depth, repeats a key. -/
inductive Tree.KeysOnce : Tree → Prop
  | null : KeysOnce .null
  | bool (value : Bool) : KeysOnce (.bool value)
  | number (value : Except Problem Number) : KeysOnce (.number value)
  | string (value : Except Problem String) : KeysOnce (.string value)
  | broken (fragment : Fragment) (reading skipping : Problem) :
      KeysOnce (.broken fragment reading skipping)
  | array {items : List Tree} {ending : Ending} : (∀ item ∈ items, KeysOnce item) →
      KeysOnce (.array items ending)
  | object {members : List (Except Problem String × Tree)} {ending : Ending} :
      (Tree.readableKeys members).Nodup → (∀ member ∈ members, KeysOnce member.2) →
      KeysOnce (.object members ending)

theorem Value.itemTrees_eq_map (items : List Value) : itemTrees items = items.map toTree := by
  induction items with
  | nil => rfl
  | cons item rest ih => rw [itemTrees, ih, List.map_cons]

theorem Value.memberTrees_eq_map (members : Members) :
    memberTrees members = members.map fun member => (.ok member.1, member.2.toTree) := by
  induction members with
  | nil => rfl
  | cons member rest ih => rw [memberTrees, ih, List.map_cons]

/-- What is written of a value that holds every key once repeats no key. -/
theorem Value.Distinct.keysOnce {v : Value} (distinct : v.Distinct) : v.toTree.KeysOnce := by
  induction distinct with
  | null => exact .null
  | bool value => exact .bool value
  | number n => exact .number _
  | string s => exact .string _
  | array _ ih =>
      rw [toTree, itemTrees_eq_map]
      exact .array (List.forall_mem_map.2 ih)
  | @object members keys _ ih =>
      rw [toTree, memberTrees_eq_map]
      refine .object ?_ (List.forall_mem_map.2 ih)
      have names : Tree.readableKeys (members.map fun member => (.ok member.1, member.2.toTree)) =
          members.map Prod.fst := by
        rw [Tree.readableKeys, List.filterMap_map]
        exact congrFun List.filterMap_eq_map members
      rw [names]
      exact keys

/-- A reader also accepts a tree whose objects are ordered otherwise, and what it reads agrees. -/
def Tree.IgnoresOrder {α : Type} (reader : Tree → Reading α) (Agree : α → α → Prop) : Prop :=
  ∀ ⦃tree tree' : Tree⦄ ⦃a : α⦄, tree.Reordered tree' → tree.KeysOnce → reader tree = .ok a →
    ∃ a', reader tree' = .ok a' ∧ Agree a a'

namespace Tree

variable {α β : Type} {depth : Depth} {tree tree' : Tree}
  {members : List (Except Problem String × Tree)}
  {pairs : List ((Except Problem String × Tree) × (Except Problem String × Tree))}

private theorem ok_bind_iff {first next : Except Problem Unit} :
    (first >>= fun _ => next) = .ok () ↔ first = .ok () ∧ next = .ok () := by
  cases first with
  | error cause => exact iff_of_false nofun fun both => nomatch both.1
  | ok => exact (and_iff_right rfl).symm

theorem skipItems_eq_ok_iff {items : List Tree} :
    skipItems items = .ok () ↔ ∀ item ∈ items, item.skip = .ok () := by
  induction items with
  | nil => exact iff_of_true rfl (List.forall_mem_nil _)
  | cons item rest ih => rw [skipItems, ok_bind_iff, ih, List.forall_mem_cons]

theorem skipMembers_eq_ok_iff :
    skipMembers members = .ok () ↔ ∀ member ∈ members, member.2.skip = .ok () := by
  induction members with
  | nil => exact iff_of_true rfl (List.forall_mem_nil _)
  | cons member rest ih => rw [skipMembers, ok_bind_iff, ih, List.forall_mem_cons]

/-- What can be passed over can be passed over in another order. -/
theorem Reordered.skip (reordered : tree.Reordered tree') (passed : tree.skip = .ok ()) :
    tree'.skip = .ok () := by
  induction reordered with
  | null | bool | number | string => rfl
  | broken => cases passed
  | array _ ih =>
      rw [Tree.skip, ok_bind_iff, skipItems_eq_ok_iff, List.forall_mem_map] at passed ⊢
      exact ⟨fun pair mem => ih pair mem (passed.1 pair mem), passed.2⟩
  | object _ _ perm ih =>
      rw [Tree.skip, ok_bind_iff, skipMembers_eq_ok_iff, List.forall_mem_map] at passed
      rw [Tree.skip, ok_bind_iff, skipMembers_eq_ok_iff]
      refine ⟨fun member mem => ?_, passed.2⟩
      obtain ⟨pair, pair_mem, rfl⟩ := List.mem_map.1 (perm.mem_iff.2 mem)
      exact ih pair pair_mem (passed.1 pair pair_mem)

/-- Items are read one by one. -/
theorem readItems_eq_ok_iff {reader : Tree → Reading α} {items : List Tree} {values : List α} :
    readItems reader items = .ok values ↔
      List.Forall₂ (fun item value => reader item = .ok value) items values := by
  induction items generalizing values with
  | nil => exact ⟨fun read => by cases read; exact .nil, fun read => by cases read; rfl⟩
  | cons item rest ih =>
      constructor
      · intro read
        obtain ⟨value, readItem, read⟩ := ok_of_bind read
        obtain ⟨later, readRest, read⟩ := ok_of_bind read
        cases read
        exact .cons readItem (ih.1 readRest)
      · rintro (_ | ⟨readItem, readRest⟩)
        rw [readItems, readItem, ih.2 readRest]
        rfl

/-- A member is read into an entry: its key can be read, and its value is. -/
def ReadsEntry (reader : Tree → Reading α) (member : Except Problem String × Tree)
    (entry : String × α) : Prop :=
  member.1 = .ok entry.1 ∧ reader member.2 = .ok entry.2

/-- Entries are read one by one. -/
theorem readEntries_eq_ok_iff {reader : Tree → Reading α} {entries : List (String × α)} :
    readEntries reader members = .ok entries ↔
      List.Forall₂ (ReadsEntry reader) members entries := by
  induction members generalizing entries with
  | nil => exact ⟨fun read => by cases read; exact .nil, fun read => by cases read; rfl⟩
  | cons member rest ih =>
      constructor
      · intro read
        obtain ⟨name, readKey, read⟩ := ok_of_bind read
        obtain ⟨value, readItem, read⟩ := ok_of_bind read
        obtain ⟨later, readRest, read⟩ := ok_of_bind read
        cases read
        exact .cons ⟨readKey, readItem⟩ (ih.1 readRest)
      · rintro (_ | ⟨⟨readKey, readItem⟩, readRest⟩)
        rw [readEntries, readKey, readItem, ih.2 readRest]
        rfl

/-- If whatever is read on the left of a pair has a counterpart on the right, so has a list. -/
theorem exists_counterparts {Source : Type} {Reads : Source → α → Prop}
    {Agree : α → α → Prop} {pairs : List (Source × Source)} {values : List α}
    (each : ∀ pair ∈ pairs, ∀ a, Reads pair.1 a → ∃ a', Reads pair.2 a' ∧ Agree a a')
    (read : List.Forall₂ Reads (pairs.map Prod.fst) values) :
    ∃ values', List.Forall₂ Reads (pairs.map Prod.snd) values' ∧
      List.Forall₂ Agree values values' := by
  induction pairs generalizing values with
  | nil => cases read; exact ⟨[], .nil, .nil⟩
  | cons pair rest ih =>
      rcases read with _ | ⟨readHead, readRest⟩
      obtain ⟨a', readHead', agree⟩ := each pair List.mem_cons_self _ readHead
      obtain ⟨later, readRest', agreeRest⟩ :=
        ih (fun pair mem => each pair (List.mem_cons_of_mem _ mem)) readRest
      exact ⟨a' :: later, .cons readHead' readRest', .cons agree agreeRest⟩

/-- The same if the sources on the right are then listed in another order. -/
theorem exists_rearranged {Source : Type} {Reads : Source → α → Prop}
    {Agree : α → α → Prop} {pairs : List (Source × Source)} {sources : List Source}
    {values : List α}
    (each : ∀ pair ∈ pairs, ∀ a, Reads pair.1 a → ∃ a', Reads pair.2 a' ∧ Agree a a')
    (perm : (pairs.map Prod.snd).Perm sources)
    (read : List.Forall₂ Reads (pairs.map Prod.fst) values) :
    ∃ values', List.Forall₂ Reads sources values' ∧
      ∃ between, List.Forall₂ Agree values between ∧ between.Perm values' := by
  obtain ⟨between, readBetween, agree⟩ := exists_counterparts each read
  obtain ⟨values', readAll, same⟩ := List.perm_comp_forall₂ perm.symm readBetween
  exact ⟨values', readAll, between, agree, same.symm⟩

theorem map_fst_of_readsEntry {reader : Tree → Reading α} {entries : List (String × α)}
    (read : List.Forall₂ (ReadsEntry reader) members entries) :
    entries.map Prod.fst = readableKeys members := by
  induction read with
  | nil => rfl
  | cons reads _ ih =>
      rw [List.map_cons, ih, readableKeys, readableKeys, List.filterMap_cons, reads.1]
      rfl

/-- Entries that are read in another order are rearranged. -/
private theorem readEntries_reordered {reader : Tree → Reading α} {Agree : α → α → Prop}
    {entries : List (String × α)} (keys : ∀ pair ∈ pairs, pair.1.1 = pair.2.1)
    (each : ∀ pair ∈ pairs, ∀ a, reader pair.1.2 = .ok a →
      ∃ a', reader pair.2.2 = .ok a' ∧ Agree a a')
    (perm : (pairs.map Prod.snd).Perm members) (once : (readableKeys (pairs.map Prod.fst)).Nodup)
    (read : readEntries reader (pairs.map Prod.fst) = .ok entries) :
    ∃ entries', readEntries reader members = .ok entries' ∧
      Rearranged Prod.fst (fun l r => Agree l.2 r.2) entries entries' := by
  rw [readEntries_eq_ok_iff] at read
  have counterpart : ∀ pair ∈ pairs, ∀ entry, ReadsEntry reader pair.1 entry →
      ∃ entry', ReadsEntry reader pair.2 entry' ∧ entry.1 = entry'.1 ∧ Agree entry.2 entry'.2 := by
    intro pair mem entry ⟨readKey, readItem⟩
    obtain ⟨a', readItem', agree⟩ := each pair mem entry.2 readItem
    exact ⟨(entry.1, a'), ⟨(keys pair mem).symm.trans readKey, readItem'⟩, rfl, agree⟩
  obtain ⟨entries', readAll, matched⟩ := exists_rearranged counterpart perm read
  refine ⟨entries', readEntries_eq_ok_iff.2 readAll, ?_, matched⟩
  rw [map_fst_of_readsEntry read]
  exact once

/-- Members of dynamic values are entries. -/
theorem toPairs_eq_readEntries (depth : Depth) (members : List (Except Problem String × Tree)) :
    toPairs depth members = readEntries (toValue depth) members := by
  induction members with
  | nil => rfl
  | cons member rest ih => rw [toPairs, readEntries, ih]

theorem toValues_eq_readItems (depth : Depth) (items : List Tree) :
    toValues depth items = readItems (toValue depth) items := by
  induction items with
  | nil => rfl
  | cons item rest ih => rw [toValues, readItems, ih]

end Tree

/-- Objects of rearranged members say the same. -/
theorem Members.same_ofList_of_rearranged {settings others : Members}
    (rearranged : Rearranged Prod.fst (fun l r => Value.same l.2 r.2 = true) settings others) :
    Members.same (ofList settings) (ofList others) = true := by
  have once := rearranged.once
  have once' := rearranged.once_right
  rw [ofList_of_nodup once, ofList_of_nodup once', same_iff once once']
  intro key
  rw [get?_eq_lookupEntry, get?_eq_lookupEntry, optionsSame_iff_rel]
  exact rearranged.lookupEntry key

namespace Tree

variable {α β : Type} {depth : Depth}

/-- A dynamic value is read with the members of its objects in another order. -/
theorem toValue_ignoresOrder (depth : Depth) :
    IgnoresOrder (toValue depth) fun v v' => v.same v' = true := by
  intro tree tree' v reordered once read
  induction reordered generalizing depth v with
  | null => cases read; exact ⟨_, rfl, rfl⟩
  | bool value => cases read; exact ⟨_, rfl, beq_self_eq_true value⟩
  | number content =>
      obtain ⟨n, rfl, rfl⟩ := ok_of_map read
      exact ⟨_, rfl, n.same_refl⟩
  | string content =>
      obtain ⟨s, rfl, rfl⟩ := ok_of_map read
      exact ⟨_, rfl, beq_self_eq_true s⟩
  | broken => cases read
  | @array pairs ending _ ih =>
      cases depth with
      | zero => cases read
      | succ inner =>
          obtain ⟨values, readItems, read⟩ := ok_of_bind read
          obtain ⟨⟨⟩, closed, read⟩ := ok_of_bind read
          cases read
          cases once with
          | array once =>
              rw [List.forall_mem_map] at once
              rw [toValues_eq_readItems, readItems_eq_ok_iff] at readItems
              obtain ⟨values', readItems', agree⟩ := exists_counterparts
                (fun pair mem a => ih pair mem inner (once pair mem)) readItems
              refine ⟨.array values', ?_, Value.sameItems_iff_forall₂.2 agree⟩
              rw [toValue, toValues_eq_readItems, readItems_eq_ok_iff.2 readItems', closed]
              rfl
  | @object pairs members ending keys _ perm ih =>
      cases depth with
      | zero => cases read
      | succ inner =>
          obtain ⟨entries, readMembers, read⟩ := ok_of_bind read
          obtain ⟨⟨⟩, closed, read⟩ := ok_of_bind read
          cases read
          cases once with
          | object keysOnce once =>
              rw [List.forall_mem_map] at once
              rw [toPairs_eq_readEntries] at readMembers
              obtain ⟨entries', readMembers', rearranged⟩ := readEntries_reordered keys
                (fun pair mem a => ih pair mem inner (once pair mem)) perm keysOnce readMembers
              refine ⟨.object (Members.ofList entries'), ?_,
                Members.same_ofList_of_rearranged rearranged⟩
              rw [toValue, toPairs_eq_readEntries, readMembers', closed]
              rfl

theorem IgnoresOrder.map {reader : Tree → Reading α} {Agree : α → α → Prop}
    {AgreeAfter : β → β → Prop} {f : α → β} (ignores : IgnoresOrder reader Agree)
    (agree : ∀ a a', Agree a a' → AgreeAfter (f a) (f a')) :
    IgnoresOrder (fun tree => (reader tree).map f) AgreeAfter := by
  intro tree tree' b reordered once read
  obtain ⟨a, readTree, rfl⟩ := ok_of_map read
  obtain ⟨a', readTree', same⟩ := ignores reordered once readTree
  exact ⟨f a', congrArg (Except.map f) readTree', agree a a' same⟩

theorem toText_ignoresOrder : IgnoresOrder toText Eq := by
  intro tree tree' s reordered _ read
  cases reordered with
  | string => exact ⟨s, read, rfl⟩
  | _ => cases read

theorem toFlag_ignoresOrder : IgnoresOrder toFlag Eq := by
  intro tree tree' flag reordered _ read
  cases reordered with
  | bool => exact ⟨flag, read, rfl⟩
  | _ => cases read

theorem toOption_ignoresOrder {reader : Tree → Reading α} {Agree : α → α → Prop}
    (ignores : IgnoresOrder reader Agree) :
    IgnoresOrder (toOption reader) (Option.Rel Agree) := by
  have present : IgnoresOrder (fun tree => (reader tree).map some) (Option.Rel Agree) :=
    ignores.map fun _ _ => .some
  intro tree tree' a reordered once read
  cases reordered with
  | null => cases read; exact ⟨none, rfl, .none⟩
  | broken fragment =>
      cases fragment with
      | null => cases read
      | _ => exact present (.broken _ _ _) once read
  | bool => exact present (.bool _) once read
  | number => exact present (.number _) once read
  | string => exact present (.string _) once read
  | array items => exact present (.array items) once read
  | object keys values perm => exact present (.object keys values perm) once read

theorem toList_ignoresOrder {reader : Depth → Tree → Reading α} {Agree : α → α → Prop}
    (ignores : ∀ inner, IgnoresOrder (reader inner) Agree) (depth : Depth) :
    IgnoresOrder (toList depth reader) (List.Forall₂ Agree) := by
  intro tree tree' values reordered once read
  cases reordered with
  | @array pairs ending items =>
      obtain ⟨inner, rfl, read⟩ := of_enter read
      obtain ⟨found, readFound, read⟩ := ok_of_bind read
      obtain ⟨⟨⟩, closed, read⟩ := ok_of_bind read
      cases read
      cases once with
      | array once =>
          rw [List.forall_mem_map] at once
          rw [readItems_eq_ok_iff] at readFound
          obtain ⟨values', readItems', agree⟩ := exists_counterparts
            (fun pair mem a => ignores inner (items pair mem) (once pair mem)) readFound
          refine ⟨values', ?_, agree⟩
          rw [toList, enter, readItems_eq_ok_iff.2 readItems', closed]
          rfl
  | _ => cases read

theorem toEntries_ignoresOrder {reader : Depth → Tree → Reading α} {Agree : α → α → Prop}
    (ignores : ∀ inner, IgnoresOrder (reader inner) Agree) (depth : Depth) :
    IgnoresOrder (toEntries depth reader)
      (Rearranged Prod.fst fun l r => Agree l.2 r.2) := by
  intro tree tree' entries reordered once read
  cases reordered with
  | @object pairs members ending keys values perm =>
      obtain ⟨inner, rfl, read⟩ := of_enter read
      obtain ⟨found, readFound, read⟩ := ok_of_bind read
      obtain ⟨⟨⟩, closed, read⟩ := ok_of_bind read
      cases read
      cases once with
      | object keysOnce once =>
          rw [List.forall_mem_map] at once
          obtain ⟨entries', readEntries', rearranged⟩ := readEntries_reordered keys
            (fun pair mem a => ignores inner (values pair mem) (once pair mem)) perm keysOnce
            readFound
          refine ⟨entries', ?_, rearranged⟩
          rw [toEntries, enter, readEntries', closed]
          rfl
  | _ => cases read

/-- A name that is written as an object has one member, which is null. -/
private theorem eq_singleton_of_toVariant {variants : List (String × α)} {a : α}
    {members : List (Except Problem String × Tree)} {ending : Ending}
    (read : (Tree.object members ending).toVariant depth variants = .ok a) :
    ∃ key, members = [(key, .null)] := by
  obtain ⟨inner, rfl, read⟩ := of_enter read
  match members, read with
  | [], read =>
      obtain ⟨-, -, read⟩ := ok_of_bind read
      cases read
  | (key, value) :: rest, read =>
      obtain ⟨variant, -, read⟩ := ok_of_bind read
      cases value with
      | null =>
          cases rest with
          | nil => exact ⟨key, rfl⟩
          | cons => cases read
      | _ => cases read

theorem toVariant_ignoresOrder (depth : Depth) (variants : List (String × α)) :
    IgnoresOrder (toVariant depth variants) Eq := by
  intro tree tree' a reordered _ read
  suffices same : tree' = tree from ⟨a, same ▸ read, rfl⟩
  cases reordered with
  | string => rfl
  | @object pairs members ending keys values perm =>
      obtain ⟨key, one⟩ := eq_singleton_of_toVariant read
      obtain ⟨⟨_, key', value'⟩, rfl, same⟩ := List.map_eq_singleton_iff.1 one
      cases same
      have same_key := keys _ List.mem_cons_self
      have same_value := values _ List.mem_cons_self
      rw [List.map_singleton] at perm
      rw [← List.singleton_perm.1 perm]
      cases same_key
      cases same_value
      rfl
  | bool => rfl
  | number => rfl
  | null => rfl
  | broken => rfl
  | array => cases read

end Tree

/-- The members of an object of dynamic values say the same in another order. -/
theorem Members.ofTree_ignoresOrder (depth : Depth) :
    Tree.IgnoresOrder (Members.ofTree depth) fun a b => Members.same a b = true :=
  (Tree.toEntries_ignoresOrder Tree.toValue_ignoresOrder depth).map fun _ _ =>
    Members.same_ofList_of_rearranged

end StackDeploy.Json
