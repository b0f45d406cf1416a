/-
# What reading guarantees

The members of an object are a list, and nothing in the list keeps a key from standing there
twice. Setting a key does: an object that is made by settings holds every key once, at every depth.
This module states that property for dynamic values, together with the number of containers that
are nested in each other, and shows that reading a document gives only such values. Nothing is
claimed about values that are put together by hand.
-/

import StackDeploy.Json.Reader

namespace StackDeploy

/-- A sequence of two steps succeeds only if both do. -/
theorem ok_of_bind {ε α β : Type} {first : Except ε α} {next : α → Except ε β} {result : β}
    (h : (first >>= next) = .ok result) : ∃ value, first = .ok value ∧ next value = .ok result := by
  cases first with
  | error cause => cases h
  | ok value => exact ⟨value, rfl, h⟩

/-- A sequence of two steps succeeds only if both do. -/
theorem ok_of_exceptBind {ε α β : Type} {first : Except ε α} {next : α → Except ε β} {result : β}
    (h : first.bind next = .ok result) : ∃ value, first = .ok value ∧ next value = .ok result :=
  ok_of_bind h

theorem ok_of_map {ε α β : Type} {first : Except ε α} {f : α → β} {result : β}
    (h : first.map f = .ok result) : ∃ value, first = .ok value ∧ f value = result := by
  cases first with
  | error cause => cases h
  | ok value => exact ⟨value, rfl, Except.ok.inj h⟩

namespace Json

/-- A value in which no object, at any depth, holds a key twice. -/
inductive Value.Distinct : Value → Prop
  | null : Distinct .null
  | bool (value : Bool) : Distinct (.bool value)
  | number (value : Number) : Distinct (.number value)
  | string (value : String) : Distinct (.string value)
  | array {items : List Value} : (∀ item ∈ items, Distinct item) → Distinct (.array items)
  | object {members : Members} : (members.map Prod.fst).Nodup →
      (∀ entry ∈ members, Distinct entry.2) → Distinct (.object members)

/-- A value that nests no more containers in each other than a depth allows. -/
inductive Value.NestedWithin : Depth → Value → Prop
  | null {depth : Depth} : NestedWithin depth .null
  | bool {depth : Depth} (value : Bool) : NestedWithin depth (.bool value)
  | number {depth : Depth} (value : Number) : NestedWithin depth (.number value)
  | string {depth : Depth} (value : String) : NestedWithin depth (.string value)
  | array {depth : Depth} {items : List Value} :
      (∀ item ∈ items, NestedWithin depth item) → NestedWithin (depth + 1) (.array items)
  | object {depth : Depth} {members : Members} :
      (∀ entry ∈ members, NestedWithin depth entry.2) → NestedWithin (depth + 1) (.object members)

theorem Value.distinct_object_iff {members : Members} :
    (Value.object members).Distinct ↔
      (members.map Prod.fst).Nodup ∧ ∀ entry ∈ members, entry.2.Distinct := by
  constructor
  · rintro ⟨⟩
    exact ⟨‹_›, ‹_›⟩
  · exact fun distinct => .object distinct.1 distinct.2

namespace Value

mutual

/-- Whether every object of a value holds every key once is found by looking through the value. -/
def decDistinct : (v : Value) → Decidable v.Distinct
  | .null => isTrue .null
  | .bool value => isTrue (.bool value)
  | .number value => isTrue (.number value)
  | .string value => isTrue (.string value)
  | .array items =>
    match decDistinctItems items with
    | isTrue distinct => isTrue (.array distinct)
    | isFalse repeated => isFalse fun | .array distinct => repeated distinct
  | .object members =>
    match decDistinctMembers members with
    | isTrue distinct =>
      if keys : (members.map Prod.fst).Nodup then isTrue (.object keys distinct)
      else isFalse fun | .object once _ => keys once
    | isFalse repeated => isFalse fun | .object _ distinct => repeated distinct

/-- The same for the items of an array. -/
def decDistinctItems : (items : List Value) → Decidable (∀ item ∈ items, item.Distinct)
  | [] => isTrue (List.forall_mem_nil _)
  | item :: rest =>
    match decDistinct item, decDistinctItems rest with
    | isTrue first, isTrue later => isTrue (List.forall_mem_cons.2 ⟨first, later⟩)
    | isFalse first, _ => isFalse fun all => first (List.forall_mem_cons.1 all).1
    | _, isFalse later => isFalse fun all => later (List.forall_mem_cons.1 all).2

/-- The same for the members of an object. -/
def decDistinctMembers :
    (members : List (String × Value)) → Decidable (∀ entry ∈ members, entry.2.Distinct)
  | [] => isTrue (List.forall_mem_nil _)
  | (_, value) :: rest =>
    match decDistinct value, decDistinctMembers rest with
    | isTrue first, isTrue later => isTrue (List.forall_mem_cons.2 ⟨first, later⟩)
    | isFalse first, _ => isFalse fun all => first (List.forall_mem_cons.1 all).1
    | _, isFalse later => isFalse fun all => later (List.forall_mem_cons.1 all).2

end

instance (v : Value) : Decidable v.Distinct := decDistinct v

end Value

namespace Members

variable {key : String} {value : Value} {members settings : Members}

theorem mem_put {entry : String × Value} (mem : entry ∈ put key value members) :
    entry = (key, value) ∨ entry ∈ members := by
  induction members with
  | nil => exact Or.inl (List.mem_singleton.1 mem)
  | cons first rest ih =>
      obtain ⟨other, kept⟩ := first
      by_cases same : other = key
      · subst same
        rw [put, if_pos rfl] at mem
        rcases List.mem_cons.1 mem with here | later
        · exact Or.inl here
        · exact Or.inr (List.mem_cons_of_mem _ later)
      · rw [put, if_neg same] at mem
        rcases List.mem_cons.1 mem with here | later
        · exact Or.inr (here ▸ List.mem_cons_self)
        · exact (ih later).imp id (List.mem_cons_of_mem _)

theorem nodup_keys_put (distinct : (members.map Prod.fst).Nodup) :
    ((put key value members).map Prod.fst).Nodup := by
  induction members with
  | nil => simp [put]
  | cons first rest ih =>
      obtain ⟨other, kept⟩ := first
      rw [List.map_cons, List.nodup_cons] at distinct
      by_cases same : other = key
      · rw [put, if_pos same]
        exact List.nodup_cons.2 distinct
      · rw [put, if_neg same, List.map_cons, List.nodup_cons]
        refine ⟨fun mem => ?_, ih distinct.2⟩
        obtain ⟨entry, entry_mem, entry_key⟩ := List.mem_map.1 mem
        rcases mem_put entry_mem with rfl | old
        · exact same entry_key.symm
        · exact distinct.1 (List.mem_map.2 ⟨entry, old, entry_key⟩)

/-- Setting a new key adds its member at the end. -/
theorem put_of_not_mem (absent : key ∉ members.map Prod.fst) :
    put key value members = members ++ [(key, value)] := by
  induction members with
  | nil => rfl
  | cons first rest ih =>
      obtain ⟨other, kept⟩ := first
      rw [List.map_cons, List.mem_cons, not_or] at absent
      rw [put, if_neg (Ne.symm absent.1), ih absent.2]
      rfl

/-- The settings of an object that are made over some members keep the keys distinct, and every
member comes from one of the two lists. -/
private theorem foldl_put (distinct : (members.map Prod.fst).Nodup) :
    ((settings.foldl (fun kept setting => put setting.1 setting.2 kept) members).map
        Prod.fst).Nodup ∧
      ∀ entry ∈ settings.foldl (fun kept setting => put setting.1 setting.2 kept) members,
        entry ∈ members ∨ entry ∈ settings := by
  induction settings generalizing members with
  | nil => exact ⟨distinct, fun entry mem => Or.inl mem⟩
  | cons setting rest ih =>
      have distinct_put : ((put setting.1 setting.2 members).map Prod.fst).Nodup :=
        nodup_keys_put distinct
      obtain ⟨nodup, origin⟩ := ih distinct_put
      refine ⟨nodup, fun entry mem => ?_⟩
      rcases origin entry mem with kept | later
      · rcases mem_put kept with rfl | old
        · exact Or.inr List.mem_cons_self
        · exact Or.inl old
      · exact Or.inr (List.mem_cons_of_mem _ later)

private theorem nodup_keys_nil : (([] : Members).map Prod.fst).Nodup :=
  List.nodup_nil

theorem nodup_keys_ofList (settings : Members) : ((ofList settings).map Prod.fst).Nodup :=
  (foldl_put nodup_keys_nil).1

theorem mem_of_mem_ofList {entry : String × Value} (mem : entry ∈ ofList settings) :
    entry ∈ settings :=
  ((foldl_put nodup_keys_nil).2 entry mem).resolve_left List.not_mem_nil

private theorem foldl_put_of_nodup (distinct : ((members ++ settings).map Prod.fst).Nodup) :
    settings.foldl (fun kept setting => put setting.1 setting.2 kept) members =
      members ++ settings := by
  induction settings generalizing members with
  | nil => rw [List.append_nil, List.foldl_nil]
  | cons setting rest ih =>
      have absent : setting.1 ∉ members.map Prod.fst := by
        rw [List.map_append, List.map_cons] at distinct
        intro mem
        exact (List.nodup_append.1 distinct).2.2 _ mem _ List.mem_cons_self rfl
      rw [List.foldl_cons, put_of_not_mem absent, ih (by simpa using distinct)]
      simp

/-- Settings that name every key once give the object of just these members, in their order. -/
theorem ofList_of_nodup (distinct : (settings.map Prod.fst).Nodup) : ofList settings = settings :=
  foldl_put_of_nodup distinct

end Members

namespace Tree

/-- What reading guarantees of a value. -/
def Sound (depth : Depth) (value : Value) : Prop :=
  value.Distinct ∧ value.NestedWithin depth

/-- The object of settings with sound values is sound one level further out. -/
theorem sound_object {depth : Depth} {settings : Members}
    (sound : ∀ entry ∈ settings, Sound depth entry.2) :
    Sound (depth + 1) (.object (Members.ofList settings)) := by
  have values : ∀ entry ∈ Members.ofList settings, Sound depth entry.2 :=
    fun entry mem => sound entry (Members.mem_of_mem_ofList mem)
  exact ⟨.object (Members.nodup_keys_ofList settings) fun entry mem => (values entry mem).1,
    .object fun entry mem => (values entry mem).2⟩

theorem sound_array {depth : Depth} {items : List Value}
    (sound : ∀ item ∈ items, Sound depth item) : Sound (depth + 1) (.array items) :=
  ⟨.array fun item mem => (sound item mem).1, .array fun item mem => (sound item mem).2⟩

mutual

/-- Reading gives a value whose objects hold every key once and whose nesting is bounded. -/
theorem sound_toValue : ∀ {tree : Tree} {depth : Depth} {value : Value},
    tree.toValue depth = .ok value → Sound depth value
  | .null, depth, value, read => by
      cases read
      exact ⟨.null, .null⟩
  | .bool flag, depth, value, read => by
      cases read
      exact ⟨.bool _, .bool _⟩
  | .number content, depth, value, read => by
      obtain ⟨n, -, rfl⟩ := ok_of_map read
      exact ⟨.number _, .number _⟩
  | .string content, depth, value, read => by
      obtain ⟨s, -, rfl⟩ := ok_of_map read
      exact ⟨.string _, .string _⟩
  | .array items ending, 0, value, read => by cases read
  | .array items ending, inner + 1, value, read => by
      obtain ⟨values, readItems, read⟩ := ok_of_bind read
      obtain ⟨-, -, read⟩ := ok_of_bind read
      cases read
      exact sound_array (sound_toValues readItems)
  | .object members ending, 0, value, read => by cases read
  | .object members ending, inner + 1, value, read => by
      obtain ⟨pairs, readMembers, read⟩ := ok_of_bind read
      obtain ⟨-, -, read⟩ := ok_of_bind read
      cases read
      exact sound_object (sound_toPairs readMembers)
  | .broken _ _ _, depth, value, read => by cases read

theorem sound_toValues : ∀ {items : List Tree} {depth : Depth} {values : List Value},
    toValues depth items = .ok values → ∀ value ∈ values, Sound depth value
  | [], depth, values, read => by
      cases read
      exact List.forall_mem_nil _
  | item :: rest, depth, values, read => by
      obtain ⟨value, readItem, read⟩ := ok_of_bind read
      obtain ⟨later, readRest, read⟩ := ok_of_bind read
      cases read
      exact List.forall_mem_cons.2 ⟨sound_toValue readItem, sound_toValues readRest⟩

theorem sound_toPairs : ∀ {members : List (Except Problem String × Tree)} {depth : Depth}
    {pairs : List (String × Value)},
    toPairs depth members = .ok pairs → ∀ entry ∈ pairs, Sound depth entry.2
  | [], depth, pairs, read => by
      cases read
      exact List.forall_mem_nil _
  | (key, item) :: rest, depth, pairs, read => by
      obtain ⟨name, -, read⟩ := ok_of_bind read
      obtain ⟨value, readItem, read⟩ := ok_of_bind read
      obtain ⟨later, readRest, read⟩ := ok_of_bind read
      cases read
      exact List.forall_mem_cons.2 ⟨sound_toValue readItem, sound_toPairs readRest⟩

end

variable {α : Type} {depth : Depth} {tree : Tree}

/-- Only null is read as null, and a number only from that number. -/
theorem leaf_of_toValue {value : Value} (read : tree.toValue depth = .ok value) :
    (value = .null → tree = .null) ∧ ∀ n, value = .number n → tree = .number (.ok n) := by
  cases tree with
  | null => cases read; exact ⟨fun _ => rfl, by rintro _ ⟨⟩⟩
  | bool flag => cases read; exact ⟨by rintro ⟨⟩, by rintro _ ⟨⟩⟩
  | number content =>
      obtain ⟨n, rfl, rfl⟩ := ok_of_map read
      exact ⟨by rintro ⟨⟩, by rintro _ ⟨⟩; rfl⟩
  | string content =>
      obtain ⟨s, -, rfl⟩ := ok_of_map read
      exact ⟨by rintro ⟨⟩, by rintro _ ⟨⟩⟩
  | array items ending =>
      cases depth with
      | zero => cases read
      | succ inner =>
          obtain ⟨values, -, read⟩ := ok_of_bind read
          obtain ⟨-, -, read⟩ := ok_of_bind read
          cases read
          exact ⟨by rintro ⟨⟩, by rintro _ ⟨⟩⟩
  | object members ending =>
      cases depth with
      | zero => cases read
      | succ inner =>
          obtain ⟨pairs, -, read⟩ := ok_of_bind read
          obtain ⟨-, -, read⟩ := ok_of_bind read
          cases read
          exact ⟨by rintro ⟨⟩, by rintro _ ⟨⟩⟩
  | broken _ _ _ => cases read

/-- A value that may be absent is present only if it was read from something other than null. -/
theorem of_toOption {reader : Tree → Reading α} {value : α}
    (read : tree.toOption reader = .ok (some value)) :
    tree ≠ .null ∧ reader tree = .ok value := by
  unfold toOption at read
  split at read
  · cases read
  · cases read
  · rename_i notNull _
    obtain ⟨found, readTree, same⟩ := ok_of_map read
    cases same
    exact ⟨notNull, readTree⟩

theorem of_enter {inside : Depth → Reading α} {result : α}
    (read : enter depth inside = .ok result) :
    ∃ inner, depth = inner + 1 ∧ inside inner = .ok result := by
  cases depth with
  | zero => cases read
  | succ inner => exact ⟨inner, rfl, read⟩

theorem of_mem_readItems {reader : Tree → Reading α} :
    ∀ {items : List Tree} {values : List α}, readItems reader items = .ok values →
      ∀ value ∈ values, ∃ item, reader item = .ok value
  | [], values, read => by
      cases read
      exact List.forall_mem_nil _
  | item :: rest, values, read => by
      obtain ⟨value, readItem, read⟩ := ok_of_bind read
      obtain ⟨later, readRest, read⟩ := ok_of_bind read
      cases read
      exact List.forall_mem_cons.2 ⟨⟨item, readItem⟩, of_mem_readItems readRest⟩

theorem of_mem_readEntries {reader : Tree → Reading α} :
    ∀ {members : List (Except Problem String × Tree)} {entries : List (String × α)},
      readEntries reader members = .ok entries →
        ∀ entry ∈ entries, ∃ item, reader item = .ok entry.2
  | [], entries, read => by
      cases read
      exact List.forall_mem_nil _
  | (key, item) :: rest, entries, read => by
      obtain ⟨name, -, read⟩ := ok_of_bind read
      obtain ⟨value, readItem, read⟩ := ok_of_bind read
      obtain ⟨later, readRest, read⟩ := ok_of_bind read
      cases read
      exact List.forall_mem_cons.2 ⟨⟨item, readItem⟩, of_mem_readEntries readRest⟩

/-- Every item of a list that is read comes from one level further in. -/
theorem of_mem_toList {reader : Depth → Tree → Reading α} {values : List α}
    (read : tree.toList depth reader = .ok values) :
    ∃ inner, depth = inner + 1 ∧ ∀ value ∈ values, ∃ item, reader inner item = .ok value := by
  unfold toList at read
  split at read
  · obtain ⟨inner, rfl, read⟩ := of_enter read
    obtain ⟨found, readFound, read⟩ := ok_of_bind read
    obtain ⟨-, -, read⟩ := ok_of_bind read
    cases read
    exact ⟨inner, rfl, of_mem_readItems readFound⟩
  · cases read

/-- Every entry of an object that is read comes from one level further in. -/
theorem of_mem_toEntries {reader : Depth → Tree → Reading α} {entries : List (String × α)}
    (read : tree.toEntries depth reader = .ok entries) :
    ∃ inner, depth = inner + 1 ∧ ∀ entry ∈ entries, ∃ item, reader inner item = .ok entry.2 := by
  unfold toEntries at read
  split at read
  · obtain ⟨inner, rfl, read⟩ := of_enter read
    obtain ⟨found, readFound, read⟩ := ok_of_bind read
    obtain ⟨-, -, read⟩ := ok_of_bind read
    cases read
    exact ⟨inner, rfl, of_mem_readEntries readFound⟩
  · cases read

end Tree

/-- A document that is read is whole, and its reader accepts its tree. -/
theorem Document.of_read {α : Type} {reader : Tree → Reading α} {document : Document} {value : α}
    (read : document.read reader = .ok value) :
    document.trailing = false ∧ reader document.root = .ok value := by
  obtain ⟨found, readTree, whole⟩ := ok_of_bind read
  split at whole
  · cases whole
  · next complete =>
      cases whole
      exact ⟨Bool.not_eq_true _ ▸ complete, readTree⟩

theorem Members.sound_ofTree {depth : Depth} {tree : Tree} {members : Members}
    (read : Members.ofTree depth tree = .ok members) : Tree.Sound depth (.object members) := by
  obtain ⟨entries, readEntries, rfl⟩ := ok_of_map read
  obtain ⟨inner, rfl, origin⟩ := Tree.of_mem_toEntries readEntries
  refine Tree.sound_object fun entry mem => ?_
  obtain ⟨item, readItem⟩ := origin entry mem
  exact Tree.sound_toValue readItem

namespace FieldReader

variable {Part : Type}

private theorem of_mem_readMembers {fields : List (FieldReader Part)} :
    ∀ {members : List (Except Problem String × Tree)} {seen : List String} {parts : List Part},
      readMembers fields seen members = .ok parts →
        ∀ part ∈ parts, ∃ field ∈ fields, ∃ item, field.read item = .ok part
  | [], seen, parts, read => by
      cases read
      exact List.forall_mem_nil _
  | (key, item) :: rest, seen, parts, read => by
      obtain ⟨name, -, read⟩ := ok_of_bind read
      split at read
      · obtain ⟨-, -, read⟩ := ok_of_bind read
        exact of_mem_readMembers read
      · rename_i field found
        split at read
        · cases read
        · obtain ⟨part, readItem, read⟩ := ok_of_bind read
          obtain ⟨later, readRest, read⟩ := ok_of_bind read
          cases read
          exact List.forall_mem_cons.2 ⟨⟨field, List.mem_of_find?_eq_some found, item, readItem⟩,
            of_mem_readMembers readRest⟩

private theorem of_mem_readItems {record : String} {count : Nat} {ending : Ending} :
    ∀ {fields : List (FieldReader Part)} {items : List Tree} {position : Nat}
      {parts : List Part}, readItems record count position ending fields items = .ok parts →
        ∀ part ∈ parts, ∃ field ∈ fields, ∃ item, field.read item = .ok part
  | [], [], position, parts, read => by
      obtain ⟨-, -, read⟩ := ok_of_bind read
      cases read
      exact List.forall_mem_nil _
  | [], _ :: _, position, parts, read => by cases read
  | field :: fields, item :: items, position, parts, read => by
      obtain ⟨part, readItem, read⟩ := ok_of_bind read
      obtain ⟨later, readRest, read⟩ := ok_of_bind read
      cases read
      refine List.forall_mem_cons.2 ⟨⟨field, List.mem_cons_self, item, readItem⟩, ?_⟩
      intro part mem
      obtain ⟨field, field_mem, origin⟩ := of_mem_readItems readRest part mem
      exact ⟨field, List.mem_cons_of_mem _ field_mem, origin⟩
  | field :: fields, [], position, parts, read => by
      obtain ⟨-, -, read⟩ := ok_of_bind read
      split at read
      · cases read
        exact List.forall_mem_nil _
      · cases read

/-- Every part of a record that is read, in either form, comes from one of the record's fields. -/
theorem of_mem_readRecord {record : String} {depth : Depth}
    {fields : Depth → List (FieldReader Part)} {tree : Tree} {parts : List Part}
    (read : readRecord record depth fields tree = .ok parts) :
    ∃ inner, depth = inner + 1 ∧
      ∀ part ∈ parts, ∃ field ∈ fields inner, ∃ item, field.read item = .ok part := by
  unfold readRecord at read
  split at read
  · obtain ⟨inner, rfl, read⟩ := Tree.of_enter read
    obtain ⟨found, readFound, read⟩ := ok_of_bind read
    obtain ⟨-, -, read⟩ := ok_of_bind read
    cases read
    exact ⟨inner, rfl, of_mem_readMembers readFound⟩
  · obtain ⟨inner, rfl, read⟩ := Tree.of_enter read
    exact ⟨inner, rfl, of_mem_readItems read⟩
  · cases read

theorem eq_some_of_require {α : Type} {name : String} {found : Option α} {part : α}
    (read : require name found = .ok part) : found = some part := by
  cases found with
  | none => cases read
  | some value => cases read; rfl

end FieldReader

end Json

end StackDeploy
