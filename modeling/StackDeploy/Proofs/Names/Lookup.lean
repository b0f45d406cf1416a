/-
# Look-ups in lists of entries

A section of a template and an object are both lists of named entries that hold every name once.
Two such lists are compared from one side only: they have the same length, and every entry of the
first has a counterpart in the second. This module shows that the one-sided comparison is
symmetric in what it says, because distinct names can be counted: it holds exactly when every
name is absent on both sides or present on both with values that are the same. Names that are listed
in order are a set as they are, and entries that are listed in order a section.
-/

import Mathlib.Data.List.Induction
import Mathlib.Data.List.Nodup
import Mathlib.Data.List.Perm.Subperm
import StackDeploy.Diff.Equality

namespace StackDeploy

open Json (Value Members)

theorem eraseDups_concat (names : List String) (name : String) :
    (names ++ [name]).eraseDups =
      if name ∈ names then names.eraseDups else names.eraseDups ++ [name] := by
  rw [List.eraseDups_append]
  by_cases known : name ∈ names
  · simp [List.removeAll, known]
  · simp [List.removeAll, List.eraseDups_cons, known]

theorem nodup_eraseDups (names : List String) : names.eraseDups.Nodup := by
  induction names using List.reverseRecOn with
  | nil => exact List.nodup_nil
  | append_singleton names name ih =>
      rw [eraseDups_concat]
      split
      · exact ih
      next new =>
        rw [List.nodup_append]
        refine ⟨ih, List.pairwise_singleton _ _, fun other mem last same => ?_⟩
        intro again
        rw [again, List.mem_singleton.1 same] at mem
        exact new (List.mem_eraseDups.1 mem)

/-- The values of a name after one more item: its own value comes last, if it has the name. -/
theorem map_filter_concat {α β : Type} (key : α → String) (f : α → β) (name : String)
    (items : List α) (item : α) :
    ((items ++ [item]).filter fun item => key item == name).map f =
      if key item = name then (items.filter fun item => key item == name).map f ++ [f item]
      else (items.filter fun item => key item == name).map f := by
  rw [List.filter_append, List.map_append, List.filter_singleton]
  by_cases same : key item = name
  · rw [if_pos same, beq_iff_eq.2 same]
    rfl
  · rw [if_neg same, beq_eq_false_iff_ne.2 same]
    exact List.append_nil _

namespace NameSet

private theorem insertName_of_lt {name : String} {names : List String}
    (last : ∀ other ∈ names, other < name) : insertName name names = names ++ [name] := by
  induction names with
  | nil => rfl
  | cons first rest ih =>
      have before := last first List.mem_cons_self
      rw [insertName, if_neg (String.lt_asymm before), if_neg fun same => ?_, ih fun other mem =>
        last other (List.mem_cons_of_mem _ mem)]
      · rfl
      · rw [same] at before
        exact String.lt_irrefl _ before

/-- Names that are listed in order are the set of these names. -/
theorem names_ofList_of_sorted {names : List String} (sorted : names.Pairwise (· < ·)) :
    (ofList names).names = names := by
  suffices extends_ : ∀ (s : NameSet), (s.names ++ names).Pairwise (· < ·) →
      (names.foldl (fun t name => t.insert name) s).names = s.names ++ names from
    extends_ empty sorted
  clear sorted
  induction names with
  | nil => exact fun s _ => (List.append_nil _).symm
  | cons name rest ih =>
      intro s sorted
      have inserted : (s.insert name).names = s.names ++ [name] :=
        insertName_of_lt fun other mem =>
          (List.pairwise_append.1 sorted).2.2 other mem name List.mem_cons_self
      rw [List.foldl_cons, ih, inserted, List.append_assoc]
      · rfl
      · rw [inserted, List.append_assoc]
        exact sorted

theorem ofList_names (s : NameSet) : ofList s.names = s := by
  cases made : ofList s.names with
  | mk names sorted =>
      have same := names_ofList_of_sorted s.sorted
      rw [made] at same
      cases s
      cases same
      rfl

end NameSet

namespace NameMap

variable {α β : Type} {name : String} {value : α} {entries left right : List (String × α)}

theorem mem_of_lookupEntry (found : lookupEntry name entries = some value) :
    (name, value) ∈ entries := by
  induction entries with
  | nil => simp [lookupEntry] at found
  | cons first rest ih =>
      obtain ⟨key, kept⟩ := first
      by_cases same : key = name
      · subst same
        rw [lookupEntry, if_pos rfl] at found
        cases found
        exact List.mem_cons_self
      · rw [lookupEntry, if_neg same] at found
        exact List.mem_cons_of_mem _ (ih found)

theorem lookupEntry_eq_none_iff :
    lookupEntry name entries = none ↔ name ∉ entries.map Prod.fst := by
  induction entries with
  | nil => simp [lookupEntry]
  | cons first rest ih =>
      obtain ⟨key, kept⟩ := first
      by_cases same : key = name
      · simp [lookupEntry, same]
      · rw [lookupEntry, if_neg same, ih]
        simp [Ne.symm same]

/-- Where every name stands once, the entry of a name is what its look-up answers. -/
theorem lookupEntry_of_mem (distinct : (entries.map Prod.fst).Nodup)
    (mem : (name, value) ∈ entries) : lookupEntry name entries = some value := by
  induction entries with
  | nil => cases mem
  | cons first rest ih =>
      obtain ⟨key, kept⟩ := first
      rw [List.map_cons, List.nodup_cons] at distinct
      rcases List.mem_cons.1 mem with here | later
      · cases here
        rw [lookupEntry, if_pos rfl]
      · have other : key ≠ name := by
          rintro rfl
          exact distinct.1 (List.mem_map.2 ⟨_, later, rfl⟩)
        rw [lookupEntry, if_neg other]
        exact ih distinct.2 later

theorem lookupEntry_eq_some_iff (distinct : (entries.map Prod.fst).Nodup) :
    lookupEntry name entries = some value ↔ (name, value) ∈ entries :=
  ⟨mem_of_lookupEntry, lookupEntry_of_mem distinct⟩

/-- Entries that answer every look-up alike are the same up to order. -/
theorem perm_of_lookupEntry (hleft : (left.map Prod.fst).Nodup)
    (hright : (right.map Prod.fst).Nodup)
    (agree : ∀ name, lookupEntry name left = lookupEntry name right) : left.Perm right := by
  refine (List.perm_ext_iff_of_nodup (List.Nodup.of_map _ hleft) (List.Nodup.of_map _ hright)).2 ?_
  intro entry
  rw [← lookupEntry_eq_some_iff hleft, agree, lookupEntry_eq_some_iff hright]

theorem lookupEntry_append :
    lookupEntry name (left ++ right) = (lookupEntry name left).or (lookupEntry name right) := by
  induction left with
  | nil => rfl
  | cons first rest ih =>
      rw [List.cons_append, lookupEntry, lookupEntry, ih]
      split <;> rfl

/-- The value that the last entry for a name gives it. -/
def latest (name : String) (entries : List (String × α)) : Option α :=
  lookupEntry name entries.reverse

theorem latest_append :
    latest name (left ++ right) = (latest name right).or (latest name left) := by
  rw [latest, List.reverse_append, lookupEntry_append]
  rfl

theorem mem_of_latest (found : latest name entries = some value) : (name, value) ∈ entries :=
  List.mem_reverse.1 (mem_of_lookupEntry found)

theorem insertAll_append (m : NameMap α) :
    m.insertAll (left ++ right) = (m.insertAll left).insertAll right :=
  List.foldl_append

/-- Where entries are set one after the other the last one for a name stays. -/
theorem get?_insertAll (m : NameMap α) :
    (m.insertAll entries).get? name = (latest name entries).or (m.get? name) := by
  induction entries generalizing m with
  | nil => rfl
  | cons entry rest ih =>
      have step : m.insertAll (entry :: rest) = (m.insert entry.1 entry.2).insertAll rest := rfl
      rw [step, ih, get?_insert, ← List.singleton_append, latest_append, Option.or_assoc]
      by_cases here : entry.1 = name <;> simp [latest, lookupEntry, here]

/-- The one-sided comparison: equal length, and a counterpart on the right for every entry on the
left. -/
def Included (same : α → α → Bool) (left right : List (String × α)) : Prop :=
  left.length = right.length ∧
    ∀ entry ∈ left, ∃ other, lookupEntry entry.1 right = some other ∧ same entry.2 other = true

/-- The names on the left are among those on the right and as many, so they are all of them. -/
private theorem perm_keys_of_included {same : α → α → Bool}
    (distinct : (left.map Prod.fst).Nodup) (included : Included same left right) :
    (left.map Prod.fst).Perm (right.map Prod.fst) := by
  obtain ⟨length_eq, counterpart⟩ := included
  have subset : left.map Prod.fst ⊆ right.map Prod.fst := by
    intro name mem
    obtain ⟨entry, entry_mem, rfl⟩ := List.mem_map.1 mem
    obtain ⟨other, found, -⟩ := counterpart entry entry_mem
    exact List.mem_map.2 ⟨_, mem_of_lookupEntry found, rfl⟩
  have lengths : (right.map Prod.fst).length ≤ (left.map Prod.fst).length := by
    rw [List.length_map, List.length_map]
    exact Nat.le_of_eq length_eq.symm
  exact (distinct.subperm subset).perm_of_length_le lengths

/-- The one-sided comparison speaks about every name and about both sides. -/
theorem included_iff {same : α → α → Bool} (hleft : (left.map Prod.fst).Nodup)
    (hright : (right.map Prod.fst).Nodup) :
    Included same left right ↔
      ∀ name, optionsSame same (lookupEntry name left) (lookupEntry name right) = true := by
  constructor
  · intro included name
    have keys := perm_keys_of_included hleft included
    cases atLeft : lookupEntry name left with
    | some value =>
        obtain ⟨other, found, agree⟩ := included.2 _ (mem_of_lookupEntry atLeft)
        rw [found]
        exact agree
    | none =>
        have absent : lookupEntry name right = none := by
          rw [lookupEntry_eq_none_iff] at atLeft ⊢
          exact fun mem => atLeft (keys.mem_iff.2 mem)
        rw [absent]
        rfl
  · intro agree
    have counterpart : ∀ entry ∈ left,
        ∃ other, lookupEntry entry.1 right = some other ∧ same entry.2 other = true := by
      intro entry mem
      have atName := agree entry.1
      rw [lookupEntry_of_mem hleft mem] at atName
      cases found : lookupEntry entry.1 right with
      | none => rw [found] at atName; cases atName
      | some other => rw [found] at atName; exact ⟨other, rfl, atName⟩
    have keys : (left.map Prod.fst).Perm (right.map Prod.fst) := by
      refine (List.perm_ext_iff_of_nodup hleft hright).2 fun name => ?_
      have atName := agree name
      rw [← not_iff_not, ← lookupEntry_eq_none_iff, ← lookupEntry_eq_none_iff]
      cases atLeft : lookupEntry name left <;> cases atRight : lookupEntry name right <;>
        simp_all [optionsSame]
    refine ⟨?_, counterpart⟩
    rw [← List.length_map Prod.fst, keys.length_eq, List.length_map]

private theorem insertEntry_of_lt (last : ∀ other ∈ entries.map Prod.fst, other < name) :
    insertEntry name value entries = entries ++ [(name, value)] := by
  induction entries with
  | nil => rfl
  | cons first rest ih =>
      obtain ⟨key, kept⟩ := first
      have before := last key List.mem_cons_self
      rw [insertEntry, if_neg (String.lt_asymm before), if_neg fun same => ?_, ih fun other mem =>
        last other (List.mem_cons_of_mem _ mem)]
      · rfl
      · rw [same] at before
        exact String.lt_irrefl _ before

/-- Entries that are listed in order are the map of these entries. -/
theorem entries_ofList_of_sorted (sorted : (entries.map Prod.fst).Pairwise (· < ·)) :
    (ofList entries).entries = entries := by
  suffices extends_ : ∀ (m : NameMap α),
      ((m.entries ++ entries).map Prod.fst).Pairwise (· < ·) →
      (insertAll entries m).entries = m.entries ++ entries from extends_ empty sorted
  clear sorted
  induction entries with
  | nil => exact fun m _ => (List.append_nil _).symm
  | cons entry rest ih =>
      intro m sorted
      have inserted : (m.insert entry.1 entry.2).entries = m.entries ++ [entry] := by
        rw [List.map_append] at sorted
        exact insertEntry_of_lt fun other mem =>
          (List.pairwise_append.1 sorted).2.2 other mem entry.1 List.mem_cons_self
      have step : insertAll (entry :: rest) m = insertAll rest (m.insert entry.1 entry.2) := rfl
      rw [step, ih, inserted, List.append_assoc]
      · rfl
      · rw [inserted, List.append_assoc]
        exact sorted

theorem eq_of_entries {left right : NameMap α} (same : left.entries = right.entries) :
    left = right := by
  cases left
  cases right
  cases same
  rfl

theorem ofList_entries (m : NameMap α) : ofList m.entries = m :=
  eq_of_entries (entries_ofList_of_sorted m.sorted)

theorem nodup_keys (m : NameMap α) : (m.entries.map Prod.fst).Nodup := by
  refine m.sorted.imp fun {first second} lt same => ?_
  exact String.lt_irrefl second (same ▸ lt)

theorem get?_eq_some_iff {m : NameMap α} : m.get? name = some value ↔ (name, value) ∈ m.entries :=
  lookupEntry_eq_some_iff m.nodup_keys

/-- A section is determined by its look-ups, since it lists its entries in order. -/
theorem eq_of_get? {left right : NameMap α} (agree : ∀ name, left.get? name = right.get? name) :
    left = right := by
  have perm := perm_of_lookupEntry left.nodup_keys right.nodup_keys agree
  refine eq_of_entries (perm.eq_of_pairwise ?_ (List.pairwise_map.1 left.sorted)
    (List.pairwise_map.1 right.sorted))
  exact fun _ _ _ _ before after => absurd after (String.lt_asymm before)

theorem contains_iff_exists {m : NameMap α} :
    m.contains name = true ↔ ∃ value, m.get? name = some value := by
  rw [contains, Option.isSome_iff_exists]

theorem keys_mapValues {m : NameMap α} {f : α → β} : (m.mapValues f).keys = m.keys := by
  simp [keys, mapValues]

theorem lookupEntry_map (f : α → β) (entries : List (String × α)) (name : String) :
    lookupEntry name (entries.map fun entry => (entry.1, f entry.2)) =
      (lookupEntry name entries).map f := by
  induction entries with
  | nil => rfl
  | cons entry rest ih =>
      rw [List.map_cons, lookupEntry, lookupEntry, ih]
      split <;> rfl

theorem get?_mapValues (f : α → β) (m : NameMap α) (name : String) :
    (m.mapValues f).get? name = (m.get? name).map f :=
  lookupEntry_map f m.entries name

theorem forall_get?_mapValues {P : String → β → Prop} {f : α → β} {m : NameMap α} :
    (∀ name b, (m.mapValues f).get? name = some b → P name b) ↔
      ∀ name a, m.get? name = some a → P name (f a) := by
  simp only [get?_mapValues, Option.map_eq_some_iff, forall_exists_index, and_imp]
  exact ⟨fun all name a declared => all name _ a declared rfl,
    fun all name _ a declared same => same ▸ all name a declared⟩

theorem mapValues_eq_self {m : NameMap α} {f : α → α}
    (fixed : ∀ key value, m.get? key = some value → f value = value) : m.mapValues f = m := by
  refine eq_of_entries ((List.map_congr_left fun entry inside => ?_).trans (List.map_id _))
  rw [fixed entry.1 entry.2 (get?_eq_some_iff.2 inside)]
  rfl

/-- Two sections are the same exactly when they answer every look-up alike. -/
theorem sameBy_iff {same : α → α → Bool} {left right : NameMap α} :
    sameBy same left right = true ↔
      ∀ name, optionsSame same (left.get? name) (right.get? name) = true := by
  rw [sameBy, Bool.and_eq_true, beq_iff_eq, List.all_eq_true]
  refine Iff.trans ?_ (included_iff left.nodup_keys right.nodup_keys)
  refine and_congr Iff.rfl (forall₂_congr fun entry _ => ?_)
  rw [get?]
  cases lookupEntry entry.1 right.entries <;> simp

theorem mem_keys_iff {m : NameMap α} : name ∈ m.keys ↔ ∃ value, m.get? name = some value := by
  rw [mem_keys_iff_contains, contains_iff_exists]

/-- Two sections have the same names, and under each name values that a comparison takes for the
same. -/
structure SameEntries (same : α → α → Bool) (left right : NameMap α) : Prop where
  keys : ∀ name, name ∈ left.keys ↔ name ∈ right.keys
  values : ∀ name value other, left.get? name = some value → right.get? name = some other →
    same value other = true

/-- The comparison of sections decides whether they have the same entries. -/
theorem sameBy_iff_sameEntries {same : α → α → Bool} {left right : NameMap α} :
    sameBy same left right = true ↔ SameEntries same left right := by
  rw [sameBy_iff]
  constructor
  · intro agree
    refine ⟨fun name => ?_, fun name value other atLeft atRight => ?_⟩
    · have atName := agree name
      rw [mem_keys_iff, mem_keys_iff]
      cases atLeft : left.get? name <;> cases atRight : right.get? name <;>
        simp_all [optionsSame]
    · have atName := agree name
      rw [atLeft, atRight] at atName
      exact atName
  · intro entries name
    have keys := entries.keys name
    rw [mem_keys_iff, mem_keys_iff] at keys
    cases atLeft : left.get? name with
    | none =>
        cases atRight : right.get? name with
        | none => rfl
        | some other =>
            obtain ⟨value, atLeft'⟩ := keys.2 ⟨other, atRight⟩
            rw [atLeft] at atLeft'
            cases atLeft'
    | some value =>
        obtain ⟨other, atRight⟩ := keys.1 ⟨value, atLeft⟩
        rw [atRight]
        exact entries.values name value other atLeft atRight

end NameMap

namespace Json.Members

/-- The members of an object are looked up like the entries of a section. -/
theorem get?_eq_lookupEntry (key : String) (members : Members) :
    get? key members = NameMap.lookupEntry key members := by
  induction members with
  | nil => rfl
  | cons first rest ih =>
      obtain ⟨name, value⟩ := first
      rw [get?, NameMap.lookupEntry, ih]

theorem within_eq_true_iff {left right : Members} :
    within left right = true ↔
      ∀ entry ∈ left, ∃ other, NameMap.lookupEntry entry.1 right = some other ∧
        Value.same entry.2 other = true := by
  induction left with
  | nil => simp [within]
  | cons first rest ih =>
      obtain ⟨key, value⟩ := first
      rw [within, Bool.and_eq_true, ih, List.forall_mem_cons, get?_eq_lookupEntry]
      refine and_congr ?_ Iff.rfl
      cases NameMap.lookupEntry key right <;> simp

/-- Two objects that hold every key once are the same exactly when they agree at every key. -/
theorem same_iff {left right : Members} (hleft : (left.map Prod.fst).Nodup)
    (hright : (right.map Prod.fst).Nodup) :
    Members.same left right = true ↔
      ∀ key, optionsSame Value.same (get? key left) (get? key right) = true := by
  rw [Members.same, Bool.and_eq_true, beq_iff_eq, within_eq_true_iff]
  refine (NameMap.included_iff hleft hright).trans (forall_congr' fun key => ?_)
  rw [get?_eq_lookupEntry, get?_eq_lookupEntry]

end Json.Members

end StackDeploy
