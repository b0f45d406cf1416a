/-
# Objects in the order of their keys

The members of an object may stand in any order. Sorted by their keys at every depth, values that
differ in such orders become one and the same, and nothing else does: between values without doubles
the comparison up to spelling is equality of the sorted values. The induction is on the value. In an
array it pairs the items, in an object what a key gives on either side.
-/

import Mathlib.Data.List.Sort
import StackDeploy.Proofs.Diff.Comparison
import StackDeploy.Proofs.Json.Integers
import StackDeploy.Proofs.Names.Rearranged

namespace StackDeploy

section

variable {α : Type}

theorem optionsSame_iff_map_eq {β : Type} {same : α → α → Bool} {f : α → β} {a b : Option α}
    (each : ∀ x y, a = some x → b = some y → (same x y = true ↔ f x = f y)) :
    optionsSame same a b = true ↔ a.map f = b.map f := by
  cases a with
  | none => cases b <;> simp [optionsSame]
  | some x =>
      cases b with
      | none => simp [optionsSame]
      | some y =>
          rw [Option.map_some, Option.map_some, Option.some.injEq]
          exact each x y rfl rfl

theorem forall₂_iff_map_eq {β : Type} {Same : α → α → Prop} {f : α → β} {xs ys : List α}
    (each : ∀ x ∈ xs, ∀ y ∈ ys, (Same x y ↔ f x = f y)) :
    List.Forall₂ Same xs ys ↔ xs.map f = ys.map f := by
  induction xs generalizing ys with
  | nil => cases ys <;> simp
  | cons x xs ih =>
      cases ys with
      | nil => simp
      | cons y ys =>
          have rest := ih fun x hx y hy =>
            each x (List.mem_cons_of_mem _ hx) y (List.mem_cons_of_mem _ hy)
          rw [List.forall₂_cons, List.map_cons, List.map_cons, List.cons.injEq, rest,
            each x List.mem_cons_self y List.mem_cons_self]

end

namespace Json

/-! ## Sorting -/

namespace Members

/-- One member stands before another, by their keys. -/
def KeyLE (l r : String × Value) : Prop :=
  l.1 ≤ r.1

instance : DecidableRel KeyLE :=
  fun l r => inferInstanceAs (Decidable (l.1 ≤ r.1))

instance : Std.Total KeyLE :=
  ⟨fun l r => String.le_total l.1 r.1⟩

instance : IsTrans (String × Value) KeyLE :=
  ⟨fun _ _ _ => String.le_trans⟩

/-- The members in the order of their keys. -/
def byKey (members : Members) : Members :=
  members.insertionSort KeyLE

variable {members left right : Members}

theorem byKey_perm (members : Members) : (byKey members).Perm members :=
  List.perm_insertionSort KeyLE members

theorem pairwise_byKey (members : Members) : (byKey members).Pairwise KeyLE :=
  List.pairwise_insertionSort KeyLE members

/-- Objects that hold every key once have the same members in order exactly if they give every key
the same value. -/
theorem byKey_eq_iff (hleft : (left.map Prod.fst).Nodup) (hright : (right.map Prod.fst).Nodup) :
    byKey left = byKey right ↔
      ∀ key, NameMap.lookupEntry key left = NameMap.lookupEntry key right := by
  constructor
  · intro same key
    have perm : left.Perm right := (byKey_perm left).symm.trans (same ▸ byKey_perm right)
    refine Option.ext fun value => ?_
    rw [NameMap.lookupEntry_eq_some_iff hleft, NameMap.lookupEntry_eq_some_iff hright, perm.mem_iff]
  · intro agree
    have perm : left.Perm right := NameMap.perm_of_lookupEntry hleft hright agree
    refine List.Perm.eq_of_pairwise (fun l r memL memR before after => ?_) (pairwise_byKey left)
      (pairwise_byKey right) ((byKey_perm left).trans (perm.trans (byKey_perm right).symm))
    have keys : l.1 = r.1 := String.le_antisymm before after
    rw [(byKey_perm left).mem_iff, perm.mem_iff] at memL
    rw [(byKey_perm right).mem_iff] at memR
    exact List.inj_on_of_nodup_map hright memL memR keys

end Members

namespace Value

mutual

/-- A value with the members of every object in it in the order of their keys. -/
def sortKeys : Value → Value
  | .null => .null
  | .bool value => .bool value
  | .number n => .number n
  | .string s => .string s
  | .array items => .array (sortItems items)
  | .object members => .object (Members.byKey (sortMembers members))

/-- Items with their objects sorted. -/
def sortItems : List Value → List Value
  | [] => []
  | item :: rest => sortKeys item :: sortItems rest

/-- Members in their order, with the objects in their values sorted. -/
def sortMembers : List (String × Value) → Members
  | [] => []
  | (key, value) :: rest => (key, sortKeys value) :: sortMembers rest

end

theorem sortItems_eq_map (items : List Value) : sortItems items = items.map sortKeys := by
  induction items with
  | nil => rfl
  | cons item rest ih => rw [sortItems, ih, List.map_cons]

theorem sortMembers_eq_map (members : Members) :
    sortMembers members = members.map fun member => (member.1, member.2.sortKeys) := by
  induction members with
  | nil => rfl
  | cons member rest ih => rw [sortMembers, ih, List.map_cons]

theorem keys_sortMembers (members : Members) :
    (sortMembers members).map Prod.fst = members.map Prod.fst := by
  rw [sortMembers_eq_map, List.map_map]
  rfl

variable {a b v : Value} {members : Members}

/-- Sorting moves members only, so the numbers are the same ones. -/
theorem Distinct.mem_numbers_sortKeys (distinct : v.Distinct) {n : Number} :
    n ∈ v.sortKeys.numbers ↔ n ∈ v.numbers := by
  induction distinct with
  | null | bool | number | string => exact Iff.rfl
  | @array items _ ih =>
      simp only [sortKeys, sortItems_eq_map, mem_numbers_array, List.mem_map,
        exists_exists_and_eq_and]
      exact exists_congr fun item => and_congr_right fun mem => ih item mem
  | @object members _ _ ih =>
      simp only [sortKeys, mem_numbers_object, (Members.byKey_perm _).mem_iff, sortMembers_eq_map,
        List.mem_map, exists_exists_and_eq_and]
      exact exists_congr fun member => and_congr_right fun mem => ih member mem

/-- Objects with distinct keys are sorted alike exactly if every key gives values that are. -/
theorem sortKeys_object_eq_iff {left right : Members} (hleft : (left.map Prod.fst).Nodup)
    (hright : (right.map Prod.fst).Nodup) :
    (object left).sortKeys = (object right).sortKeys ↔
      ∀ key, (Members.get? key left).map sortKeys = (Members.get? key right).map sortKeys := by
  rw [sortKeys, sortKeys, object.injEq,
    Members.byKey_eq_iff (keys_sortMembers left ▸ hleft) (keys_sortMembers right ▸ hright)]
  simp only [sortMembers_eq_map, NameMap.lookupEntry_map, Members.get?_eq_lookupEntry]

/-- Values without doubles say the same exactly if they are equal once their keys are sorted. -/
theorem same_iff_sortKeys_eq (ha : a.Distinct) (hb : b.Distinct)
    (integersA : ∀ n ∈ a.numbers, n.IsInteger) (integersB : ∀ n ∈ b.numbers, n.IsInteger) :
    a.same b = true ↔ a.sortKeys = b.sortKeys := by
  induction ha generalizing b with
  | null => cases hb <;> simp [same, sortKeys]
  | bool value => cases hb <;> simp [same, sortKeys]
  | string s => cases hb <;> simp [same, sortKeys]
  | number n =>
      cases hb with
      | number m =>
          have left := integersA n List.mem_cons_self
          have right := integersB m List.mem_cons_self
          rw [sortKeys, sortKeys, number.injEq]
          exact left.same_iff_eq right
      | _ => simp [same, sortKeys]
  | @array items _ ih =>
      cases hb with
      | @array others distinctB =>
          rw [same, sameItems_iff_forall₂, sortKeys, sortKeys, array.injEq, sortItems_eq_map,
            sortItems_eq_map]
          refine forall₂_iff_map_eq fun x hx y hy => ih x hx (distinctB y hy) ?_ ?_
          · exact fun n inside => integersA n (mem_numbers_array.2 ⟨x, hx, inside⟩)
          · exact fun n inside => integersB n (mem_numbers_array.2 ⟨y, hy, inside⟩)
      | _ => simp [same, sortKeys]
  | @object members keys _ ih =>
      cases hb with
      | @object others keysB distinctB =>
          rw [sortKeys_object_eq_iff keys keysB]
          refine (Members.same_iff keys keysB).trans (forall_congr' fun key => ?_)
          refine optionsSame_iff_map_eq fun x y atLeft atRight => ?_
          rw [Members.get?_eq_lookupEntry] at atLeft atRight
          have left := NameMap.mem_of_lookupEntry atLeft
          have right := NameMap.mem_of_lookupEntry atRight
          refine ih _ left (distinctB _ right) ?_ ?_
          · exact fun n inside => integersA n (mem_numbers_object.2 ⟨_, left, inside⟩)
          · exact fun n inside => integersB n (mem_numbers_object.2 ⟨_, right, inside⟩)
      | _ => simp [same, sortKeys]

end Value

end Json

end StackDeploy
