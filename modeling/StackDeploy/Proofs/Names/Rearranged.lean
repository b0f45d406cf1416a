/-
# Rearranged lists

What is listed under distinct tags may be listed in any order. One list is a rearrangement of
another if, up to order, its items agree one by one with those of the other and have their tags.
Whatever looks for one tag then finds things that agree: the value of a name in a section, the value
of a key in an object, the part of a record that states a field.
-/

import Mathlib.Data.List.Forall2
import Mathlib.Data.List.Nodup
import Mathlib.Data.List.Perm.Basic
import StackDeploy.Proofs.Names.Lookup

namespace StackDeploy

open Json (Members Value)

/-- The right list is, up to order, the left one with other items of the same tags that agree with
its own. No tag is listed twice. -/
structure Rearranged {α : Type} (tag : α → String) (Agree : α → α → Prop) (left right : List α) :
    Prop where
  once : (left.map tag).Nodup
  matched : ∃ between, List.Forall₂ (fun l r => tag l = tag r ∧ Agree l r) left between ∧
    between.Perm right

namespace Rearranged

variable {α β : Type} {tag : α → String} {Agree : α → α → Prop} {left right : List α}

private theorem map_tag_eq {between : List α}
    (matched : List.Forall₂ (fun l r => tag l = tag r ∧ Agree l r) left between) :
    left.map tag = between.map tag := by
  induction matched with
  | nil => rfl
  | cons same _ ih => rw [List.map_cons, List.map_cons, same.1, ih]

theorem once_right (rearranged : Rearranged tag Agree left right) : (right.map tag).Nodup := by
  obtain ⟨between, matched, perm⟩ := rearranged.matched
  rw [← (perm.map tag).nodup_iff, ← map_tag_eq matched]
  exact rearranged.once

/-- What looks for one tag does not depend on the order. -/
private theorem findSome?_perm {select : α → Option β} {name : String} {between : List α}
    (perm : between.Perm right) (once : (right.map tag).Nodup)
    (named : ∀ item, (select item).isSome → tag item = name) :
    between.findSome? select = right.findSome? select := by
  cases found : right.findSome? select with
  | none =>
      rw [List.findSome?_eq_none_iff] at found ⊢
      exact fun item mem => found item (perm.mem_iff.1 mem)
  | some b =>
      obtain ⟨item, mem, selected⟩ := List.exists_of_findSome?_eq_some found
      have somewhere : (between.findSome? select).isSome := by
        refine List.findSome?_isSome_iff.2 ⟨item, perm.mem_iff.2 mem, ?_⟩
        rw [selected, Option.isSome_some]
      obtain ⟨c, other⟩ := Option.isSome_iff_exists.1 somewhere
      obtain ⟨twin, twin_mem, twin_selected⟩ := List.exists_of_findSome?_eq_some other
      have same : twin = item := by
        refine List.inj_on_of_nodup_map once (perm.mem_iff.1 twin_mem) mem ?_
        rw [named twin (twin_selected ▸ rfl), named item (selected ▸ rfl)]
      rw [other, ← twin_selected, same, selected]

/-- What looks for one tag finds things that agree. -/
theorem findSome? {select : α → Option β} {R : β → β → Prop} (name : String)
    (rearranged : Rearranged tag Agree left right)
    (named : ∀ item, (select item).isSome → tag item = name)
    (agree : ∀ l r, Agree l r → tag l = tag r → Option.Rel R (select l) (select r)) :
    Option.Rel R (left.findSome? select) (right.findSome? select) := by
  obtain ⟨between, matched, perm⟩ := rearranged.matched
  rw [← findSome?_perm perm rearranged.once_right named]
  clear rearranged perm
  induction matched with
  | nil => exact .none
  | @cons l r _ _ same _ ih =>
      have here := agree l r same.2 same.1
      rw [List.findSome?_cons, List.findSome?_cons]
      cases selectedL : select l <;> cases selectedR : select r <;>
        rw [selectedL, selectedR] at here
      · exact ih
      · cases here
      · cases here
      · exact here

/-- What is found on the left has a counterpart on the right. -/
theorem exists_findSome?_eq_some {select : α → Option β} {R : β → β → Prop} {b : β}
    (rearranged : Rearranged tag Agree left right) (found : left.findSome? select = some b)
    (name : String) (named : ∀ item, (select item).isSome → tag item = name)
    (agree : ∀ l r, Agree l r → tag l = tag r → Option.Rel R (select l) (select r)) :
    ∃ b', right.findSome? select = some b' ∧ R b b' := by
  have rel := rearranged.findSome? name named agree
  rw [found] at rel
  cases other : right.findSome? select with
  | none => rw [other] at rel; cases rel
  | some b' => rw [other] at rel; exact ⟨b', rfl, Option.rel_some_some.1 rel⟩

variable {R : α → α → Prop} {entries others : List (String × α)}

/-- A look-up in rearranged entries finds values that agree. -/
theorem lookupEntry (rearranged : Rearranged Prod.fst (fun l r => R l.2 r.2) entries others)
    (name : String) :
    Option.Rel R (NameMap.lookupEntry name entries) (NameMap.lookupEntry name others) := by
  let select (entry : String × α) : Option α := if entry.1 = name then some entry.2 else none
  have by_selection (listed : List (String × α)) :
      NameMap.lookupEntry name listed = listed.findSome? select := by
    induction listed with
    | nil => rfl
    | cons entry rest ih =>
        rw [NameMap.lookupEntry, List.findSome?_cons, ih]
        by_cases here : entry.1 = name <;> simp only [select, here, if_true, if_false]
  rw [by_selection, by_selection]
  refine rearranged.findSome? name (fun entry selected => ?_) fun l r agree same => ?_
  · by_contra differs
    rw [show select entry = none from if_neg differs] at selected
    cases selected
  · by_cases here : l.1 = name
    · rw [show select l = some l.2 from if_pos here,
        show select r = some r.2 from if_pos (same ▸ here)]
      exact .some agree
    · rw [show select l = none from if_neg here,
        show select r = none from if_neg fun there => here (same.trans there)]
      exact .none

end Rearranged

variable {α : Type} {same : α → α → Bool}

theorem optionsSame_iff_rel {a b : Option α} :
    optionsSame same a b = true ↔ Option.Rel (fun x y => same x y = true) a b := by
  cases a with
  | none => cases b <;> simp [optionsSame]
  | some x => cases b <;> simp [optionsSame]

/-- Entries that name everything once are looked up in their section as they are listed. -/
theorem NameMap.get?_ofList_of_nodup {entries : List (String × α)}
    (once : (entries.map Prod.fst).Nodup) (name : String) :
    (ofList entries).get? name = lookupEntry name entries := by
  have last : (ofList entries).get? name = latest name entries :=
    (get?_insertAll empty).trans Option.or_none
  rw [last, latest]
  cases found : lookupEntry name entries with
  | none =>
      rw [lookupEntry_eq_none_iff] at found ⊢
      rwa [List.map_reverse, List.mem_reverse]
  | some value =>
      have reversed : (entries.reverse.map Prod.fst).Nodup := by
        rwa [List.map_reverse, List.nodup_reverse]
      exact lookupEntry_of_mem reversed (List.mem_reverse.2 (mem_of_lookupEntry found))

/-- Sections of rearranged entries say the same. -/
theorem Rearranged.sameBy_ofList {entries others : List (String × α)}
    (rearranged : Rearranged Prod.fst (fun l r => same l.2 r.2 = true) entries others) :
    NameMap.sameBy same (NameMap.ofList entries) (NameMap.ofList others) = true := by
  rw [NameMap.sameBy_iff]
  intro name
  rw [NameMap.get?_ofList_of_nodup rearranged.once,
    NameMap.get?_ofList_of_nodup rearranged.once_right, optionsSame_iff_rel]
  exact rearranged.lookupEntry name

end StackDeploy
