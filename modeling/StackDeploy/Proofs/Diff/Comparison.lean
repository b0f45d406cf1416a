/-
# Comparisons from either side

Values, declarations and sections are compared from their left side only: the lengths are equal, and
whatever stands on the left has a counterpart on the right. This module shows that the outcome does
not depend on the side, and that nothing differs from itself. Both rest on objects that hold every
key once, at every depth: with a repeated key a one-sided comparison could overlook what stands on
the right.
-/

import StackDeploy.Proofs.Template.Content

namespace StackDeploy

open Json (Depth Members Number Value)

variable {α : Type} {same : α → α → Bool}

theorem optionsSame_comm {a b : Option α}
    (comm : ∀ x y, a = some x → b = some y → same x y = same y x) :
    optionsSame same a b = optionsSame same b a := by
  cases a with
  | none => cases b <;> rfl
  | some x =>
      cases b with
      | none => rfl
      | some y => exact comm x y rfl rfl

theorem optionsSame_refl {a : Option α} (refl : ∀ x, a = some x → same x x = true) :
    optionsSame same a a = true := by
  cases a with
  | none => rfl
  | some x => exact refl x rfl

namespace Json

theorem Number.same_comm (a b : Number) : a.same b = b.same a := by
  have doubles (x y : Double) : x.same y = y.same x :=
    Bool.eq_iff_iff.2 ⟨Double.same_symm, Double.same_symm⟩
  cases a with
  | int m =>
      cases b with
      | int n => exact BEq.comm
      | double y => exact doubles _ _
  | double x => cases b <;> exact doubles _ _

theorem Number.same_refl (n : Number) : n.same n = true := by
  cases n with
  | int m => exact beq_self_eq_true m
  | double x => exact x.same_refl

/-- Two objects that hold every key once are compared alike from either side if the values under
their keys are. -/
theorem Members.same_comm {left right : Members} (hleft : (left.map Prod.fst).Nodup)
    (hright : (right.map Prod.fst).Nodup)
    (comm : ∀ l ∈ left, ∀ r ∈ right, Value.same l.2 r.2 = Value.same r.2 l.2) :
    Members.same left right = Members.same right left := by
  rw [Bool.eq_iff_iff, same_iff hleft hright, same_iff hright hleft]
  refine forall_congr' fun key => Bool.eq_iff_iff.1 (optionsSame_comm fun x y atLeft atRight => ?_)
  rw [get?_eq_lookupEntry] at atLeft atRight
  exact comm _ (NameMap.mem_of_lookupEntry atLeft) _ (NameMap.mem_of_lookupEntry atRight)

namespace Value

variable {a b : Value} {xs ys : List Value}

/-- Lists of values are compared item by item. -/
theorem sameItems_iff_forall₂ :
    sameItems xs ys = true ↔ List.Forall₂ (fun x y => x.same y = true) xs ys := by
  induction xs generalizing ys with
  | nil => cases ys <;> simp [sameItems]
  | cons x xs ih => cases ys <;> simp [sameItems, ih]

private theorem sameItems_comm_of (comm : ∀ x ∈ xs, ∀ y ∈ ys, x.same y = y.same x) :
    sameItems xs ys = sameItems ys xs := by
  induction xs generalizing ys with
  | nil => cases ys <;> rfl
  | cons x xs ih =>
      cases ys with
      | nil => rfl
      | cons y ys =>
          have head := comm x List.mem_cons_self y List.mem_cons_self
          have tail := ih fun x' hx y' hy =>
            comm x' (List.mem_cons_of_mem _ hx) y' (List.mem_cons_of_mem _ hy)
          rw [sameItems, sameItems, head, tail]

private theorem sameItems_refl_of (refl : ∀ x ∈ xs, x.same x = true) :
    sameItems xs xs = true := by
  induction xs with
  | nil => rfl
  | cons x xs ih =>
      have head := refl x List.mem_cons_self
      have tail := ih fun x' hx => refl x' (List.mem_cons_of_mem _ hx)
      rw [sameItems, head, tail]
      rfl

/-- It does not matter from which side two values are compared. -/
theorem same_comm (ha : a.Distinct) (hb : b.Distinct) : a.same b = b.same a := by
  induction ha generalizing b with
  | null => cases hb <;> rfl
  | bool value =>
      cases hb with
      | bool other => exact BEq.comm
      | _ => rfl
  | number n =>
      cases hb with
      | number m => exact n.same_comm m
      | _ => rfl
  | string s =>
      cases hb with
      | string other => exact BEq.comm
      | _ => rfl
  | array _ ih =>
      cases hb with
      | array items => exact sameItems_comm_of fun x hx y hy => ih x hx (items y hy)
      | _ => rfl
  | object keys _ ih =>
      cases hb with
      | object others values =>
          exact Members.same_comm keys others fun l hl r hr => ih l hl (values r hr)
      | _ => rfl

/-- A value says the same as itself. -/
theorem same_refl (ha : a.Distinct) : a.same a = true := by
  induction ha with
  | null => rfl
  | bool value => exact beq_self_eq_true value
  | number n => exact n.same_refl
  | string s => exact beq_self_eq_true s
  | array _ ih => exact sameItems_refl_of ih
  | object keys _ ih =>
      refine (Members.same_iff keys keys).2 fun key => optionsSame_refl fun value found => ?_
      rw [Members.get?_eq_lookupEntry] at found
      exact ih _ (NameMap.mem_of_lookupEntry found)

theorem sameItems_comm (hxs : ∀ x ∈ xs, x.Distinct) (hys : ∀ y ∈ ys, y.Distinct) :
    sameItems xs ys = sameItems ys xs :=
  sameItems_comm_of fun x hx y hy => same_comm (hxs x hx) (hys y hy)

theorem sameItems_refl (hxs : ∀ x ∈ xs, x.Distinct) : sameItems xs xs = true :=
  sameItems_refl_of fun x hx => same_refl (hxs x hx)

end Value

end Json

namespace NameMap

variable {left right : NameMap α}

theorem sameBy_comm (comm : ∀ name l r, left.get? name = some l → right.get? name = some r →
    same l r = same r l) : sameBy same left right = sameBy same right left := by
  rw [Bool.eq_iff_iff, sameBy_iff, sameBy_iff]
  exact forall_congr' fun name => Bool.eq_iff_iff.1 (optionsSame_comm (comm name))

theorem sameBy_refl (refl : ∀ name l, left.get? name = some l → same l l = true) :
    sameBy same left left = true :=
  sameBy_iff.2 fun name => optionsSame_refl (refl name)

end NameMap

variable {depth : Depth}

namespace Resource

variable {a b : Resource}

theorem same_comm (ha : a.Every (fun _ v => v.Distinct) depth)
    (hb : b.Every (fun _ v => v.Distinct) depth) : Resource.same a b = Resource.same b a := by
  have properties : Members.same a.properties b.properties =
      Members.same b.properties a.properties := Value.same_comm ha hb
  rw [Resource.same, Resource.same, properties, BEq.comm (a := a.type),
    BEq.comm (a := a.dependsOn), BEq.comm (a := a.condition), BEq.comm (a := a.deletionPolicy),
    BEq.comm (a := a.updateReplacePolicy)]

theorem same_refl (ha : a.Every (fun _ v => v.Distinct) depth) : Resource.same a a = true := by
  have properties : Members.same a.properties a.properties = true := Value.same_refl ha
  simp only [Resource.same, properties, beq_self_eq_true, Bool.and_self]

end Resource

namespace Parameter

variable {a b : Parameter}

theorem same_comm (ha : a.Every (fun _ v => v.Distinct) depth)
    (hb : b.Every (fun _ v => v.Distinct) depth) : Parameter.same a b = Parameter.same b a := by
  have default : optionsSame Value.same a.default b.default =
      optionsSame Value.same b.default a.default :=
    optionsSame_comm fun x y atA atB => Value.same_comm (ha.default x atA) (hb.default y atB)
  have allowed := Value.sameItems_comm ha.allowedValues hb.allowedValues
  rw [Parameter.same, Parameter.same, default, allowed, BEq.comm (a := a.type),
    BEq.comm (a := a.description), BEq.comm (a := a.noEcho)]

theorem same_refl (ha : a.Every (fun _ v => v.Distinct) depth) : Parameter.same a a = true := by
  have default : optionsSame Value.same a.default a.default = true :=
    optionsSame_refl fun x stated => Value.same_refl (ha.default x stated)
  have allowed := Value.sameItems_refl ha.allowedValues
  simp only [Parameter.same, default, allowed, beq_self_eq_true, Bool.and_self]

end Parameter

namespace Output

variable {a b : Output}

theorem same_comm (ha : a.Every (fun _ v => v.Distinct) depth)
    (hb : b.Every (fun _ v => v.Distinct) depth) : Output.same a b = Output.same b a := by
  have exportName : optionsSame Value.same a.exportName b.exportName =
      optionsSame Value.same b.exportName a.exportName :=
    optionsSame_comm fun x y atA atB => Value.same_comm (ha.exportName x atA) (hb.exportName y atB)
  rw [Output.same, Output.same, exportName, Value.same_comm ha.value hb.value,
    BEq.comm (a := a.description)]

theorem same_refl (ha : a.Every (fun _ v => v.Distinct) depth) : Output.same a a = true := by
  have exportName : optionsSame Value.same a.exportName a.exportName = true :=
    optionsSame_refl fun x stated => Value.same_refl (ha.exportName x stated)
  simp only [Output.same, exportName, Value.same_refl ha.value, beq_self_eq_true, Bool.and_self]

end Output

end StackDeploy
