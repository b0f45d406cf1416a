/-
# How far equality up to spelling is an equivalence

Every value says the same as itself, and it does not matter from which side two values are compared.
But what says the same as a third value need not say the same: two integers are compared exactly,
and an integer is compared with a double after it was rounded, so a double from 2^53 on can say the
same as several integers. It is through such a double only that the comparison leads astray. A
double that at most one integer rounds to is called sharp here, and below 2^53 every double is.

That sharp doubles suffice is an induction on the value in the middle. That they are needed is shown
by writing two integers that round to the same double in its place, all over the value.
-/

import StackDeploy.Proofs.Decimal.Whole
import StackDeploy.Proofs.Diff.Partition
import StackDeploy.Proofs.Json.Integers

namespace StackDeploy

open Json (Depth Members Number Value)

/-! ## Integers that share a double -/

namespace Double

variable {a b c : Double}

theorem same_iff :
    a.same b = true ↔ a.units = b.units ∧ (a.negative = b.negative ∨ a.units = 0) := by
  simp [same]

theorem same_trans (ab : a.same b = true) (bc : b.same c = true) : a.same c = true := by
  rw [same_iff] at ab bc ⊢
  refine ⟨ab.1.trans bc.1, ?_⟩
  rcases ab.2 with sign | zero
  · rw [sign, ab.1]
    exact bc.2
  · exact Or.inr zero

end Double

/-- At most one integer of 64 bits is rounded to a double, as far as their values tell. -/
def Double.IsSharp (d : Double) : Prop :=
  ∀ m n : Int, Number.Fits (.int m) → Number.Fits (.int n) →
    Number.same (.int m) (.double d) = true → Number.same (.int n) (.double d) = true → m = n

/-- An integer that is rounded to a double below 2^53 is its value. -/
theorem Double.units_eq_of_same {d : Double} {n : Int} (small : d.units < 2 ^ 53 * unitsPerOne)
    (fits : Number.Fits (.int n)) (same : Number.same (.int n) (.double d) = true) :
    d.units = n.natAbs * unitsPerOne ∧ (d.negative = decide (n < 0) ∨ d.units = 0) := by
  obtain ⟨nearest, found, sign, short, long⟩ := exists_ofInt n fits.natAbs_lt
  have rounded : nearest.same d = true := by
    change (Number.toDouble (.int n)).same d = true at same
    rwa [Number.toDouble, found] at same
  obtain ⟨units, agree⟩ := same_iff.1 rounded
  have below : n.natAbs < 2 ^ 53 := by
    refine Nat.lt_of_not_le fun large => ?_
    have far := long large
    omega
  rw [← units, ← sign]
  exact ⟨short below, agree.imp Eq.symm id⟩

theorem Double.isSharp_of_units_lt {d : Double} (small : d.units < 2 ^ 53 * unitsPerOne) :
    d.IsSharp := by
  intro m n fitsM fitsN sameM sameN
  obtain ⟨unitsM, signM⟩ := units_eq_of_same small fitsM sameM
  obtain ⟨unitsN, signN⟩ := units_eq_of_same small fitsN sameN
  have abs : m.natAbs = n.natAbs :=
    Nat.eq_of_mul_eq_mul_right unitsPerOne_pos (unitsM.symm.trans unitsN)
  by_cases zero : d.units = 0
  · have none : m.natAbs = 0 :=
      (Nat.mul_eq_zero.1 (unitsM.symm.trans zero)).resolve_right (Nat.ne_of_gt unitsPerOne_pos)
    omega
  · have signs : decide (m < 0) = decide (n < 0) :=
      (signM.resolve_right zero).symm.trans (signN.resolve_right zero)
    rw [decide_eq_decide] at signs
    omega

namespace Json

/-- The doubles among the numbers are below 2^53. -/
def Number.IsShort : Number → Prop
  | .int _ => True
  | .double d => d.units < 2 ^ 53 * Double.unitsPerOne

instance : DecidablePred Number.IsShort
  | .int _ => isTrue trivial
  | .double d => inferInstanceAs (Decidable (d.units < 2 ^ 53 * Double.unitsPerOne))

/-- Numbers that say the same as a third one do so themselves, unless both are integers that round
to it. -/
theorem Number.same_trans {a b c : Number} (ha : a.Fits) (hc : c.Fits)
    (sharp : ∀ d, b = .double d → d.IsSharp) (ab : a.same b = true) (bc : b.same c = true) :
    a.same c = true := by
  cases b with
  | int n =>
      cases a with
      | int m =>
          cases beq_iff_eq.1 (show (m == n) = true from ab)
          exact bc
      | double x =>
          cases c with
          | int k =>
              cases beq_iff_eq.1 (show (n == k) = true from bc)
              exact ab
          | double z => exact Double.same_trans ab bc
  | double y =>
      cases a with
      | int m =>
          cases c with
          | int k =>
              cases sharp y rfl m k ha hc ab ((same_comm _ _).trans bc)
              exact same_refl _
          | double z => exact Double.same_trans ab bc
      | double x => cases c <;> exact Double.same_trans ab bc

/-! ## Values in between -/

namespace Value

/-- A value that a document can hold: every object holds every key once, and every integer has 64
bits. -/
structure WellFormed (v : Value) : Prop where
  distinct : v.Distinct
  fits : ∀ n ∈ v.numbers, n.Fits

instance (v : Value) : Decidable v.WellFormed :=
  decidable_of_iff (v.Distinct ∧ ∀ n ∈ v.numbers, n.Fits)
    ⟨fun both => ⟨both.1, both.2⟩, fun wellFormed => ⟨wellFormed.1, wellFormed.2⟩⟩

/-- No double in a value says the same as two integers. -/
def IsSharp (v : Value) : Prop :=
  ∀ d, .double d ∈ v.numbers → d.IsSharp

theorem isSharp_of_isShort {v : Value} (short : ∀ n ∈ v.numbers, n.IsShort) : v.IsSharp :=
  fun d inside => Double.isSharp_of_units_lt (short (.double d) inside)

end Value

end Json

section

variable {α : Type} {same : α → α → Bool} {a b c : Option α}

theorem optionsSame_trans
    (trans : ∀ x y z, a = some x → b = some y → c = some z → same x y = true → same y z = true →
      same x z = true) (ab : optionsSame same a b = true) (bc : optionsSame same b c = true) :
    optionsSame same a c = true := by
  cases b with
  | none =>
      cases a with
      | none => exact bc
      | some x => cases ab
  | some y =>
      cases a with
      | none => cases ab
      | some x =>
          cases c with
          | none => cases bc
          | some z => exact trans x y z rfl rfl rfl ab bc

theorem NameMap.sameBy_trans {left middle right : NameMap α}
    (trans : ∀ name x y z, left.get? name = some x → middle.get? name = some y →
      right.get? name = some z → same x y = true → same y z = true → same x z = true)
    (first : sameBy same left middle = true) (second : sameBy same middle right = true) :
    sameBy same left right = true := by
  rw [sameBy_iff] at first second ⊢
  exact fun name => optionsSame_trans (trans name) (first name) (second name)

end

namespace Json

theorem Members.same_trans {left middle right : Members} (hleft : (left.map Prod.fst).Nodup)
    (hmiddle : (middle.map Prod.fst).Nodup) (hright : (right.map Prod.fst).Nodup)
    (trans : ∀ l ∈ left, ∀ m ∈ middle, ∀ r ∈ right, Value.same l.2 m.2 = true →
      Value.same m.2 r.2 = true → Value.same l.2 r.2 = true)
    (first : Members.same left middle = true) (second : Members.same middle right = true) :
    Members.same left right = true := by
  rw [same_iff hleft hmiddle] at first
  rw [same_iff hmiddle hright] at second
  rw [same_iff hleft hright]
  refine fun key => optionsSame_trans (fun x y z atX atY atZ => ?_) (first key) (second key)
  rw [get?_eq_lookupEntry] at atX atY atZ
  exact trans _ (NameMap.mem_of_lookupEntry atX) _ (NameMap.mem_of_lookupEntry atY) _
    (NameMap.mem_of_lookupEntry atZ)

namespace Value

variable {x y z : Value}

theorem sameItems_trans {xs ys zs : List Value}
    (trans : ∀ x ∈ xs, ∀ y ∈ ys, ∀ z ∈ zs, x.same y = true → y.same z = true → x.same z = true)
    (first : sameItems xs ys = true) (second : sameItems ys zs = true) :
    sameItems xs zs = true := by
  rw [sameItems_iff_forall₂] at first second ⊢
  induction first generalizing zs with
  | nil => exact second
  | cons same _ ih =>
      cases second with
      | cons same' second =>
          refine .cons (trans _ List.mem_cons_self _ List.mem_cons_self _ List.mem_cons_self same
            same') (ih (fun x hx y hy z hz => ?_) second)
          exact trans x (List.mem_cons_of_mem _ hx) y (List.mem_cons_of_mem _ hy) z
            (List.mem_cons_of_mem _ hz)

/-- Values that say the same as a third one do so themselves, if no double of it is in the way. -/
theorem same_trans (hx : x.WellFormed) (hy : y.Distinct) (hz : z.WellFormed) (sharp : y.IsSharp)
    (xy : x.same y = true) (yz : y.same z = true) : x.same z = true := by
  obtain ⟨hx, fitsX⟩ := hx
  obtain ⟨hz, fitsZ⟩ := hz
  induction hy generalizing x z with
  | null =>
      cases hx with
      | null => exact yz
      | _ => cases xy
  | bool value =>
      cases hx with
      | bool other => exact beq_iff_eq.1 (show (other == value) = true from xy) ▸ yz
      | _ => cases xy
  | string s =>
      cases hx with
      | string other => exact beq_iff_eq.1 (show (other == s) = true from xy) ▸ yz
      | _ => cases xy
  | number n =>
      cases hx with
      | number l =>
          cases hz with
          | number r =>
              exact Number.same_trans (fitsX l List.mem_cons_self) (fitsZ r List.mem_cons_self)
                (fun d same => sharp d (same ▸ List.mem_cons_self)) xy yz
          | _ => cases yz
      | _ => cases xy
  | array _ ih =>
      cases hx with
      | array distinctX =>
          cases hz with
          | array distinctZ =>
              refine sameItems_trans (fun x hx y hy z hz xy yz => ?_) xy yz
              exact ih y hy (fun d mem => sharp d (mem_numbers_array.2 ⟨y, hy, mem⟩)) xy yz
                (distinctX x hx) (fun n mem => fitsX n (mem_numbers_array.2 ⟨x, hx, mem⟩))
                (distinctZ z hz) fun n mem => fitsZ n (mem_numbers_array.2 ⟨z, hz, mem⟩)
          | _ => cases yz
      | _ => cases xy
  | object keys _ ih =>
      cases hx with
      | object keysX distinctX =>
          cases hz with
          | object keysZ distinctZ =>
              refine Members.same_trans keysX keys keysZ (fun l hl m hm r hr lm mr => ?_) xy yz
              exact ih m hm (fun d mem => sharp d (mem_numbers_object.2 ⟨m, hm, mem⟩)) lm mr
                (distinctX l hl) (fun n mem => fitsX n (mem_numbers_object.2 ⟨l, hl, mem⟩))
                (distinctZ r hr) fun n mem => fitsZ n (mem_numbers_object.2 ⟨r, hr, mem⟩)
          | _ => cases yz
      | _ => cases xy

/-! ## Other numbers in the same places -/

mutual

/-- A value with its numbers replaced. -/
def mapNumbers (f : Number → Number) : Value → Value
  | .null => .null
  | .bool value => .bool value
  | .number n => .number (f n)
  | .string s => .string s
  | .array items => .array (mapItemNumbers f items)
  | .object members => .object (mapMemberNumbers f members)

/-- Items with their numbers replaced. -/
def mapItemNumbers (f : Number → Number) : List Value → List Value
  | [] => []
  | item :: rest => mapNumbers f item :: mapItemNumbers f rest

/-- Members with their numbers replaced. -/
def mapMemberNumbers (f : Number → Number) : List (String × Value) → Members
  | [] => []
  | (key, value) :: rest => (key, mapNumbers f value) :: mapMemberNumbers f rest

end

variable {f g : Number → Number} {v : Value}

theorem mapItemNumbers_eq_map (items : List Value) :
    mapItemNumbers f items = items.map (mapNumbers f) := by
  induction items with
  | nil => rfl
  | cons item rest ih => rw [mapItemNumbers, ih, List.map_cons]

theorem mapMemberNumbers_eq_map (members : Members) :
    mapMemberNumbers f members = members.map fun member => (member.1, mapNumbers f member.2) := by
  induction members with
  | nil => rfl
  | cons member rest ih => rw [mapMemberNumbers, ih, List.map_cons]

theorem keys_mapMemberNumbers (members : Members) :
    (mapMemberNumbers f members).map Prod.fst = members.map Prod.fst := by
  rw [mapMemberNumbers_eq_map, List.map_map]
  rfl

theorem Distinct.mapNumbers (distinct : v.Distinct) : (v.mapNumbers f).Distinct := by
  induction distinct with
  | null => exact .null
  | bool value => exact .bool value
  | number n => exact .number (f n)
  | string s => exact .string s
  | array _ ih =>
      rw [Value.mapNumbers, mapItemNumbers_eq_map]
      exact .array (List.forall_mem_map.2 ih)
  | @object members keys _ ih =>
      rw [Value.mapNumbers]
      refine .object ((keys_mapMemberNumbers members).symm ▸ keys) ?_
      rw [mapMemberNumbers_eq_map]
      exact List.forall_mem_map.2 ih

theorem Distinct.numbers_mapNumbers (distinct : v.Distinct) :
    (v.mapNumbers f).numbers = v.numbers.map f := by
  induction distinct with
  | null | bool | string => rfl
  | number n => rfl
  | @array items _ ih =>
      rw [Value.mapNumbers, numbers, numbers, mapItemNumbers_eq_map, numbersOfItems_eq_flatMap,
        numbersOfItems_eq_flatMap, List.flatMap_map, List.map_flatMap]
      exact List.flatMap_congr ih
  | @object members _ _ ih =>
      rw [Value.mapNumbers, numbers, numbers, mapMemberNumbers_eq_map, numbersOfMembers_eq_flatMap,
        numbersOfMembers_eq_flatMap, List.flatMap_map, List.map_flatMap]
      exact List.flatMap_congr ih

theorem Distinct.mapNumbers_id (distinct : v.Distinct) : v.mapNumbers id = v := by
  induction distinct with
  | null | bool | string => rfl
  | number n => rfl
  | @array items _ ih =>
      rw [Value.mapNumbers, mapItemNumbers_eq_map, List.map_congr_left ih, List.map_id']
  | @object members _ _ ih =>
      have same : ∀ member ∈ members, (member.1, member.2.mapNumbers id) = member :=
        fun member mem => Prod.ext rfl (ih member mem)
      rw [Value.mapNumbers, mapMemberNumbers_eq_map, List.map_congr_left same, List.map_id']

/-- Two ways to replace the numbers of a value give the same value if they give the same numbers. -/
theorem Distinct.same_mapNumbers_iff (distinct : v.Distinct) :
    (v.mapNumbers f).same (v.mapNumbers g) = true ↔ ∀ n ∈ v.numbers, (f n).same (g n) = true := by
  induction distinct with
  | null => exact iff_of_true rfl (List.forall_mem_nil _)
  | bool value => exact iff_of_true (beq_self_eq_true value) (List.forall_mem_nil _)
  | string s => exact iff_of_true (beq_self_eq_true s) (List.forall_mem_nil _)
  | number n =>
      exact (List.forall_mem_singleton (p := fun n => (f n).same (g n) = true)).symm
  | @array items _ ih =>
      rw [Value.mapNumbers, Value.mapNumbers, same, sameItems_iff_forall₂, mapItemNumbers_eq_map,
        mapItemNumbers_eq_map, List.forall₂_map_left_iff, List.forall₂_map_right_iff,
        List.forall₂_same]
      simp only [mem_numbers_array, forall_exists_index, and_imp]
      constructor
      · exact fun all n item mem inside => (ih item mem).1 (all item mem) n inside
      · exact fun all item mem => (ih item mem).2 fun n inside => all n item mem inside
  | @object members keys _ ih =>
      have nodup (f : Number → Number) : ((mapMemberNumbers f members).map Prod.fst).Nodup :=
        (keys_mapMemberNumbers members).symm ▸ keys
      have found (f : Number → Number) (key : String) :
          Members.get? key (mapMemberNumbers f members) =
            (NameMap.lookupEntry key members).map (Value.mapNumbers f) := by
        rw [Members.get?_eq_lookupEntry, mapMemberNumbers_eq_map, NameMap.lookupEntry_map]
      rw [Value.mapNumbers, Value.mapNumbers]
      refine (Members.same_iff (nodup f) (nodup g)).trans ?_
      simp only [found, mem_numbers_object, forall_exists_index, and_imp]
      constructor
      · intro all n member mem inside
        have there := all member.1
        rw [NameMap.lookupEntry_of_mem keys mem] at there
        exact (ih member mem).1 there n inside
      · intro all key
        cases stated : NameMap.lookupEntry key members with
        | none => rfl
        | some value =>
            have mem := NameMap.mem_of_lookupEntry stated
            exact (ih _ mem).2 fun n inside => all n _ mem inside

theorem WellFormed.mapNumbers (hv : v.WellFormed) (fits : ∀ n : Number, n.Fits → (f n).Fits) :
    (v.mapNumbers f).WellFormed := by
  refine ⟨hv.distinct.mapNumbers, ?_⟩
  rw [hv.distinct.numbers_mapNumbers, List.forall_mem_map]
  exact fun n mem => fits n (hv.fits n mem)

end Value

/-- A number, but an integer in the place of a double. -/
def Number.write (d : Double) (k : Int) (n : Number) : Number :=
  if n = .double d then .int k else n

theorem Number.Fits.write {d : Double} {k : Int} (fitsK : Fits (.int k)) (n : Number)
    (fits : n.Fits) : (n.write d k).Fits := by
  by_cases here : n = .double d <;> simp [Number.write, here, fitsK, fits]

/-- An integer that says the same as a double may stand in its place. -/
theorem Number.same_write {d : Double} {k : Int} (same : Number.same (.int k) (.double d) = true)
    (n : Number) : (n.write d k).same n = true := by
  by_cases here : n = .double d <;> simp [Number.write, here, same, same_refl]

namespace Value

variable {y : Value}

/-- What says the same as a value says the same as all else that does, exactly if no double of the
value says the same as two integers. -/
theorem WellFormed.isSharp_iff (hy : y.WellFormed) :
    y.IsSharp ↔ ∀ x z : Value, x.WellFormed → z.WellFormed → x.same y = true → y.same z = true →
      x.same z = true := by
  constructor
  · exact fun sharp x z hx hz => same_trans hx hy.distinct hz sharp
  · intro trans d inside m n fitsM fitsN sameM sameN
    have left : (y.mapNumbers (Number.write d m)).same (y.mapNumbers id) = true :=
      hy.distinct.same_mapNumbers_iff.2 fun other _ => Number.same_write sameM other
    have right : (y.mapNumbers id).same (y.mapNumbers (Number.write d n)) = true :=
      hy.distinct.same_mapNumbers_iff.2 fun other _ =>
        (Number.same_comm _ _).trans (Number.same_write sameN other)
    rw [hy.distinct.mapNumbers_id] at left right
    have ends := trans _ _ (hy.mapNumbers fitsM.write) (hy.mapNumbers fitsN.write) left right
    have integers := hy.distinct.same_mapNumbers_iff.1 ends (.double d) inside
    rw [Number.write, Number.write, if_pos rfl, if_pos rfl] at integers
    exact beq_iff_eq.1 integers

end Value

end Json

/-! ## Revisions in between -/

/-- A template that a document can hold. -/
def Template.WellFormed (t : Template) : Prop :=
  t.Every fun _ value => value.WellFormed

instance (t : Template) : Decidable t.WellFormed :=
  inferInstanceAs (Decidable (t.Every fun _ value => value.WellFormed))

/-- No double in a template says the same as two integers. -/
def Template.IsSharp (t : Template) : Prop :=
  t.Every fun _ value => value.IsSharp

section

variable {depth : Depth}

theorem Resource.same_trans {a b c : Resource} (ha : a.Every (fun _ v => v.WellFormed) depth)
    (hb : b.Every (fun _ v => v.WellFormed) depth) (hc : c.Every (fun _ v => v.WellFormed) depth)
    (sharp : b.Every (fun _ v => v.IsSharp) depth) (ab : Resource.same a b = true)
    (bc : Resource.same b c = true) : Resource.same a c = true := by
  simp only [Resource.same, Bool.and_eq_true, beq_iff_eq] at ab bc ⊢
  obtain ⟨⟨⟨⟨⟨type, dependsOn⟩, condition⟩, deletion⟩, update⟩, properties⟩ := ab
  obtain ⟨⟨⟨⟨⟨type', dependsOn'⟩, condition'⟩, deletion'⟩, update'⟩, properties'⟩ := bc
  exact ⟨⟨⟨⟨⟨type.trans type', dependsOn.trans dependsOn'⟩, condition.trans condition'⟩,
    deletion.trans deletion'⟩, update.trans update'⟩,
    Value.same_trans ha hb.distinct hc sharp properties properties'⟩

theorem Parameter.same_trans {a b c : Parameter} (ha : a.Every (fun _ v => v.WellFormed) depth)
    (hb : b.Every (fun _ v => v.WellFormed) depth) (hc : c.Every (fun _ v => v.WellFormed) depth)
    (sharp : b.Every (fun _ v => v.IsSharp) depth) (ab : Parameter.same a b = true)
    (bc : Parameter.same b c = true) : Parameter.same a c = true := by
  simp only [Parameter.same, Bool.and_eq_true, beq_iff_eq] at ab bc ⊢
  obtain ⟨⟨⟨⟨type, description⟩, noEcho⟩, default⟩, allowed⟩ := ab
  obtain ⟨⟨⟨⟨type', description'⟩, noEcho'⟩, default'⟩, allowed'⟩ := bc
  refine ⟨⟨⟨⟨type.trans type', description.trans description'⟩, noEcho.trans noEcho'⟩, ?_⟩, ?_⟩
  · refine optionsSame_trans (fun x y z atX atY atZ => ?_) default default'
    exact Value.same_trans (ha.default x atX) (hb.default y atY).distinct (hc.default z atZ)
      (sharp.default y atY)
  · refine Value.sameItems_trans (fun x hx y hy z hz => ?_) allowed allowed'
    exact Value.same_trans (ha.allowedValues x hx) (hb.allowedValues y hy).distinct
      (hc.allowedValues z hz) (sharp.allowedValues y hy)

theorem Output.same_trans {a b c : Output} (ha : a.Every (fun _ v => v.WellFormed) depth)
    (hb : b.Every (fun _ v => v.WellFormed) depth) (hc : c.Every (fun _ v => v.WellFormed) depth)
    (sharp : b.Every (fun _ v => v.IsSharp) depth) (ab : Output.same a b = true)
    (bc : Output.same b c = true) : Output.same a c = true := by
  simp only [Output.same, Bool.and_eq_true, beq_iff_eq] at ab bc ⊢
  obtain ⟨⟨description, value⟩, exportName⟩ := ab
  obtain ⟨⟨description', value'⟩, exportName'⟩ := bc
  refine ⟨⟨description.trans description', ?_⟩, ?_⟩
  · exact Value.same_trans ha.value hb.value.distinct hc.value sharp.value value value'
  · refine optionsSame_trans (fun x y z atX atY atZ => ?_) exportName exportName'
    exact Value.same_trans (ha.exportName x atX) (hb.exportName y atY).distinct
      (hc.exportName z atZ) (sharp.exportName y atY)

end

namespace Template

/-- Where neither of two steps changes anything, both together do not, if no double of the revision
in between is in the way. -/
theorem hasChanges_diff_trans {a b c : Template} (ha : a.WellFormed) (hb : b.WellFormed)
    (hc : c.WellFormed) (sharp : b.IsSharp) (ab : (a.diff b).hasChanges = false)
    (bc : (b.diff c).hasChanges = false) : (a.diff c).hasChanges = false := by
  rw [hasChanges_diff_eq_false_iff] at ab bc ⊢
  obtain ⟨resources, parameters, outputs⟩ := ab
  obtain ⟨resources', parameters', outputs'⟩ := bc
  refine ⟨?_, ?_, ?_⟩
  · refine NameMap.sameBy_trans (fun name x y z atX atY atZ => ?_) resources resources'
    exact Resource.same_trans (ha.resources name x atX) (hb.resources name y atY)
      (hc.resources name z atZ) (sharp.resources name y atY)
  · refine NameMap.sameBy_trans (fun name x y z atX atY atZ => ?_) parameters parameters'
    exact Parameter.same_trans (ha.parameters name x atX) (hb.parameters name y atY)
      (hc.parameters name z atZ) (sharp.parameters name y atY)
  · refine NameMap.sameBy_trans (fun name x y z atX atY atZ => ?_) outputs outputs'
    exact Output.same_trans (ha.outputs name x atX) (hb.outputs name y atY)
      (hc.outputs name z atZ) (sharp.outputs name y atY)

/-- Every value says the same as itself, and two values are compared alike from either side. What
says the same as a third value says the same, whatever it is, exactly if each double in the third
one says the same as one integer at most; below 2^53 every double does. So two steps without changes
make one without changes, unless the revision in between has such a double. -/
theorem comparison_is_equivalence_but_for_shared_doubles (x y : Value) (hx : x.WellFormed)
    (hy : y.WellFormed) (a b c : Template) (ha : a.WellFormed) (hb : b.WellFormed)
    (hc : c.WellFormed) :
    x.same x = true ∧ (x.same y = true → y.same x = true) ∧
      (y.IsSharp ↔ ∀ w z : Value, w.WellFormed → z.WellFormed → w.same y = true →
        y.same z = true → w.same z = true) ∧
        ((∀ n ∈ y.numbers, n.IsShort) → y.IsSharp) ∧
          (b.IsSharp → (a.diff b).hasChanges = false → (b.diff c).hasChanges = false →
            (a.diff c).hasChanges = false) :=
  ⟨Value.same_refl hx.distinct,
    fun same => (Value.same_comm hy.distinct hx.distinct).trans same,
    hy.isSharp_iff, Value.isSharp_of_isShort, hasChanges_diff_trans ha hb hc⟩

/-- The template of a queue with a delay. -/
def delayedBy (seconds : Number) : Template :=
  queues [("Jobs", [("DelaySeconds", .number seconds)])]

/-- Five seconds may be written as a double in between. -/
theorem delay_with_fraction_changes_nothing :
    let five : Number := .double ⟨false, 5 * 2 ^ 50, 1024, by decide, by decide, by decide⟩
    Value.same (.number (.int 5)) (.number five) = true ∧
      Value.same (.number five) (.number (.int 5)) = true ∧
        ((delayedBy (.int 5)).diff (delayedBy five)).hasChanges = false ∧
          ((delayedBy five).diff (delayedBy (.int 5))).hasChanges = false ∧
            ((delayedBy (.int 5)).diff (delayedBy (.int 5))).hasChanges = false := by
  intro five
  have integers : (delayedBy (.int 5)).WellFormed := by decide
  have between : (delayedBy five).WellFormed := by decide
  obtain ⟨-, symm, -, -, trans⟩ := comparison_is_equivalence_but_for_shared_doubles
    (.number (.int 5)) (.number five) (by decide) (by decide) (delayedBy (.int 5))
    (delayedBy five) (delayedBy (.int 5)) integers between integers
  have short : (delayedBy five).Every fun _ value => ∀ n ∈ value.numbers, n.IsShort := by
    decide +kernel
  have same : Value.same (.number (.int 5)) (.number five) = true := by
    decide +kernel
  have there : ((delayedBy (.int 5)).diff (delayedBy five)).hasChanges = false := by
    decide +kernel
  have back : ((delayedBy five).diff (delayedBy (.int 5))).hasChanges = false := by
    decide +kernel
  exact ⟨same, symm same, there, back,
    trans (short.mono fun _ _ => Value.isSharp_of_isShort) there back⟩

/-- Two integers from 2^53 on can share their double, and the step from one to the other is a change
that is made of two steps without changes. -/
theorem neighbours_share_a_double :
    let low : Number := .int 9007199254740992
    let double : Number := .double ⟨false, 2 ^ 52, 1075, by decide, by decide, by decide⟩
    let high : Number := .int 9007199254740993
    (Value.number low).WellFormed ∧ (Value.number double).WellFormed ∧
      (Value.number high).WellFormed ∧ Value.same (.number low) (.number double) = true ∧
        Value.same (.number double) (.number high) = true ∧
          Value.same (.number low) (.number high) = false ∧
            ((delayedBy low).diff (delayedBy double)).hasChanges = false ∧
              ((delayedBy double).diff (delayedBy high)).hasChanges = false ∧
                ((delayedBy low).diff (delayedBy high)).hasChanges = true := by
  decide +kernel

end Template

end StackDeploy
