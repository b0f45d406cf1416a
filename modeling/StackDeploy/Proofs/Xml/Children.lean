/-
# Children by their names

In the value of an element a name gives the values of the children of that name: none, the only one,
or an array of all in their order, whatever other children stand between them. The value of an
element is never an array itself, so the three cases can be told apart. The groups that are filled
child by child are those of the names, each where it occurs first.
-/

import Mathlib.Data.List.Induction
import StackDeploy.Proofs.Names.Lookup
import StackDeploy.Proofs.Xml.Written
import StackDeploy.Provider.CloudFormation

namespace StackDeploy

open Json (Value Members)

namespace Xml

/-- What a name gives in an object: nothing, the only value under it, or an array of all. -/
def grouped : List Value → Option Value
  | [] => none
  | value :: rest => some (collapse (value :: rest))

/-! ## The values of a name -/

/-- The values of a name, in their order. -/
def valuesOf (name : String) (children : List (String × Value)) : List Value :=
  (children.filter fun child => child.1 == name).map Prod.snd

section

variable {name : String} {value : Value} {children : List (String × Value)}

theorem mem_valuesOf_iff : value ∈ valuesOf name children ↔ (name, value) ∈ children := by
  rw [valuesOf, List.mem_map]
  constructor
  · rintro ⟨⟨other, value⟩, mem, rfl⟩
    obtain ⟨there, same⟩ := List.mem_filter.1 mem
    exact beq_iff_eq.1 same ▸ there
  · intro there
    exact ⟨(name, value), List.mem_filter.2 ⟨there, beq_iff_eq.2 rfl⟩, rfl⟩

theorem valuesOf_eq_nil_iff : valuesOf name children = [] ↔ name ∉ children.map Prod.fst := by
  rw [List.eq_nil_iff_forall_not_mem, List.mem_map, not_exists]
  constructor
  · rintro none ⟨other, value⟩ ⟨there, rfl⟩
    exact none value (mem_valuesOf_iff.2 there)
  · intro absent value mem
    exact absent (name, value) ⟨mem_valuesOf_iff.1 mem, rfl⟩

end

theorem valuesOf_concat (name : String) (children : List (String × Value))
    (child : String × Value) :
    valuesOf name (children ++ [child]) =
      if child.1 = name then valuesOf name children ++ [child.2] else valuesOf name children :=
  map_filter_concat Prod.fst Prod.snd name children child

/-! ## Groups -/

section

variable {name : String} {value : Value} {names : List String} {f : String → List Value}

theorem file_of_mem (nodup : names.Nodup) (known : name ∈ names) :
    file name value (names.map fun other => (other, f other)) =
      names.map fun other => (other, if name = other then f other ++ [value] else f other) := by
  induction names with
  | nil => cases known
  | cons first rest ih =>
      obtain ⟨fresh, nodup⟩ := List.nodup_cons.1 nodup
      rw [List.map_cons, List.map_cons, file]
      by_cases here : first = name
      · subst here
        rw [if_pos rfl, if_pos rfl]
        congr 1
        refine List.map_congr_left fun other mem => ?_
        rw [if_neg (fun same : first = other => fresh (same ▸ mem))]
      · rw [if_neg here, if_neg (Ne.symm here),
          ih nodup ((List.mem_cons.1 known).resolve_left (Ne.symm here))]

theorem file_of_notMem (new : name ∉ names) :
    file name value (names.map fun other => (other, f other)) =
      (names.map fun other => (other, f other)) ++ [(name, [value])] := by
  induction names with
  | nil => rfl
  | cons first rest ih =>
      obtain ⟨other, later⟩ := not_or.1 (List.mem_cons.not.1 new)
      rw [List.map_cons, file, if_neg (Ne.symm other), ih later, List.cons_append]

theorem lookupEntry_map_names :
    NameMap.lookupEntry name (names.map fun other => (other, f other)) =
      if name ∈ names then some (f name) else none := by
  induction names with
  | nil => rfl
  | cons first rest ih =>
      rw [List.map_cons, NameMap.lookupEntry, ih]
      by_cases here : first = name
      · rw [if_pos here, if_pos (List.mem_cons.2 (.inl here.symm)), here]
      · have others : name ∈ first :: rest ↔ name ∈ rest :=
          List.mem_cons.trans (or_iff_right (Ne.symm here))
        simp only [if_neg here, others]

end

/-- The groups are those of the names, in the order of their first occurrence, each with all the
values of its name in their order. -/
theorem groups_eq (children : List (String × Value)) :
    groups children =
      (children.map Prod.fst).eraseDups.map fun name => (name, valuesOf name children) := by
  induction children using List.reverseRecOn with
  | nil => rfl
  | append_singleton children child ih =>
      have step : groups (children ++ [child]) = file child.1 child.2 (groups children) :=
        List.foldl_concat ..
      rw [step, ih, List.map_append, List.map_singleton, eraseDups_concat]
      by_cases known : child.1 ∈ children.map Prod.fst
      · rw [if_pos known, file_of_mem (nodup_eraseDups _) (List.mem_eraseDups.2 known)]
        simp only [valuesOf_concat]
      · have new : child.1 ∉ (children.map Prod.fst).eraseDups := fun mem =>
          known (List.mem_eraseDups.1 mem)
        rw [if_neg known, file_of_notMem new, List.map_append, List.map_singleton,
          valuesOf_concat, if_pos rfl, valuesOf_eq_nil_iff.2 known]
        congr 1
        refine List.map_congr_left fun name mem => ?_
        rw [valuesOf_concat, if_neg fun (same : child.1 = name) => new (same ▸ mem)]

/-- The groups hold the values of every name that occurs. -/
theorem lookupEntry_groups (name : String) (children : List (String × Value)) :
    NameMap.lookupEntry name (groups children) =
      if valuesOf name children = [] then none else some (valuesOf name children) := by
  rw [groups_eq, lookupEntry_map_names]
  simp only [List.mem_eraseDups, valuesOf_eq_nil_iff, ite_not]

theorem get?_map_collapse (name : String) (filed : List (String × List Value)) :
    Members.get? name (filed.map fun group => (group.1, collapse group.2)) =
      (NameMap.lookupEntry name filed).map collapse := by
  induction filed with
  | nil => rfl
  | cons group rest ih =>
      rw [List.map_cons, Members.get?, NameMap.lookupEntry, ih]
      by_cases same : group.1 = name
      · rw [if_pos same, if_pos same]
        rfl
      · rw [if_neg same, if_neg same]

/-- An object gives under a name what is grouped under it. -/
theorem get?_objectOf (name : String) (children : List (String × Value)) :
    (objectOf children).get? name = grouped (valuesOf name children) := by
  rw [objectOf, Value.get?, get?_map_collapse, lookupEntry_groups]
  cases valuesOf name children <;> rfl

/-- Named values as the members of an object: every name once, where it occurs first, with its only
value or with an array of all its values in their order. -/
def gather (children : List (String × Value)) : Members :=
  (children.map Prod.fst).eraseDups.map fun name =>
    match valuesOf name children with
    | [value] => (name, value)
    | values => (name, .array values)

theorem objectOf_eq (children : List (String × Value)) :
    objectOf children = .object (gather children) := by
  rw [objectOf, groups_eq, List.map_map, gather]
  congr 2
  funext name
  rw [Function.comp_apply, collapse.eq_def]
  cases valuesOf name children with
  | nil => rfl
  | cons value rest => cases rest <;> rfl

/-! ## Elements -/

namespace Element

/-- The name of an element. -/
def tag : Element → String
  | node name _ _ => name

/-- The children of an element. -/
def children : Element → List Element
  | node _ _ children => children

theorem toMembers_eq (elements : List Element) :
    toMembers elements = elements.map fun element => (element.tag, element.toValue) := by
  induction elements with
  | nil => rfl
  | cons element rest ih =>
      cases element with
      | node name text children =>
          rw [toMembers, List.map_cons, ih]
          rfl

/-- The values of the elements of a name, in their order. -/
def valuesOf (name : String) (elements : List Element) : List Value :=
  (elements.filter fun element => element.tag == name).map toValue

theorem valuesOf_toMembers (name : String) (elements : List Element) :
    Xml.valuesOf name (toMembers elements) = valuesOf name elements := by
  rw [Xml.valuesOf, toMembers_eq, List.filter_map, List.map_map]
  rfl

/-- The value of an element gives under a name what its children of that name are. -/
theorem get?_toValue (element : Element) (name : String) :
    element.toValue.get? name = grouped (valuesOf name element.children) := by
  cases element with
  | node _ text children =>
      cases children with
      | nil => rfl
      | cons first rest =>
          rw [toValue, get?_objectOf, valuesOf_toMembers]
          rfl

/-- The value of an element is no array. -/
theorem toValue_ne_array (element : Element) (items : List Value) :
    element.toValue ≠ .array items := by
  cases element with
  | node _ text children => cases children <;> exact nofun

/-- Items that are written as members are read as the same items, however many they are. -/
theorem members_toValue {element : Element}
    (all : ∀ child ∈ element.children, child.tag = "member") :
    CloudFormation.members (some element.toValue) = element.children.map toValue := by
  have values : valuesOf "member" element.children = element.children.map toValue := by
    rw [valuesOf, List.filter_eq_self.2 fun child mem => beq_iff_eq.2 (all child mem)]
  rw [CloudFormation.members, Option.bind_some, get?_toValue, values]
  match element.children with
  | [] => rfl
  | [child] =>
      rw [List.map_cons, List.map_nil]
      have single := child.toValue_ne_array
      generalize child.toValue = value at single
      cases value with
      | array items => exact absurd rfl (single items)
      | _ => rfl
  | _ :: _ :: _ => rfl

end Element

end Xml

end StackDeploy
