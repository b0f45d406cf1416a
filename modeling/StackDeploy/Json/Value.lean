/-
# JSON values

Property bags, mappings, conditions and decoded answers are dynamic values. An object keeps its
members in the order in which their keys first appeared and holds every key once; setting a key
that is there keeps its place and replaces its value.
-/

import StackDeploy.Json.Number

namespace StackDeploy.Json

/-- A dynamic value. -/
inductive Value where
  | null
  | bool (value : Bool)
  | number (value : Number)
  | string (value : String)
  | array (items : List Value)
  | object (members : List (String × Value))
deriving Inhabited

/-- The members of an object in order. -/
abbrev Members := List (String × Value)

namespace Members

/-- The value of a key. -/
def get? (key : String) : Members → Option Value
  | [] => none
  | (other, value) :: rest => if other = key then some value else get? key rest

/-- The members with a key set; a new key goes to the end. -/
def put (key : String) (value : Value) : Members → Members
  | [] => [(key, value)]
  | (other, kept) :: rest =>
    if other = key then (other, value) :: rest else (other, kept) :: put key value rest

/-- The members of a list of settings made one after the other. -/
def ofList (settings : List (String × Value)) : Members :=
  settings.foldl (fun members setting => put setting.1 setting.2 members) []

end Members

namespace Value

mutual

/-- Decidable equality of values, which compares objects in order. -/
def decEq : (a b : Value) → Decidable (a = b)
  | .null, .null => isTrue rfl
  | .bool a, .bool b => if h : a = b then isTrue (by rw [h]) else isFalse (by simp [h])
  | .number a, .number b => if h : a = b then isTrue (by rw [h]) else isFalse (by simp [h])
  | .string a, .string b => if h : a = b then isTrue (by rw [h]) else isFalse (by simp [h])
  | .array a, .array b =>
    match decEqItems a b with
    | isTrue h => isTrue (by rw [h])
    | isFalse h => isFalse (by simp [h])
  | .object a, .object b =>
    match decEqMembers a b with
    | isTrue h => isTrue (by rw [h])
    | isFalse h => isFalse (by simp [h])
  | .null, .bool _ | .null, .number _ | .null, .string _ | .null, .array _ | .null, .object _
  | .bool _, .null | .bool _, .number _ | .bool _, .string _ | .bool _, .array _
  | .bool _, .object _ | .number _, .null | .number _, .bool _ | .number _, .string _
  | .number _, .array _ | .number _, .object _ | .string _, .null | .string _, .bool _
  | .string _, .number _ | .string _, .array _ | .string _, .object _ | .array _, .null
  | .array _, .bool _ | .array _, .number _ | .array _, .string _ | .array _, .object _
  | .object _, .null | .object _, .bool _ | .object _, .number _ | .object _, .string _
  | .object _, .array _ => isFalse (by simp)

/-- Decidable equality of lists of values. -/
def decEqItems : (a b : List Value) → Decidable (a = b)
  | [], [] => isTrue rfl
  | [], _ :: _ => isFalse (by simp)
  | _ :: _, [] => isFalse (by simp)
  | x :: xs, y :: ys =>
    match decEq x y with
    | isTrue h =>
      match decEqItems xs ys with
      | isTrue hs => isTrue (by rw [h, hs])
      | isFalse hs => isFalse (by simp [hs])
    | isFalse h => isFalse (by simp [h])

/-- Decidable equality of member lists. -/
def decEqMembers : (a b : List (String × Value)) → Decidable (a = b)
  | [], [] => isTrue rfl
  | [], _ :: _ => isFalse (by simp)
  | _ :: _, [] => isFalse (by simp)
  | (k, x) :: xs, (l, y) :: ys =>
    if hk : k = l then
      match decEq x y with
      | isTrue h =>
        match decEqMembers xs ys with
        | isTrue hs => isTrue (by rw [hk, h, hs])
        | isFalse hs => isFalse (by simp [hs])
      | isFalse h => isFalse (by simp [h])
    else isFalse (by simp [hk])

end

instance : DecidableEq Value := decEq

/-- The text of a string value. -/
def string? : Value → Option String
  | .string s => some s
  | _ => none

/-- The members of an object value. -/
def members? : Value → Option Members
  | .object members => some members
  | _ => none

/-- The value of a key of an object; absent for every other value. -/
def get? (key : String) : Value → Option Value
  | .object members => Members.get? key members
  | _ => none

end Value

end StackDeploy.Json
