/-
# Sets of names

Dependencies, references and the parts of a diff are sets of names whose order shows in every
answer. A set is kept as its strictly increasing list of members, in the order of the characters'
code points, which is also the order of the UTF-8 bytes. Two sets with the same members are
therefore equal.
-/

namespace StackDeploy

/-- A finite set of names, listed in increasing order. -/
structure NameSet where
  names : List String
  sorted : names.Pairwise (· < ·)
deriving DecidableEq

namespace NameSet

/-- Insertion into an increasing list; a name that is there already is not repeated. -/
def insertName (name : String) : List String → List String
  | [] => [name]
  | other :: rest =>
    if name < other then name :: other :: rest
    else if name = other then other :: rest
    else other :: insertName name rest

theorem mem_insertName {name other : String} {names : List String} :
    other ∈ insertName name names ↔ other = name ∨ other ∈ names := by
  induction names with
  | nil => simp [insertName]
  | cons first rest ih =>
    simp only [insertName]
    split
    · simp
    · split
      · rename_i same
        simp [same]
      · simp only [List.mem_cons, ih]
        constructor
        · rintro (h | h | h) <;> simp [h]
        · rintro (h | h | h) <;> simp [h]

theorem sorted_insertName {name : String} {names : List String}
    (h : names.Pairwise (· < ·)) : (insertName name names).Pairwise (· < ·) := by
  induction names with
  | nil => simp [insertName]
  | cons first rest ih =>
    have hfirst : ∀ other ∈ rest, first < other := fun _ mem => List.rel_of_pairwise_cons h mem
    simp only [insertName]
    split
    · rename_i lt
      refine List.Pairwise.cons ?_ h
      intro other mem
      rcases List.mem_cons.1 mem with rfl | mem
      · exact lt
      · exact String.lt_trans lt (hfirst other mem)
    · split
      · exact h
      · rename_i notLt notEq
        refine List.Pairwise.cons ?_ (ih h.of_cons)
        intro other mem
        rcases mem_insertName.1 mem with rfl | mem
        · exact Std.lt_of_le_of_ne (String.not_lt.1 notLt) (Ne.symm notEq)
        · exact hfirst other mem

theorem sorted_nil : ([] : List String).Pairwise (· < ·) := List.Pairwise.nil

/-- The set without members. -/
def empty : NameSet := ⟨[], sorted_nil⟩

instance : Inhabited NameSet := ⟨empty⟩

/-- The set with one more member. -/
def insert (name : String) (s : NameSet) : NameSet :=
  ⟨insertName name s.names, sorted_insertName s.sorted⟩

/-- The set of the names of a list. -/
def ofList (names : List String) : NameSet :=
  names.foldl (fun s name => s.insert name) empty

/-- The members of either of two sets. -/
def union (s t : NameSet) : NameSet :=
  t.names.foldl (fun u name => u.insert name) s

/-- Whether a name is a member. -/
def contains (s : NameSet) (name : String) : Bool :=
  s.names.contains name

/-- Whether the set has no member. -/
def isEmpty (s : NameSet) : Bool :=
  s.names.isEmpty

/-- The number of members. -/
def size (s : NameSet) : Nat :=
  s.names.length

/-- The set without a name. -/
def erase (name : String) (s : NameSet) : NameSet :=
  ⟨s.names.filter fun other => other ≠ name, s.sorted.filter _⟩

/-- The members that satisfy a test. -/
def filter (keep : String → Bool) (s : NameSet) : NameSet :=
  ⟨s.names.filter keep, s.sorted.filter keep⟩

theorem contains_iff {s : NameSet} {name : String} :
    s.contains name = true ↔ name ∈ s.names := by
  simp [contains]

theorem mem_insert {s : NameSet} {name other : String} :
    other ∈ (s.insert name).names ↔ other = name ∨ other ∈ s.names :=
  mem_insertName

theorem mem_foldl_insert {names : List String} {s : NameSet} {other : String} :
    other ∈ (names.foldl (fun u name => u.insert name) s).names ↔
      other ∈ s.names ∨ other ∈ names := by
  induction names generalizing s with
  | nil => simp
  | cons first rest ih =>
    simp only [List.foldl_cons, ih, mem_insert, List.mem_cons]
    constructor
    · rintro ((h | h) | h) <;> simp [h]
    · rintro (h | h | h) <;> simp [h]

theorem mem_ofList {names : List String} {other : String} :
    other ∈ (ofList names).names ↔ other ∈ names := by
  simp [ofList, mem_foldl_insert, empty]

theorem mem_union {s t : NameSet} {other : String} :
    other ∈ (s.union t).names ↔ other ∈ s.names ∨ other ∈ t.names :=
  mem_foldl_insert

end NameSet

end StackDeploy
