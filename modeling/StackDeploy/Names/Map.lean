/-
# Sections: maps from names

A section of a template maps names to declarations and is always written in the order of the
names. It is kept as a list of entries whose names strictly increase, so a section is
determined by what it answers to a look-up. A later entry for a name replaces an earlier one.
-/

namespace StackDeploy

/-- A finite map from names, listed in increasing order of the names. -/
structure NameMap (α : Type) where
  entries : List (String × α)
  sorted : (entries.map Prod.fst).Pairwise (· < ·)
deriving DecidableEq

namespace NameMap

variable {α β : Type}

/-- Insertion into a list with increasing names; an entry of that name is replaced. -/
def insertEntry (name : String) (value : α) : List (String × α) → List (String × α)
  | [] => [(name, value)]
  | (other, kept) :: rest =>
    if name < other then (name, value) :: (other, kept) :: rest
    else if name = other then (name, value) :: rest
    else (other, kept) :: insertEntry name value rest

theorem mem_keys_insertEntry {name other : String} {value : α} {entries : List (String × α)} :
    other ∈ (insertEntry name value entries).map Prod.fst ↔
      other = name ∨ other ∈ entries.map Prod.fst := by
  induction entries with
  | nil => simp [insertEntry]
  | cons first rest ih =>
    obtain ⟨key, kept⟩ := first
    simp only [insertEntry]
    split
    · simp
    · split
      · rename_i same
        simp [same]
      · simp only [List.map_cons, List.mem_cons, ih]
        constructor
        · rintro (h | h | h) <;> simp [h]
        · rintro (h | h | h) <;> simp [h]

theorem sorted_insertEntry {name : String} {value : α} {entries : List (String × α)}
    (h : (entries.map Prod.fst).Pairwise (· < ·)) :
    ((insertEntry name value entries).map Prod.fst).Pairwise (· < ·) := by
  induction entries with
  | nil => simp [insertEntry]
  | cons first rest ih =>
    obtain ⟨key, kept⟩ := first
    simp only [List.map_cons] at h
    have hkey : ∀ other ∈ rest.map Prod.fst, key < other :=
      fun _ mem => List.rel_of_pairwise_cons h mem
    simp only [insertEntry]
    split
    · rename_i lt
      refine List.Pairwise.cons ?_ h
      intro other mem
      rcases List.mem_cons.1 mem with rfl | mem
      · exact lt
      · exact String.lt_trans lt (hkey other mem)
    · split
      · rename_i same
        subst same
        exact h
      · rename_i notLt notEq
        refine List.Pairwise.cons ?_ (ih h.of_cons)
        intro other mem
        rcases mem_keys_insertEntry.1 mem with rfl | mem
        · exact Std.lt_of_le_of_ne (String.not_lt.1 notLt) (Ne.symm notEq)
        · exact hkey other mem

/-- The map without entries. -/
def empty : NameMap α := ⟨[], List.Pairwise.nil⟩

instance : Inhabited (NameMap α) := ⟨empty⟩

/-- The map with an entry set. -/
def insert (name : String) (value : α) (m : NameMap α) : NameMap α :=
  ⟨insertEntry name value m.entries, sorted_insertEntry m.sorted⟩

/-- The value that a list of entries gives a name. -/
def lookupEntry (name : String) : List (String × α) → Option α
  | [] => none
  | (other, value) :: rest => if other = name then some value else lookupEntry name rest

/-- The value of a name. -/
def get? (m : NameMap α) (name : String) : Option α :=
  lookupEntry name m.entries

/-- Whether a name has an entry. -/
def contains (m : NameMap α) (name : String) : Bool :=
  (m.get? name).isSome

/-- The names, in increasing order. -/
def keys (m : NameMap α) : List String :=
  m.entries.map Prod.fst

/-- Sets the entries of a list one after the other, so the last one for a name stays. -/
def insertAll (entries : List (String × α)) (m : NameMap α) : NameMap α :=
  entries.foldl (fun kept entry => kept.insert entry.1 entry.2) m

/-- The map of a list of entries, the last one for a name winning. -/
def ofList (entries : List (String × α)) : NameMap α :=
  insertAll entries empty

/-- The map with the entries of another one set over its own. -/
def override (m later : NameMap α) : NameMap α :=
  insertAll later.entries m

/-- Whether the map has no entry. -/
def isEmpty (m : NameMap α) : Bool :=
  m.entries.isEmpty

/-- The number of entries. -/
def size (m : NameMap α) : Nat :=
  m.entries.length

/-- The map with every value transformed. -/
def mapValues (f : α → β) (m : NameMap α) : NameMap β :=
  ⟨m.entries.map fun entry => (entry.1, f entry.2), by
    simpa [List.map_map, Function.comp_def] using m.sorted⟩

/-- Whether two maps have the same names and values that a comparison takes for the same. Since
the names are listed once and in order, equal size and inclusion on one side are enough. -/
def sameBy (same : α → α → Bool) (left right : NameMap α) : Bool :=
  left.size == right.size &&
    left.entries.all fun entry =>
      match right.get? entry.1 with
      | some other => same entry.2 other
      | none => false

theorem lookupEntry_insertEntry {name other : String} {value : α} {entries : List (String × α)} :
    lookupEntry other (insertEntry name value entries) =
      if name = other then some value else lookupEntry other entries := by
  induction entries with
  | nil => simp [insertEntry, lookupEntry]
  | cons first rest ih =>
    obtain ⟨key, kept⟩ := first
    simp only [insertEntry]
    split
    · simp [lookupEntry]
    · split
      · rename_i same
        subst same
        by_cases h : name = other <;> simp [lookupEntry, h]
      · rename_i notEq
        by_cases h : key = other
        · subst h
          simp [lookupEntry, notEq]
        · simp [lookupEntry, h, ih]

/-- A look-up after an insertion sees the new entry, and the old ones elsewhere. -/
theorem get?_insert {m : NameMap α} {name other : String} {value : α} :
    (m.insert name value).get? other = if name = other then some value else m.get? other :=
  lookupEntry_insertEntry

theorem mem_keys_iff_contains {m : NameMap α} {name : String} :
    name ∈ m.keys ↔ m.contains name = true := by
  unfold keys contains get?
  induction m.entries with
  | nil => simp [lookupEntry]
  | cons first rest ih =>
    obtain ⟨key, value⟩ := first
    by_cases h : key = name
    · simp [lookupEntry, h]
    · simp only [List.map_cons, List.mem_cons, ih, lookupEntry, h, if_false]
      simp [Ne.symm h]

end NameMap

end StackDeploy
