/-
# Canonical queries

A canonical query lists its pairs in the order of their encoded keys, and pairs of one key in the
order of their encoded values. In this order two pairs that may each stand before the other are the
same, so the query does not depend on the order in which its pairs were given. It depends on nothing
else either: the pairs can be read from it, each as often as it was given, in the order in which
they are written. The empty text stands for no pairs, since a pair of empty texts is written as an
equals sign.
-/

import StackDeploy.Proofs.Signing.Pairs

namespace StackDeploy.Signing

variable {query other : List (String × String)}

/-! ## The order of encoded pairs -/

theorem pairLe_iff {a b : String × String} :
    pairLe a b = true ↔ a.1 < b.1 ∨ a.1 = b.1 ∧ a.2 ≤ b.2 := by
  simp [pairLe]

theorem pairLe_trans (a b c : String × String) (first : pairLe a b = true)
    (second : pairLe b c = true) : pairLe a c = true := by
  rw [pairLe_iff] at first second ⊢
  rcases first with below | ⟨same, below⟩ <;> rcases second with below' | ⟨same', below'⟩
  · exact .inl (String.lt_trans below below')
  · exact .inl (same' ▸ below)
  · exact .inl (same ▸ below')
  · exact .inr ⟨same.trans same', String.le_trans below below'⟩

theorem pairLe_total (a b : String × String) : (pairLe a b || pairLe b a) = true := by
  rw [Bool.or_eq_true, pairLe_iff, pairLe_iff]
  by_cases below : a.1 < b.1
  · exact .inl (.inl below)
  · by_cases above : b.1 < a.1
    · exact .inr (.inl above)
    · have same : a.1 = b.1 := String.le_antisymm (String.not_lt.1 above) (String.not_lt.1 below)
      exact (String.le_total a.2 b.2).imp (fun le => .inr ⟨same, le⟩) fun le => .inr ⟨same.symm, le⟩

theorem pairLe_antisymm {a b : String × String} (first : pairLe a b = true)
    (second : pairLe b a = true) : a = b := by
  rw [pairLe_iff] at first second
  rcases first with below | ⟨same, below⟩ <;> rcases second with below' | ⟨same', below'⟩
  · exact absurd below' (String.lt_asymm below)
  · exact absurd (same' ▸ below) (String.lt_irrefl _)
  · exact absurd (same ▸ below') (String.lt_irrefl _)
  · exact Prod.ext same (String.le_antisymm below below')

theorem pairwise_mergeSort_pairLe (pairs : List (String × String)) :
    (pairs.mergeSort pairLe).Pairwise fun a b => pairLe a b = true :=
  List.pairwise_mergeSort pairLe_trans pairLe_total pairs

/-! ## The pairs of a query -/

/-- The pairs of a query in the order in which they are written. -/
def arrangedPairs (query : List (String × String)) : List (String × String) :=
  query.mergeSort fun a b => pairLe (encodePair a) (encodePair b)

theorem arrangedPairs_perm (query : List (String × String)) : (arrangedPairs query).Perm query :=
  List.mergeSort_perm query _

theorem map_encodePair_arrangedPairs (query : List (String × String)) :
    (arrangedPairs query).map encodePair = (query.map encodePair).mergeSort pairLe :=
  List.map_mergeSort fun _ _ _ _ => rfl

theorem canonicalQuery_eq (query : List (String × String)) :
    canonicalQuery query = String.intercalate "&"
      ((arrangedPairs query).map fun pair => joinPair (encodePair pair)) := by
  rw [canonicalQuery, ← map_encodePair_arrangedPairs, List.map_map]
  rfl

/-- The characters of a canonical query are those of encoded texts and the two signs that join
them. -/
theorem mem_canonicalQuery {c : Char} (mem : c ∈ (canonicalQuery query).toList) :
    Text.isUnreserved c = true ∨ c = '%' ∨ c = '&' ∨ c = '=' := by
  have encoded {s : String} (inside : c ∈ (Text.Percent.encode s false).toList) :
      Text.isUnreserved c = true ∨ c = '%' ∨ c = '&' ∨ c = '=' := by
    rcases Text.Percent.mem_encode inside with unreserved | percent | ⟨kept, -⟩
    · exact .inl unreserved
    · exact .inr (.inl percent)
    · cases kept
  rw [canonicalQuery_eq, show "&" = String.singleton '&' from rfl, Text.toList_intercalate,
    List.map_map] at mem
  rcases Text.mem_joinWith mem with rfl | ⟨piece, among, inside⟩
  · exact .inr (.inr (.inl rfl))
  · obtain ⟨pair, -, rfl⟩ := List.mem_map.1 among
    rw [Function.comp_apply, toList_joinPair, List.mem_append, List.mem_cons] at inside
    rcases inside with key | rfl | value
    · exact encoded key
    · exact .inr (.inr (.inr rfl))
    · exact encoded value

/-- The pairs of a query that has some are read from its canonical form. -/
theorem readPairs_canonicalQuery (nonempty : query ≠ []) :
    readPairs (canonicalQuery query) = some (arrangedPairs query) := by
  rw [canonicalQuery_eq]
  refine readPairs_intercalate fun none => nonempty ?_
  exact List.perm_nil.1 (none ▸ (arrangedPairs_perm query).symm)

theorem canonicalQuery_eq_empty_iff : canonicalQuery query = "" ↔ query = [] := by
  constructor
  · intro blank
    refine Decidable.byContradiction fun nonempty => ?_
    have read := readPairs_canonicalQuery nonempty
    rw [blank] at read
    cases read
  · rintro rfl
    simp [canonicalQuery]

/-! ## Reading a query -/

/-- Reads a query; the empty text has no pairs. -/
def readQuery (text : String) : Option (List (String × String)) :=
  if text.isEmpty then some [] else readPairs text

theorem readQuery_canonicalQuery (query : List (String × String)) :
    readQuery (canonicalQuery query) = some (arrangedPairs query) := by
  rw [readQuery]
  split
  next empty =>
    rw [canonicalQuery_eq_empty_iff.1 (String.isEmpty_iff.1 empty)]
    simp [arrangedPairs]
  next given =>
    refine readPairs_canonicalQuery fun none => given ?_
    rw [String.isEmpty_iff, canonicalQuery_eq_empty_iff, none]

/-- The canonical form of a query tells its pairs, and does not tell the order in which they were
given. -/
theorem canonicalQuery_eq_iff_perm :
    canonicalQuery query = canonicalQuery other ↔ query.Perm other := by
  constructor
  · intro same
    have read := readQuery_canonicalQuery query
    rw [same, readQuery_canonicalQuery, Option.some_inj] at read
    exact (arrangedPairs_perm query).symm.trans (read ▸ arrangedPairs_perm other)
  · intro perm
    have arranged : ((query.map encodePair).mergeSort pairLe).Perm
        ((other.map encodePair).mergeSort pairLe) :=
      (List.mergeSort_perm _ _).trans
        ((perm.map encodePair).trans (List.mergeSort_perm _ _).symm)
    rw [canonicalQuery, canonicalQuery, arranged.eq_of_pairwise (fun _ _ _ _ => pairLe_antisymm)
      (pairwise_mergeSort_pairLe _) (pairwise_mergeSort_pairLe _)]

/-- A pair stands before another one by its encoded key, or by its encoded value if the keys are the
same. -/
def EncodedLe (a b : String × String) : Prop :=
  Text.Percent.encode a.1 false < Text.Percent.encode b.1 false ∨
    Text.Percent.encode a.1 false = Text.Percent.encode b.1 false ∧
      Text.Percent.encode a.2 false ≤ Text.Percent.encode b.2 false

theorem pairwise_arrangedPairs (query : List (String × String)) :
    (arrangedPairs query).Pairwise EncodedLe := by
  have sorted : ((arrangedPairs query).map encodePair).Pairwise fun a b => pairLe a b = true := by
    rw [map_encodePair_arrangedPairs]
    exact pairwise_mergeSort_pairLe _
  rw [List.pairwise_map] at sorted
  exact sorted.imp pairLe_iff.1

/-- A canonical query tells its pairs and how often each was given, but not their order: it is the
same text exactly for rearranged pairs, and it is read as the pairs in their encoded order. -/
theorem canonicalQuery_tells_exactly_pairs (query other : List (String × String)) :
    (canonicalQuery query = canonicalQuery other ↔ query.Perm other) ∧
      ∃ pairs, readQuery (canonicalQuery query) = some pairs ∧ pairs.Perm query ∧
        pairs.Pairwise EncodedLe :=
  ⟨canonicalQuery_eq_iff_perm, arrangedPairs query, readQuery_canonicalQuery query,
    arrangedPairs_perm query, pairwise_arrangedPairs query⟩

end StackDeploy.Signing
