/-
# Encoded pairs

A row of encoded pairs, a form or a query, is read by splitting it at the ampersands, each part at
its single equals sign, and decoding both sides. Reading gives back the pairs that were encoded,
since encoded texts hold neither sign.
-/

import StackDeploy.Proofs.Text.Percent
import StackDeploy.Proofs.Text.Splitting
import StackDeploy.Signing.Canonical

namespace StackDeploy.Signing

open Text (splitAt joinWith)

/-- Reads a pair; absent if there is not exactly one equals sign, or one side is not encoded. -/
def readPair (part : List Char) : Option (String × String) :=
  match splitAt '=' part with
  | [key, value] => do
    let key ← Text.Percent.decode (String.ofList key)
    let value ← Text.Percent.decode (String.ofList value)
    some (key, value)
  | _ => none

/-- Reads a row of pairs, at least one. -/
def readPairs (text : String) : Option (List (String × String)) :=
  (splitAt '&' text.toList).mapM readPair

variable {s : String}

/-- Neither sign stands in an encoded text. -/
theorem notMem_encode {sign : Char} (joins : sign = '&' ∨ sign = '=') (s : String) :
    sign ∉ (Text.Percent.encode s false).toList := by
  intro mem
  have allowed := Text.Percent.mem_encode mem
  rcases joins with rfl | rfl
  · exact absurd allowed (by decide)
  · exact absurd allowed (by decide)

theorem toList_joinPair (pair : String × String) :
    (joinPair (encodePair pair)).toList =
      (Text.Percent.encode pair.1 false).toList ++
        '=' :: (Text.Percent.encode pair.2 false).toList := by
  rw [joinPair, encodePair, String.toList_append, String.toList_append, List.append_assoc]
  rfl

theorem readPair_joinPair (pair : String × String) :
    readPair (joinPair (encodePair pair)).toList = some pair := by
  have parts : splitAt '=' (joinPair (encodePair pair)).toList =
      [(Text.Percent.encode pair.1 false).toList, (Text.Percent.encode pair.2 false).toList] := by
    rw [toList_joinPair, Text.splitAt_append (notMem_encode (.inr rfl) _),
      Text.splitAt_of_notMem (notMem_encode (.inr rfl) _)]
  rw [readPair, parts]
  dsimp only
  rw [String.ofList_toList, String.ofList_toList, Text.Percent.decode_encode,
    Text.Percent.decode_encode]
  rfl

theorem notMem_joinPair (pair : String × String) :
    '&' ∉ (joinPair (encodePair pair)).toList := by
  rw [toList_joinPair, List.mem_append, List.mem_cons, not_or, not_or]
  exact ⟨notMem_encode (.inl rfl) _, by decide, notMem_encode (.inl rfl) _⟩

/-- Reading a row of encoded pairs gives the pairs. -/
theorem readPairs_intercalate {pairs : List (String × String)} (nonempty : pairs ≠ []) :
    readPairs (String.intercalate "&" (pairs.map fun pair => joinPair (encodePair pair))) =
      some pairs := by
  have parts : splitAt '&'
      (String.intercalate "&" (pairs.map fun pair => joinPair (encodePair pair))).toList =
        pairs.map fun pair => (joinPair (encodePair pair)).toList := by
    rw [show "&" = String.singleton '&' from rfl, Text.toList_intercalate, List.map_map]
    refine Text.splitAt_joinWith ?_ (by simpa using nonempty)
    intro part mem
    obtain ⟨pair, -, rfl⟩ := List.mem_map.1 mem
    exact notMem_joinPair pair
  rw [readPairs, parts]
  clear parts nonempty
  induction pairs with
  | nil => rfl
  | cons pair rest ih =>
      rw [List.map_cons, List.mapM_cons, readPair_joinPair, ih]
      rfl

end StackDeploy.Signing
