/-
# Cutting texts

Small functions that look for a character or a phrase in a text. All of them work on
lists of characters, return what they did not consume, and never fail: a missing separator
is an absent result.
-/

namespace StackDeploy.Text

/-- The parts before and after the first occurrence of a character. -/
def cutFirst (sep : Char) : List Char → Option (List Char × List Char)
  | [] => none
  | c :: rest =>
    if c = sep then some ([], rest)
    else (cutFirst sep rest).map fun (before, after) => (c :: before, after)

/-- The parts before and after the last occurrence of a character. -/
def cutLast (sep : Char) : List Char → Option (List Char × List Char)
  | [] => none
  | c :: rest =>
    match cutLast sep rest with
    | some (before, after) => some (c :: before, after)
    | none => if c = sep then some ([], rest) else none

/-- The parts before and after the first occurrence of a phrase. -/
def cutPhrase (phrase : List Char) : List Char → Option (List Char × List Char)
  | [] => if phrase.isEmpty then some ([], []) else none
  | c :: rest =>
    if phrase.isPrefixOf (c :: rest) then some ([], (c :: rest).drop phrase.length)
    else (cutPhrase phrase rest).map fun (before, after) => (c :: before, after)

/-- The pieces of a text between the occurrences of a character. -/
def splitAt (sep : Char) : List Char → List (List Char)
  | [] => [[]]
  | c :: rest =>
    if c = sep then [] :: splitAt sep rest
    else
      match splitAt sep rest with
      | [] => [[c]]
      | piece :: pieces => (c :: piece) :: pieces

/-- Pieces joined by a character. -/
def joinWith (sep : Char) : List (List Char) → List Char
  | [] => []
  | [piece] => piece
  | piece :: rest => piece ++ sep :: joinWith sep rest

/-- Whether a string starts with a given text. -/
def startsWith (s start : String) : Bool :=
  start.toList.isPrefixOf s.toList

/-- Whether a string ends with a given text. -/
def endsWith (s ending : String) : Bool :=
  ending.toList.isSuffixOf s.toList

/-- Whether a string contains a phrase. -/
def contains (s phrase : String) : Bool :=
  (cutPhrase phrase.toList s.toList).isSome

/-- The decimal digits of a number. -/
def decimal (n : Nat) : String :=
  String.ofList (Nat.toDigits 10 n)

/-- The decimal digits of a number, with zeros in front up to a width. -/
def decimalPadded (width n : Nat) : String :=
  let digits := Nat.toDigits 10 n
  String.ofList (List.replicate (width - digits.length) '0' ++ digits)

/-- The decimal spelling of an integer, with a minus sign when it is negative. -/
def decimalInt : Int → String
  | .ofNat n => decimal n
  | .negSucc n => "-" ++ decimal (n + 1)

/-- Cutting at a character and joining again loses nothing. -/
theorem eq_append_of_cutFirst {sep : Char} {cs before after : List Char}
    (h : cutFirst sep cs = some (before, after)) : cs = before ++ sep :: after := by
  induction cs generalizing before with
  | nil => simp [cutFirst] at h
  | cons c rest ih =>
    by_cases hc : c = sep
    · simp only [cutFirst, hc, if_true, Option.some.injEq, Prod.mk.injEq] at h
      simp [hc, ← h.1, ← h.2]
    · simp only [cutFirst, hc, if_false, Option.map_eq_some_iff] at h
      obtain ⟨⟨b, a⟩, found, same⟩ := h
      obtain ⟨rfl, rfl⟩ := Prod.mk.inj same
      rw [ih found]
      rfl

/-- A text always has a piece. -/
theorem splitAt_ne_nil (sep : Char) (cs : List Char) : splitAt sep cs ≠ [] := by
  cases cs with
  | nil => simp [splitAt]
  | cons c rest =>
    simp only [splitAt]
    split
    · simp
    · split <;> simp

/-- The pieces of a text joined again give the text. -/
theorem joinWith_splitAt (sep : Char) (cs : List Char) : joinWith sep (splitAt sep cs) = cs := by
  induction cs with
  | nil => rfl
  | cons c rest ih =>
    have some_piece := splitAt_ne_nil sep rest
    cases found : splitAt sep rest with
    | nil => exact absurd found some_piece
    | cons piece pieces =>
      rw [found] at ih
      by_cases hc : c = sep
      · simp [splitAt, hc, found, joinWith, ih]
      · simp only [splitAt, if_neg hc, found]
        cases pieces with
        | nil => simpa [joinWith] using ih
        | cons next others => simpa [joinWith] using ih

end StackDeploy.Text
