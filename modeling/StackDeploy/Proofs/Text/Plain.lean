/-
# Plain texts

Percent-encoding keeps the plain characters, which stand for themselves, and writes every other byte
as a percent sign with two upper-case digits. A text is its own encoded form exactly if all its
characters are plain: no other character is kept by chance, since nothing that is encoded gets
shorter and the percent sign itself is not kept.
-/

import StackDeploy.Proofs.Text.EncodedSegments

namespace StackDeploy.Text

/-- A hexadecimal digit in upper case. -/
def isUpperHexDigit (c : Char) : Bool :=
  c.isDigit || ('A' ≤ c && c ≤ 'F')

theorem isUpperHexDigit_upperHex : ∀ n < 16, isUpperHexDigit (upperHex n) = true := by
  decide

namespace Percent

/-- A character that stands for itself in an encoded text. -/
def IsPlainChar (keepSlash : Bool) (c : Char) : Prop :=
  isUnreserved c = true ∨ keepSlash = true ∧ c = '/'

instance (keepSlash : Bool) (c : Char) : Decidable (IsPlainChar keepSlash c) :=
  inferInstanceAs (Decidable (_ ∨ _))

/-- A text whose characters all stand for themselves. -/
def IsPlain (keepSlash : Bool) (s : String) : Prop :=
  ∀ c ∈ s.toList, IsPlainChar keepSlash c

/-- The form of encoded texts: plain characters, and percent signs with two upper-case digits. -/
inductive IsEncoded (keepSlash : Bool) : List Char → Prop
  | nil : IsEncoded keepSlash []
  | plain {c : Char} {rest : List Char} (plain : IsPlainChar keepSlash c)
      (later : IsEncoded keepSlash rest) : IsEncoded keepSlash (c :: rest)
  | escape {high low : Char} {rest : List Char} (first : isUpperHexDigit high = true)
      (second : isUpperHexDigit low = true) (later : IsEncoded keepSlash rest) :
      IsEncoded keepSlash ('%' :: high :: low :: rest)

variable {keepSlash : Bool} {s : String} {c : Char}

/-! ## The form of encoded texts -/

theorem isEncoded_encodeByte {rest : List Char} (b : UInt8) (later : IsEncoded keepSlash rest) :
    IsEncoded keepSlash (encodeByte keepSlash b ++ rest) := by
  unfold encodeByte
  dsimp only
  split
  next kept =>
    simp only [Bool.or_eq_true, Bool.and_eq_true, beq_iff_eq] at kept
    exact .plain kept later
  next =>
    obtain ⟨high, low⟩ := half_lt b
    exact .escape (isUpperHexDigit_upperHex _ high) (isUpperHexDigit_upperHex _ low) later

theorem isEncoded_encode (s : String) (keepSlash : Bool) :
    IsEncoded keepSlash (encode s keepSlash).toList := by
  rw [encode, String.toList_ofList]
  induction bytes s with
  | nil => exact .nil
  | cons b rest ih =>
      rw [List.flatMap_cons]
      exact isEncoded_encodeByte b ih

/-- A character that is not ASCII becomes several escapes, and so does a percent sign one. -/
example : encode "é/%" true = "%C3%A9/%25" := by
  decide

/-! ## Texts that are their own encoded form -/

theorem toNat_lt_of_isPlainChar (plain : IsPlainChar keepSlash c) : c.toNat < 128 := by
  rcases plain with unreserved | ⟨-, rfl⟩
  · exact toNat_lt_of_isUnreserved unreserved
  · decide

theorem encodeByte_ne_nil (b : UInt8) : encodeByte keepSlash b ≠ [] := by
  unfold encodeByte
  dsimp only
  split <;> exact List.cons_ne_nil _ _

theorem encodeChars_singleton_ne_nil (c : Char) : encodeChars keepSlash [c] ≠ [] := by
  rw [encodeChars, List.flatMap_singleton, Ne, List.flatMap_eq_nil_iff]
  intro absent
  obtain ⟨b, mem⟩ := List.exists_mem_of_length_pos
    (String.length_utf8EncodeChar c ▸ c.utf8Size_pos)
  exact encodeByte_ne_nil b (absent b mem)

/-- A character is its own encoded form exactly if it is plain. -/
theorem encodeChars_singleton_eq_self_iff :
    encodeChars keepSlash [c] = [c] ↔ IsPlainChar keepSlash c := by
  constructor
  · intro same
    have mem : c ∈ encodeChars keepSlash [c] := by
      rw [same]
      exact List.mem_singleton_self c
    rcases mem_encodeChars mem with unreserved | rfl | slash
    · exact .inl unreserved
    · -- the percent sign is a character of encoded texts, but not of its own form
      cases keepSlash <;> cases same
    · exact .inr slash
  · intro plain
    have ascii := toNat_lt_of_isPlainChar plain
    revert plain
    cases keepSlash
    · exact forall_of_ascii ascii (by decide)
    · exact forall_of_ascii ascii (by decide)

/-- A text is its own encoded form exactly if it is plain. -/
theorem encode_eq_self_iff : encode s keepSlash = s ↔ IsPlain keepSlash s := by
  have pieces : encodeChars keepSlash s.toList =
      s.toList.flatMap fun c => encodeChars keepSlash [c] := by
    simp [encodeChars]
  rw [← String.toList_inj, toList_encode, pieces,
    flatMap_eq_self_iff fun c => encodeChars_singleton_ne_nil c]
  exact forall₂_congr fun c _ => encodeChars_singleton_eq_self_iff

/-- An encoded text is plain only if nothing in it was escaped. -/
theorem isPlain_encode_iff : IsPlain keepSlash (encode s keepSlash) ↔ IsPlain keepSlash s :=
  calc IsPlain keepSlash (encode s keepSlash)
    _ ↔ encode (encode s keepSlash) keepSlash = encode s keepSlash := encode_eq_self_iff.symm
    _ ↔ encode s keepSlash = s := encode_inj
    _ ↔ IsPlain keepSlash s := encode_eq_self_iff

end Percent

end StackDeploy.Text
