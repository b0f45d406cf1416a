/-
# Percent-encoded texts

An encoded text consists of unreserved characters and escapes, so it holds none of the characters
that are used to join such texts. It is decoded byte by byte, each byte from its own character or
escape, and the bytes of a text are those of no other one.
-/

import StackDeploy.Text.Percent

namespace StackDeploy.Text

theorem hexValue_upperHex : ∀ n < 16, hexValue (upperHex n) = some n := by
  decide

theorem isUnreserved_upperHex : ∀ n < 16, isUnreserved (upperHex n) = true := by
  decide

theorem toNat_lt_of_isAlphanum {c : Char} (alphanumeric : c.isAlphanum = true) : c.toNat < 128 := by
  rcases Bool.or_eq_true_iff.1 alphanumeric with letter | digit
  · rcases Bool.or_eq_true_iff.1 letter with upper | lower
    · have bound : c.toNat ≤ 90 := (of_decide_eq_true upper).2
      omega
    · have bound : c.toNat ≤ 122 := of_decide_eq_true (Bool.and_eq_true_iff.1 lower).2
      omega
  · have bound : c.toNat ≤ 57 := of_decide_eq_true (Bool.and_eq_true_iff.1 digit).2
    omega

/-- Unreserved characters are ASCII. -/
theorem toNat_lt_of_isUnreserved {c : Char} (unreserved : isUnreserved c = true) :
    c.toNat < 128 := by
  simp only [isUnreserved, Bool.or_eq_true, beq_iff_eq] at unreserved
  rcases unreserved with (((alphanumeric | rfl) | rfl) | rfl) | rfl
  · exact toNat_lt_of_isAlphanum alphanumeric
  all_goals decide

theorem bytes_eq (s : String) : bytes s = s.toByteArray.data.toList := by
  rw [← String.utf8Encode_toList, List.utf8Encode, List.data_toByteArray]
  rfl

/-- The character of a byte has its number. -/
theorem toNat_ofNat_toNat (b : UInt8) : (Char.ofNat b.toNat).toNat = b.toNat := by
  have valid : b.toNat.isValidChar := .inl (Nat.lt_trans b.toNat_lt (by decide))
  rw [Char.ofNat, dif_pos valid]
  rfl

/-- The bytes of a text tell the text. -/
theorem fromUTF8?_bytes (s : String) : String.fromUTF8? ⟨(bytes s).toArray⟩ = some s := by
  have same : (⟨(bytes s).toArray⟩ : ByteArray) = s.toByteArray := by
    rw [bytes_eq]
  rw [same, String.fromUTF8?, dif_pos s.isValidUTF8]
  rfl

theorem bytes_inj {s t : String} (same : bytes s = bytes t) : s = t := by
  have texts := fromUTF8?_bytes s
  rw [same, fromUTF8?_bytes] at texts
  exact (Option.some_inj.1 texts).symm

namespace Percent

variable {keepSlash : Bool}

theorem escape_eq (b : UInt8) :
    escape b = ['%', upperHex (b.toNat / 16), upperHex (b.toNat % 16)] := rfl

theorem half_lt (b : UInt8) : b.toNat / 16 < 16 ∧ b.toNat % 16 < 16 := by
  have bound := b.toNat_lt
  omega

/-- What encoded bytes consist of. -/
theorem mem_encodeByte {c : Char} {b : UInt8} (mem : c ∈ encodeByte keepSlash b) :
    isUnreserved c = true ∨ c = '%' ∨ keepSlash = true ∧ c = '/' := by
  unfold encodeByte at mem
  dsimp only at mem
  split at mem
  next kept =>
    rw [List.mem_singleton.1 mem]
    simp only [Bool.or_eq_true, Bool.and_eq_true, beq_iff_eq] at kept
    exact kept.imp_right .inr
  · simp only [escape_eq, List.mem_cons, List.not_mem_nil, or_false] at mem
    rcases mem with rfl | rfl | rfl
    · exact .inr (.inl rfl)
    · exact .inl (isUnreserved_upperHex _ (half_lt b).1)
    · exact .inl (isUnreserved_upperHex _ (half_lt b).2)

theorem mem_encode {c : Char} {s : String} (mem : c ∈ (encode s keepSlash).toList) :
    isUnreserved c = true ∨ c = '%' ∨ keepSlash = true ∧ c = '/' := by
  rw [encode, String.toList_ofList] at mem
  obtain ⟨b, -, inside⟩ := List.mem_flatMap.1 mem
  exact mem_encodeByte inside

/-- An escape stands for its byte. -/
theorem decodeBytes_escape (b : UInt8) (rest : List Char) :
    decodeBytes (escape b ++ rest) = (decodeBytes rest).map (b :: ·) := by
  obtain ⟨high, low⟩ := half_lt b
  have whole : UInt8.ofNat (16 * (b.toNat / 16) + b.toNat % 16) = b := by
    rw [Nat.div_add_mod]
    exact UInt8.ofNat_toNat
  simp only [escape_eq, List.cons_append, List.nil_append, decodeBytes, hexValue_upperHex _ high,
    hexValue_upperHex _ low, whole]

/-- A character that is no percent sign stands for itself. -/
theorem decodeBytes_cons {c : Char} (plain : c ≠ '%') (ascii : c.toNat < 128) (rest : List Char) :
    decodeBytes (c :: rest) = (decodeBytes rest).map (UInt8.ofNat c.toNat :: ·) := by
  rw [decodeBytes]
  · rw [if_neg]
    rintro (sign | large)
    · exact plain sign
    · exact Nat.not_lt.2 large ascii
  · intro high low later sign
    exact absurd sign plain

theorem decodeBytes_encodeByte (b : UInt8) (rest : List Char) :
    decodeBytes (encodeByte keepSlash b ++ rest) = (decodeBytes rest).map (b :: ·) := by
  unfold encodeByte
  dsimp only
  split
  next kept =>
    have number := toNat_ofNat_toNat b
    simp only [Bool.or_eq_true, Bool.and_eq_true, beq_iff_eq] at kept
    have plain : Char.ofNat b.toNat ≠ '%' := by
      rintro sign
      rw [sign] at kept
      revert kept
      cases keepSlash <;> decide
    have ascii : (Char.ofNat b.toNat).toNat < 128 := by
      rcases kept with unreserved | ⟨-, slash⟩
      · exact toNat_lt_of_isUnreserved unreserved
      · rw [slash]
        decide
    rw [List.singleton_append, decodeBytes_cons plain ascii, number, UInt8.ofNat_toNat]
  · exact decodeBytes_escape b rest

theorem decodeBytes_flatMap (bs : List UInt8) :
    decodeBytes (bs.flatMap (encodeByte keepSlash)) = some bs := by
  induction bs with
  | nil => rfl
  | cons b rest ih =>
      rw [List.flatMap_cons, decodeBytes_encodeByte, ih]
      rfl

/-- Decoding an encoded text gives the text. -/
theorem decode_encode (s : String) (keepSlash : Bool) : decode (encode s keepSlash) = some s := by
  rw [decode, encode, String.toList_ofList, decodeBytes_flatMap]
  exact fromUTF8?_bytes s

/-- An encoded text tells the text that was encoded. -/
theorem encode_inj {s t : String} : encode s keepSlash = encode t keepSlash ↔ s = t := by
  refine ⟨fun same => ?_, fun same => congrArg (encode · keepSlash) same⟩
  have texts := decode_encode s keepSlash
  rw [same, decode_encode] at texts
  exact (Option.some_inj.1 texts).symm

end Percent

end StackDeploy.Text
