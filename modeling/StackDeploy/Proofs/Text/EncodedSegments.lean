/-
# Encoded paths

A path is encoded character by character, so the segments of an encoded path are those of the path
in encoded form: the bytes of a character are a slash only if it is one. And what an encoded text
stands for tells what was encoded, so an encoded text that reads as dots, escaped or not, comes from
dots.
-/

import StackDeploy.Proofs.Text.Percent
import StackDeploy.Proofs.Text.Splitting

namespace StackDeploy.Text

/-! ## Segments of an encoded path -/

/-- What holds of every ASCII character holds of a character that is one. -/
@[elab_as_elim]
theorem forall_of_ascii {P : Char → Prop} {c : Char} (ascii : c.toNat < 128)
    (all : ∀ n < 128, P (Char.ofNat n)) : P c := by
  rw [← Char.ofNat_toNat c]
  exact all c.toNat ascii

/-- Pieces continue with the first piece of what is appended. -/
theorem exists_splitAt_append {sep : Char} {cs : List Char} (absent : sep ∉ cs) (ds : List Char) :
    ∃ piece pieces, splitAt sep ds = piece :: pieces ∧
      splitAt sep (cs ++ ds) = (cs ++ piece) :: pieces := by
  obtain ⟨piece, pieces, split⟩ := List.exists_cons_of_ne_nil (splitAt_ne_nil sep ds)
  refine ⟨piece, pieces, split, ?_⟩
  induction cs with
  | nil => exact split
  | cons c rest ih =>
      rw [List.mem_cons, not_or] at absent
      rw [List.cons_append, splitAt, if_neg (Ne.symm absent.1), ih absent.2]
      rfl

theorem notMem_of_mem_splitAt {sep : Char} {cs piece : List Char} (mem : piece ∈ splitAt sep cs) :
    sep ∉ piece := by
  induction cs generalizing piece with
  | nil =>
      rw [List.mem_singleton.1 mem]
      exact List.not_mem_nil
  | cons c rest ih =>
      obtain ⟨first, others, split⟩ := List.exists_cons_of_ne_nil (splitAt_ne_nil sep rest)
      rw [split] at ih
      rw [splitAt, split] at mem
      by_cases cut : c = sep
      · rw [if_pos cut] at mem
        rcases List.mem_cons.1 mem with rfl | later
        · exact List.not_mem_nil
        · exact ih later
      · rw [if_neg cut] at mem
        rcases List.mem_cons.1 mem with rfl | later
        · rw [List.mem_cons, not_or]
          exact ⟨Ne.symm cut, ih List.mem_cons_self⟩
        · exact ih (List.mem_cons_of_mem _ later)

namespace Percent

/-- The encoded form of characters. -/
def encodeChars (keepSlash : Bool) (cs : List Char) : List Char :=
  cs.flatMap fun c => (String.utf8EncodeChar c).flatMap (encodeByte keepSlash)

theorem toList_encode (s : String) (keepSlash : Bool) :
    (encode s keepSlash).toList = encodeChars keepSlash s.toList := by
  rw [encode, String.toList_ofList, bytes, encodeChars, List.flatMap_assoc]

theorem mem_encodeChars {keepSlash : Bool} {c : Char} {cs : List Char}
    (mem : c ∈ encodeChars keepSlash cs) :
    isUnreserved c = true ∨ c = '%' ∨ keepSlash = true ∧ c = '/' := by
  rw [← String.toList_ofList (l := cs), ← toList_encode] at mem
  exact mem_encode mem

theorem encodeChars_cons (keepSlash : Bool) (c : Char) (cs : List Char) :
    encodeChars keepSlash (c :: cs) = encodeChars keepSlash [c] ++ encodeChars keepSlash cs := by
  simp [encodeChars]

/-- The bytes of a character that are ASCII are that character. -/
theorem toNat_eq_of_mem_utf8EncodeChar {c : Char} {b : UInt8}
    (mem : b ∈ String.utf8EncodeChar c) (ascii : b.toNat < 128) : b.toNat = c.toNat := by
  unfold String.utf8EncodeChar at mem
  dsimp only at mem
  split at mem
  · rw [List.mem_singleton.1 mem, UInt8.toNat_ofNat']
    exact Nat.mod_eq_of_lt (by omega)
  · exfalso
    split at mem
    · simp only [List.mem_cons, List.not_mem_nil, or_false] at mem
      rcases mem with rfl | rfl <;> rw [UInt8.toNat_ofNat'] at ascii <;> omega
    · split at mem
      · simp only [List.mem_cons, List.not_mem_nil, or_false] at mem
        rcases mem with rfl | rfl | rfl <;> rw [UInt8.toNat_ofNat'] at ascii <;> omega
      · simp only [List.mem_cons, List.not_mem_nil, or_false] at mem
        rcases mem with rfl | rfl | rfl | rfl <;> rw [UInt8.toNat_ofNat'] at ascii <;> omega

theorem toNat_lt_of_mem_encodeChars {keepSlash : Bool} {c : Char} {cs : List Char}
    (mem : c ∈ encodeChars keepSlash cs) : c.toNat < 128 := by
  rcases mem_encodeChars mem with unreserved | rfl | ⟨-, rfl⟩
  · exact toNat_lt_of_isUnreserved unreserved
  · decide
  · decide

theorem eq_slash_of_mem_encodeByte {b : UInt8} (mem : '/' ∈ encodeByte true b) :
    b.toNat = '/'.toNat := by
  unfold encodeByte at mem
  dsimp only at mem
  split at mem
  · rw [List.mem_singleton.1 mem, toNat_ofNat_toNat]
  · obtain ⟨high, low⟩ := half_lt b
    have other : ∀ n < 16, '/' ≠ upperHex n := by decide
    simp [escape_eq, other _ high, other _ low] at mem

theorem slash_notMem_encodeChars {cs : List Char} (absent : '/' ∉ cs) :
    '/' ∉ encodeChars true cs := by
  intro mem
  obtain ⟨c, inside, mem⟩ := List.mem_flatMap.1 mem
  obtain ⟨b, byte, mem⟩ := List.mem_flatMap.1 mem
  have slash := eq_slash_of_mem_encodeByte mem
  have same : c.toNat = '/'.toNat :=
    (toNat_eq_of_mem_utf8EncodeChar byte (by rw [slash]; decide)).symm.trans slash
  exact absent (Char.toNat_inj.1 same ▸ inside)

/-- The segments of an encoded path are those of the path in encoded form. -/
theorem splitAt_encodeChars (cs : List Char) :
    splitAt '/' (encodeChars true cs) = (splitAt '/' cs).map (encodeChars true) := by
  induction cs with
  | nil => rfl
  | cons c rest ih =>
      rw [encodeChars_cons]
      by_cases slash : c = '/'
      · have kept : encodeChars true [c] = ['/'] := by
          rw [slash]
          rfl
        rw [kept, List.singleton_append, splitAt, splitAt, if_pos rfl, if_pos slash, ih]
        rfl
      · have absent : '/' ∉ encodeChars true [c] :=
          slash_notMem_encodeChars (by simpa using Ne.symm slash)
        obtain ⟨piece, pieces, split⟩ := List.exists_cons_of_ne_nil (splitAt_ne_nil '/' rest)
        obtain ⟨piece', pieces', split', joined⟩ :=
          exists_splitAt_append absent (encodeChars true rest)
        rw [ih, split, List.map_cons] at split'
        obtain ⟨rfl, rfl⟩ := List.cons.inj split'
        rw [joined, splitAt, if_neg slash, split]
        dsimp only
        rw [List.map_cons, encodeChars_cons true c piece]

theorem decodeBytes_encodeChars (keepSlash : Bool) (cs : List Char) :
    decodeBytes (encodeChars keepSlash cs) = some (bytes (String.ofList cs)) := by
  rw [encodeChars, ← List.flatMap_assoc, decodeBytes_flatMap, bytes, String.toList_ofList]

/-! ## Spellings of dots -/

/-- What stands for characters in an encoded text can only be their encoded form. -/
theorem eq_of_decodeBytes_encodeChars {keepSlash : Bool} {cs ds : List Char}
    (decoded : decodeBytes (encodeChars keepSlash cs) = some (bytes (String.ofList ds))) :
    cs = ds := by
  rw [decodeBytes_encodeChars, Option.some_inj] at decoded
  exact String.ofList_inj.1 (bytes_inj decoded)

/-- A text in small letters spells so many dots, each of them as itself or as its escape. -/
inductive SpellsDots : Nat → List Char → Prop
  | none : SpellsDots 0 []
  | plain {n : Nat} {rest : List Char} : SpellsDots n rest → SpellsDots (n + 1) ('.' :: rest)
  | escaped {n : Nat} {rest : List Char} : SpellsDots n rest →
      SpellsDots (n + 1) ('%' :: '2' :: 'e' :: rest)

/-- A text that spells dots, in letters of either size, is decoded to dots. -/
theorem decodeBytes_of_spellsDots {n : Nat} {lower cs : List Char} (spells : SpellsDots n lower)
    (ascii : ∀ c ∈ cs, c.toNat < 128) (small : cs.map Char.toLower = lower) :
    decodeBytes cs = some (List.replicate n 46) := by
  induction spells generalizing cs with
  | none =>
      rw [List.map_eq_nil_iff.1 small]
      rfl
  | plain _ ih =>
      obtain ⟨c, rest, rfl, dot, later⟩ := List.map_eq_cons_iff.1 small
      obtain ⟨first, others⟩ := List.forall_mem_cons.1 ascii
      have same : c.toLower = '.' → c = '.' := forall_of_ascii first (by decide)
      rw [same dot, decodeBytes_cons (by decide) (by decide), ih others later]
      rfl
  | escaped _ ih =>
      obtain ⟨c, more, rfl, sign, small⟩ := List.map_eq_cons_iff.1 small
      obtain ⟨d, more, rfl, high, small⟩ := List.map_eq_cons_iff.1 small
      obtain ⟨e, rest, rfl, low, later⟩ := List.map_eq_cons_iff.1 small
      obtain ⟨first, others⟩ := List.forall_mem_cons.1 ascii
      obtain ⟨second, others⟩ := List.forall_mem_cons.1 others
      obtain ⟨third, others⟩ := List.forall_mem_cons.1 others
      have percent : c.toLower = '%' → c = '%' := forall_of_ascii first (by decide)
      have two : d.toLower = '2' → d = '2' := forall_of_ascii second (by decide)
      have fourteen : e.toLower = 'e' → hexValue e = some 14 :=
        forall_of_ascii third (by decide)
      have digit : hexValue '2' = some 2 := rfl
      rw [percent sign, two high, decodeBytes, digit, fourteen low, ih others later]
      rfl

/-- What spells dots when it is encoded is dots. -/
theorem eq_replicate_of_spellsDots {keepSlash : Bool} {n : Nat} {cs : List Char}
    (spells : SpellsDots n ((encodeChars keepSlash cs).map Char.toLower)) :
    cs = List.replicate n '.' := by
  have dots : bytes (String.ofList (List.replicate n '.')) = List.replicate n 46 := by
    rw [bytes, String.toList_ofList]
    clear spells
    induction n with
    | zero => rfl
    | succ n ih =>
        rw [List.replicate_succ, List.flatMap_cons, ih]
        rfl
  apply eq_of_decodeBytes_encodeChars
  rw [decodeBytes_of_spellsDots spells (fun _ => toNat_lt_of_mem_encodeChars) rfl, dots]

end Percent

end StackDeploy.Text
