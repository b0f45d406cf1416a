/-
# Base64

Bytes are written in characters that stand for six bits each, so three bytes take four characters.
One or two bytes at the end are filled up with zero bits, and signs of equality stand for the
characters that are missing.
-/

import StackDeploy.Text.Percent

namespace StackDeploy.Text.Base64

/-- The character of a number below sixty-four. -/
def digit (n : Nat) : Char :=
  if n < 26 then Char.ofNat (65 + n)
  else if n < 52 then Char.ofNat (71 + n)
  else if n < 62 then Char.ofNat (n - 4)
  else if n = 62 then '+'
  else '/'

/-- The characters of bytes. -/
def encodeBytes : List UInt8 → List Char
  | [] => []
  | [a] => [digit (a.toNat / 4), digit (a.toNat % 4 * 16), '=', '=']
  | [a, b] =>
    [digit (a.toNat / 4), digit (a.toNat % 4 * 16 + b.toNat / 16), digit (b.toNat % 16 * 4), '=']
  | a :: b :: c :: rest =>
    digit (a.toNat / 4) :: digit (a.toNat % 4 * 16 + b.toNat / 16) ::
      digit (b.toNat % 16 * 4 + c.toNat / 64) :: digit (c.toNat % 64) :: encodeBytes rest

/-- Bytes are written in digits and signs of equality. -/
theorem mem_encodeBytes {c : Char} {bs : List UInt8} (mem : c ∈ encodeBytes bs) :
    (∃ n < 64, c = digit n) ∨ c = '=' := by
  induction bs using encodeBytes.induct with
  | case1 => cases mem
  | case2 a =>
      have first := a.toNat_lt
      simp only [encodeBytes, List.mem_cons, List.not_mem_nil, or_false] at mem
      rcases mem with rfl | rfl | rfl | rfl
      · exact .inl ⟨_, by omega, rfl⟩
      · exact .inl ⟨_, by omega, rfl⟩
      · exact .inr rfl
      · exact .inr rfl
  | case3 a b =>
      have first := a.toNat_lt
      have second := b.toNat_lt
      simp only [encodeBytes, List.mem_cons, List.not_mem_nil, or_false] at mem
      rcases mem with rfl | rfl | rfl | rfl
      · exact .inl ⟨_, by omega, rfl⟩
      · exact .inl ⟨_, by omega, rfl⟩
      · exact .inl ⟨_, by omega, rfl⟩
      · exact .inr rfl
  | case4 a b c rest ih =>
      have first := a.toNat_lt
      have second := b.toNat_lt
      have third := c.toNat_lt
      simp only [encodeBytes, List.mem_cons] at mem
      rcases mem with rfl | rfl | rfl | rfl | later
      · exact .inl ⟨_, by omega, rfl⟩
      · exact .inl ⟨_, by omega, rfl⟩
      · exact .inl ⟨_, by omega, rfl⟩
      · exact .inl ⟨_, by omega, rfl⟩
      · exact ih later

/-- A text in its bytes. -/
def encode (s : String) : String :=
  String.ofList (encodeBytes (bytes s))

end StackDeploy.Text.Base64
