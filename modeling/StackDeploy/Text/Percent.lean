/-
# Percent-encoding

A text is encoded byte by byte from its UTF-8 form: the unreserved characters (letters,
digits and four punctuation marks) stand for themselves, every other byte becomes a percent
sign and two upper-case hexadecimal digits. A path may keep its slashes. The decoder reads
such a text back to bytes, so that the encoding can be stated to lose nothing.
-/

namespace StackDeploy.Text

/-- The hexadecimal digit of a number below sixteen, in upper case. -/
def upperHex (n : Nat) : Char :=
  if n < 10 then Char.ofNat (48 + n) else Char.ofNat (55 + n)

/-- The hexadecimal digit of a number below sixteen, in lower case. -/
def lowerHex (n : Nat) : Char :=
  if n < 10 then Char.ofNat (48 + n) else Char.ofNat (87 + n)

/-- The value of a hexadecimal digit in either case. -/
def hexValue (c : Char) : Option Nat :=
  if '0' ≤ c ∧ c ≤ '9' then some (c.toNat - 48)
  else if 'A' ≤ c ∧ c ≤ 'F' then some (c.toNat - 55)
  else if 'a' ≤ c ∧ c ≤ 'f' then some (c.toNat - 87)
  else none

/-- Whether a character stands for itself in an encoded text. -/
def isUnreserved (c : Char) : Bool :=
  c.isAlphanum || c == '-' || c == '_' || c == '.' || c == '~'

/-- The bytes of a string in UTF-8. -/
def bytes (s : String) : List UInt8 :=
  s.toList.flatMap String.utf8EncodeChar

/-- Two lower-case hexadecimal digits for each byte. -/
def hexOfBytes (bs : List UInt8) : String :=
  String.ofList (bs.flatMap fun b => [lowerHex (b.toNat / 16), lowerHex (b.toNat % 16)])

namespace Percent

/-- A byte as an escape. -/
def escape (b : UInt8) : List Char :=
  ['%', upperHex (b.toNat / 16), upperHex (b.toNat % 16)]

/-- A byte in encoded form: a character that is kept, or an escape. -/
def encodeByte (keepSlash : Bool) (b : UInt8) : List Char :=
  let c := Char.ofNat b.toNat
  if isUnreserved c || (keepSlash && c == '/') then [c] else escape b

/-- The encoded form of a string; slashes are kept where a path is meant. -/
def encode (s : String) (keepSlash : Bool) : String :=
  String.ofList ((bytes s).flatMap (encodeByte keepSlash))

/-- The bytes that an encoded text stands for; absent when an escape is broken or a character
is not ASCII. -/
def decodeBytes : List Char → Option (List UInt8)
  | [] => some []
  | '%' :: high :: low :: rest =>
    match hexValue high, hexValue low with
    | some h, some l => (decodeBytes rest).map (UInt8.ofNat (16 * h + l) :: ·)
    | _, _ => none
  | c :: rest =>
    if c = '%' ∨ 128 ≤ c.toNat then none
    else (decodeBytes rest).map (UInt8.ofNat c.toNat :: ·)

/-- The string that an encoded text stands for. -/
def decode (s : String) : Option String :=
  (decodeBytes s.toList).bind fun bs => String.fromUTF8? ⟨bs.toArray⟩

end Percent

end StackDeploy.Text
