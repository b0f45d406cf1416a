/-
# Hosts

The host of a URL is a domain name or an address. Escapes are undone, and what they give has to be a
domain name, which is brought into its one form. A name whose last label is a number is an address
of four bytes and has to be a valid one; an address of sixteen bytes stands in brackets. Outside the
usual schemes a host is taken as it is.
-/

import StackDeploy.Text.Blank
import StackDeploy.Text.Cut
import StackDeploy.Text.Percent
import StackDeploy.Web.Domain.Name

namespace StackDeploy.Web

/-- Why a text is no URL. -/
inductive UrlError where
  | relative
  | emptyHost
  | invalidDomain
  | invalidDomainCharacter
  | invalidPort
  | invalidIpv4
  | invalidIpv6
deriving DecidableEq

/-- The wording of a URL error. -/
def UrlError.message : UrlError → String
  | .relative => "relative URL without a base"
  | .emptyHost => "empty host"
  | .invalidDomain => "invalid international domain name"
  | .invalidDomainCharacter => "invalid domain character"
  | .invalidPort => "invalid port number"
  | .invalidIpv4 => "invalid IPv4 address"
  | .invalidIpv6 => "invalid IPv6 address"

/-- The host of a URL. -/
inductive Host where
  | domain (name : String)
  | ipv4 (address : Nat)
  | ipv6 (pieces : List Nat)
deriving DecidableEq

/-! ## Escapes -/

/-- Whether a character is escaped wherever it stands: a control or not ASCII. -/
def isAlwaysEscaped (c : Char) : Bool :=
  c.val < 0x20 || 0x7F ≤ c.val

/-- A text with the controls, what is not ASCII and some more characters escaped. -/
def escapeChars (more : List Char) (cs : List Char) : List Char :=
  cs.flatMap fun c =>
    if isAlwaysEscaped c || more.contains c then
      (String.utf8EncodeChar c).flatMap Text.Percent.escape
    else [c]

/-- The bytes of a text with its escapes undone; what is no escape stands for itself. -/
def unescapeBytes : List Char → List UInt8
  | [] => []
  | '%' :: high :: low :: rest =>
    match Text.hexValue high, Text.hexValue low with
    | some h, some l => UInt8.ofNat (16 * h + l) :: unescapeBytes rest
    | _, _ => String.utf8EncodeChar '%' ++ unescapeBytes (high :: low :: rest)
  | c :: rest => String.utf8EncodeChar c ++ unescapeBytes rest

/-- The text that an escaped one stands for, if its bytes are those of a text. -/
def unescapeText (cs : List Char) : Option String :=
  String.fromUTF8? ⟨(unescapeBytes cs).toArray⟩

/-! ## Digits -/

/-- The value of digits to a base; absent if one of them is no digit of it. -/
def valueOf (base : Nat) (digits : List Char) : Option Nat :=
  digits.foldl
    (fun total c => total.bind fun n =>
      match Text.hexValue c with
      | some digit => if digit < base then some (base * n + digit) else none
      | none => none)
    (some 0)

namespace Host

/-! ## Addresses of four bytes -/

/-- The number that a part of an address stands for, in decimal, octal or hexadecimal digits. -/
def partNumber (part : List Char) : Option Nat :=
  match part with
  | [] => none
  | '0' :: 'x' :: digits | '0' :: 'X' :: digits => valueOf 16 digits
  | '0' :: digit :: digits => valueOf 8 (digit :: digits)
  | digits => valueOf 10 digits

/-- The parts of a name; an empty one at the end does not count. -/
def addressParts (name : List Char) : List (List Char) :=
  let parts := Text.splitAt '.' name
  match parts.getLast? with
  | some [] => if 1 < parts.length then parts.dropLast else parts
  | _ => parts

/-- Whether the last part of a name is a number. -/
def endsInNumber (name : List Char) : Bool :=
  match (addressParts name).getLast? with
  | none => false
  | some last => (!last.isEmpty && last.all Char.isDigit) || (partNumber last).isSome

/-- The numbers of the parts of an address; absent if one of them is no number. -/
def partNumbers : List (List Char) → Option (List Nat)
  | [] => some []
  | part :: rest => do
    let number ← partNumber part
    let numbers ← partNumbers rest
    some (number :: numbers)

/-- The address that numbers stand for: every one but the last is a byte, and the last one fills
the bytes that are left. -/
def addressOf (numbers : List Nat) : Option Nat :=
  match numbers.getLast? with
  | none => none
  | some last =>
    let leading := numbers.dropLast
    let weight := Nat.pow 256 (4 - leading.length)
    if 4 < numbers.length || leading.any (255 < ·) || weight ≤ last then none
    else some (leading.foldl (fun total n => total * 256 + n) 0 * weight + last)

/-! ## Addresses of sixteen bytes -/

/-- The number of a piece: one to four hexadecimal digits. -/
def pieceNumber (piece : List Char) : Option Nat :=
  if piece.isEmpty || 4 < piece.length then none else valueOf 16 piece

/-- A byte in decimal digits without leading zeros. -/
def byteNumber (digits : List Char) : Option Nat :=
  match digits with
  | [] => none
  | '0' :: _ :: _ => none
  | digits => (valueOf 10 digits).filter (· ≤ 255)

/-- The two pieces of a dotted address at the end. -/
def dottedPieces (cs : List Char) : Option (List Nat) :=
  match (Text.splitAt '.' cs).map byteNumber with
  | [some a, some b, some c, some d] => some [256 * a + b, 256 * c + d]
  | _ => none

/-- The numbers of a row of pieces, the last of which may be a dotted address. -/
def pieceNumbers : List (List Char) → Option (List Nat)
  | [] => some []
  | [last] =>
    if last.contains '.' then dottedPieces last else (pieceNumber last).map fun n => [n]
  | piece :: rest => do
    let number ← pieceNumber piece
    let numbers ← pieceNumbers rest
    some (number :: numbers)

/-- The pieces of one side of the gap; an empty side has none. -/
def sidePieces (cs : List Char) : Option (List Nat) :=
  if cs.isEmpty then some [] else pieceNumbers (Text.splitAt ':' cs)

/-- The eight pieces of an address in brackets; two colons stand for a gap of zeros. -/
def ipv6Pieces (cs : List Char) : Option (List Nat) :=
  match Text.cutPhrase [':', ':'] cs with
  | none => (sidePieces cs).filter fun pieces => pieces.length == 8
  | some (before, after) => do
    let left ← sidePieces before
    let right ← sidePieces after
    if left.length + right.length < 8 && !before.contains '.' then
      some (left ++ List.replicate (8 - left.length - right.length) 0 ++ right)
    else none

/-- The number of zeros at the start of a list. -/
def leadingZeros (pieces : List Nat) : Nat :=
  (pieces.takeWhile (· == 0)).length

/-- The place and length of the first of the longest runs of zeros. -/
def longestZeros : Nat → List Nat → Nat × Nat
  | _, [] => (0, 0)
  | index, piece :: rest =>
    let here := leadingZeros (piece :: rest)
    let later := longestZeros (index + 1) rest
    if later.2 ≤ here then (index, here) else later

/-- Pieces in hexadecimal digits. -/
def piecesText (pieces : List Nat) : List Char :=
  Text.joinWith ':' (pieces.map (Nat.toDigits 16))

/-- An address in brackets, with its longest run of zeros as a gap. -/
def ipv6Text (pieces : List Nat) : List Char :=
  let (start, length) := longestZeros 0 pieces
  let body :=
    if length < 2 then piecesText pieces
    else piecesText (pieces.take start) ++ ':' :: ':' :: piecesText (pieces.drop (start + length))
  '[' :: (body ++ [']'])

/-! ## Hosts -/

/-- The address that stands in brackets. -/
def ofBrackets (inside : List Char) : Except UrlError Host :=
  if inside.getLast? = some ']' then
    match ipv6Pieces inside.dropLast with
    | some pieces => .ok (.ipv6 pieces)
    | none => .error .invalidIpv6
  else .error .invalidIpv6

/-- The name or the address of a host. -/
def ofName (name : List Char) : Except UrlError Host :=
  if name.isEmpty then .error .emptyHost
  else if endsInNumber name then
    match (partNumbers (addressParts name)).bind addressOf with
    | some address => .ok (.ipv4 address)
    | none => .error .invalidIpv4
  else .ok (.domain (String.ofList name))

/-- Reads a host of the usual schemes. -/
def ofText (cs : List Char) : Except UrlError Host :=
  match cs with
  | '[' :: inside => ofBrackets inside
  | cs =>
    match unescapeText cs with
    | none => .error .invalidDomain
    | some name =>
      match Domain.ofText name.toList with
      | none => .error .invalidDomain
      | some ascii => ofName ascii

/-- Whether a character may not stand in a host of another scheme. -/
def isForbiddenOpaque (c : Char) : Bool :=
  "\x00\t\n\r #/:<>?@[\\]^|".toList.contains c

/-- Reads a host of another scheme. -/
def ofOpaqueText (cs : List Char) : Except UrlError Host :=
  match cs with
  | '[' :: inside => ofBrackets inside
  | cs =>
    if cs.any isForbiddenOpaque then .error .invalidDomainCharacter
    else .ok (.domain (String.ofList (escapeChars [] cs)))

/-- The text of a host. -/
def text : Host → String
  | .domain name => name
  | .ipv4 address =>
    String.intercalate "."
      ([address / Nat.pow 2 24, address / Nat.pow 2 16 % 256, address / 256 % 256,
        address % 256].map Text.decimal)
  | .ipv6 pieces => String.ofList (ipv6Text pieces)

end Host

end StackDeploy.Web
