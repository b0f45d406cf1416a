/-
# JSON tokens

The characters of a document are cut into tokens before anything is read from them. The cut never
fails: where the text is broken the last token says so, and the readers report the problem only if
they get there. A token that is read and one that is skipped are judged differently. Skipping a
string does not look at the pairing of surrogate escapes and skipping a number does not look at its
size, so a literal carries what reading it would give beside the text after it.
-/

import StackDeploy.Json.Problem
import StackDeploy.Text.Percent

namespace StackDeploy.Json

/-- What a broken text was about to write. -/
inductive Fragment where
  /-- Nothing: the text ended, or a separator stands where a value had to. -/
  | nothing
  /-- A string literal without its end. -/
  | string
  /-- The word for null. -/
  | null
  /-- A number, another word, or a character that begins no token. -/
  | other
deriving DecidableEq

/-- A token, or the place where the text stops being cut. -/
inductive Token where
  | openBrace
  | closeBrace
  | openBracket
  | closeBracket
  | comma
  | colon
  | null
  | bool (value : Bool)
  | number (value : Except Problem Number)
  | string (value : Except Problem String)
  /-- A broken literal: the problem on reading it and the one on skipping it. -/
  | broken (fragment : Fragment) (reading skipping : Problem)

namespace Token

/-- What reading the rest of a string literal gives, and what stands after its closing quote. -/
structure StringScan where
  value : Except Problem (List Char)
  rest : Except Problem (List Char)

namespace StringScan

/-- A literal that cannot be read or skipped. -/
def fail (problem : Problem) : StringScan :=
  ⟨.error problem, .error problem⟩

/-- A literal that starts with a character. -/
def cons (c : Char) (scan : StringScan) : StringScan :=
  ⟨scan.value.map (c :: ·), scan.rest⟩

/-- A literal that can be skipped but not read. -/
def unreadable (problem : Problem) (scan : StringScan) : StringScan :=
  ⟨.error problem, scan.rest⟩

end StringScan

/-- The value of four hexadecimal digits. -/
def hexWord (a b c d : Char) : Option Nat :=
  match Text.hexValue a, Text.hexValue b, Text.hexValue c, Text.hexValue d with
  | some a, some b, some c, some d => some (((a * 16 + b) * 16 + c) * 16 + d)
  | _, _, _, _ => none

/-- Whether a word is the first half of a surrogate pair. -/
def isHighSurrogate (n : Nat) : Bool := 0xD800 ≤ n && n ≤ 0xDBFF

/-- Whether a word is the second half of a surrogate pair. -/
def isLowSurrogate (n : Nat) : Bool := 0xDC00 ≤ n && n ≤ 0xDFFF

/-- The character of a surrogate pair. -/
def pairedChar (high low : Nat) : Char :=
  Char.ofNat (0x10000 + (high - 0xD800) * 0x400 + (low - 0xDC00))

/-- The number of bytes of a text in UTF-8. -/
def byteLength (cs : List Char) : Nat :=
  cs.foldl (fun total c => total + c.utf8Size) 0

/-- Too little text for four digits: it ended if fewer than four bytes are left. -/
def shortEscape (cs : List Char) : Problem :=
  if byteLength cs < 4 then .ended else .malformed

/-- A scan that goes on after a high surrogate escape, if one is pending, cannot be read. -/
def StringScan.settle (pending : Option Nat) (scan : StringScan) : StringScan :=
  match pending with
  | none => scan
  | some _ => .unreadable .malformed scan

/-- A word given by an escape: a character, half of a surrogate pair, or the half that completes a
pending one. The scans are those of the text after it with a given word pending. -/
def StringScan.word (pending : Option Nat) (n : Nat) (after : Option Nat → StringScan) :
    StringScan :=
  match pending with
  | some high =>
    if isLowSurrogate n then .cons (pairedChar high n) (after none)
    else .unreadable .malformed (after none)
  | none =>
    if isLowSurrogate n then .unreadable .malformed (after none)
    else if isHighSurrogate n then after (some n)
    else .cons (Char.ofNat n) (after none)

/-- A string literal after its opening quote, or after a high surrogate escape that is pending. -/
def scanString (pending : Option Nat) : List Char → StringScan
  | [] => .fail .ended
  | '"' :: rest => .settle pending ⟨.ok [], .ok rest⟩
  | '\\' :: [] => .fail .ended
  | '\\' :: 'u' :: a :: b :: c :: d :: rest =>
    match hexWord a b c d with
    | none => .fail .malformed
    | some n => .word pending n fun next => scanString next rest
  | '\\' :: 'u' :: rest => .fail (shortEscape rest)
  | '\\' :: '"' :: rest => .settle pending (.cons '"' (scanString none rest))
  | '\\' :: '\\' :: rest => .settle pending (.cons '\\' (scanString none rest))
  | '\\' :: '/' :: rest => .settle pending (.cons '/' (scanString none rest))
  | '\\' :: 'b' :: rest => .settle pending (.cons '\x08' (scanString none rest))
  | '\\' :: 'f' :: rest => .settle pending (.cons '\x0c' (scanString none rest))
  | '\\' :: 'n' :: rest => .settle pending (.cons '\n' (scanString none rest))
  | '\\' :: 'r' :: rest => .settle pending (.cons '\r' (scanString none rest))
  | '\\' :: 't' :: rest => .settle pending (.cons '\t' (scanString none rest))
  | '\\' :: _ :: _ => .fail .malformed
  | c :: rest =>
    if c.toNat < 32 then .fail .malformed else .settle pending (.cons c (scanString none rest))

/-- The values of the decimal digits at the start of a text. -/
def digitValues (cs : List Char) : List Nat :=
  (cs.takeWhile Char.isDigit).map fun c => c.toNat - 48

/-- A text without the decimal digits at its start. -/
def afterDigits (cs : List Char) : List Char :=
  cs.dropWhile Char.isDigit

/-- What is missing where a digit has to stand. -/
def missingDigit : List Char → Problem
  | [] => .ended
  | _ :: _ => .malformed

/-- A number that breaks off; skipping it never blames the end of the text. -/
def brokenNumber (problem : Problem) : Token × List Char :=
  (.broken .other problem .malformed, [])

/-- The end of a number, after its whole part and its fraction. -/
def scanExponent (negative : Bool) (whole : List Nat) (fraction : Option (List Nat))
    (cs : List Char) : Token × List Char :=
  let finish (exponent : Option Number.Exponent) (rest : List Char) : Token × List Char :=
    match Number.ofDigits negative whole fraction exponent with
    | some n => (.number (.ok n), rest)
    | none => (.number (.error .malformed), rest)
  let signed (negativeExponent : Bool) (rest : List Char) : Token × List Char :=
    if (digitValues rest).isEmpty then brokenNumber (missingDigit rest)
    else finish (some ⟨negativeExponent, digitValues rest⟩) (afterDigits rest)
  match cs with
  | 'e' :: '+' :: rest | 'E' :: '+' :: rest => signed false rest
  | 'e' :: '-' :: rest | 'E' :: '-' :: rest => signed true rest
  | 'e' :: rest | 'E' :: rest => signed false rest
  | rest => finish none rest

/-- A number after its sign: no leading zero, and a digit on both sides of a point. -/
def scanMagnitude (negative : Bool) (cs : List Char) : Token × List Char :=
  match digitValues cs with
  | [] => brokenNumber (missingDigit cs)
  | 0 :: _ :: _ => brokenNumber .malformed
  | whole =>
    match afterDigits cs with
    | '.' :: rest =>
      if (digitValues rest).isEmpty then brokenNumber (missingDigit rest)
      else scanExponent negative whole (some (digitValues rest)) (afterDigits rest)
    | rest => scanExponent negative whole none rest

/-- A word after its first letter; a text that ends inside the word ended early. -/
def scanWord (token : Token) (fragment : Fragment) : List Char → List Char → Token × List Char
  | [], rest => (token, rest)
  | _ :: _, [] => (.broken fragment .ended .ended, [])
  | expected :: more, c :: rest =>
    if c = expected then scanWord token fragment more rest
    else (.broken fragment .malformed .malformed, [])

/-- The token that starts with a character that is not blank, and the text after it. After a broken
token nothing is left. -/
def scan (c : Char) (rest : List Char) : Token × List Char :=
  match c with
  | '\x7b' => (.openBrace, rest)
  | '\x7d' => (.closeBrace, rest)
  | '[' => (.openBracket, rest)
  | ']' => (.closeBracket, rest)
  | ',' => (.comma, rest)
  | ':' => (.colon, rest)
  | '"' =>
    match scanString none rest with
    | ⟨value, .ok after⟩ => (.string (value.map String.ofList), after)
    | ⟨.error reading, .error skipping⟩ => (.broken .string reading skipping, [])
    | ⟨.ok _, .error skipping⟩ => (.broken .string skipping skipping, [])
  | 'n' => scanWord .null .null ['u', 'l', 'l'] rest
  | 't' => scanWord (.bool true) .other ['r', 'u', 'e'] rest
  | 'f' => scanWord (.bool false) .other ['a', 'l', 's', 'e'] rest
  | '-' => scanMagnitude true rest
  | c =>
    if c.isDigit then scanMagnitude false (c :: rest)
      else (.broken .other .malformed .malformed, [])

/-- Whether a character may stand between tokens. -/
def isSpace (c : Char) : Bool :=
  c == ' ' || c == '\t' || c == '\n' || c == '\r'

/-- The tokens of a text, at most `fuel` of them; every token takes a character, so the length of
the text is enough. -/
def scanAll : Nat → List Char → List Token
  | 0, _ => []
  | fuel + 1, cs =>
    match cs.dropWhile isSpace with
    | [] => []
    | c :: rest =>
      let (token, after) := scan c rest
      token :: scanAll fuel after

/-- The tokens of a text. -/
def ofText (text : String) : List Token :=
  scanAll text.length text.toList

end Token

end StackDeploy.Json
