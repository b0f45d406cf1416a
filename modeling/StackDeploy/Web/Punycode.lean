/-
# Domain labels in ASCII

A label with other than ASCII characters is written by its ASCII characters, a hyphen, and the
positions and numbers of the others. These are inserted in the order of their numbers; what is
written for each is how far the insertion moves on from the last one, in a mixed base whose
thresholds adapt to the sizes seen so far. The method is Bootstring with the parameters of Punycode.
-/

import StackDeploy.Text.Cut

namespace StackDeploy.Web.Punycode

/-- The digit of a value below 36: the letters first, then the decimal digits. -/
def digit (n : Nat) : Char :=
  if n < 26 then Char.ofNat (97 + n) else Char.ofNat (22 + n)

/-- The threshold of a digit position. -/
def threshold (position bias : Nat) : Nat :=
  if position ≤ bias then 1 else if bias + 26 ≤ position then 26 else position - bias

/-- The digits of a distance, at most `fuel` of them; each divides the rest by at least ten. -/
def digits (bias : Nat) : Nat → Nat → Nat → List Char
  | 0, _, _ => []
  | fuel + 1, position, distance =>
    let t := threshold position bias
    if distance < t then [digit distance]
    else
      digit (t + (distance - t) % (36 - t)) ::
        digits bias fuel (position + 36) ((distance - t) / (36 - t))

/-- Halvings of a distance by 35 until it is small, at most `fuel` of them, and the bias they add
up to. -/
def dampen : Nat → Nat → Nat → Nat
  | 0, distance, bias => bias + 36 * distance / (distance + 38)
  | fuel + 1, distance, bias =>
    if 455 < distance then dampen fuel (distance / 35) (bias + 36)
    else bias + 36 * distance / (distance + 38)

/-- The bias after a distance has been written, given how many characters are placed now. -/
def adapt (distance placed : Nat) (first : Bool) : Nat :=
  let halved := if first then distance / 700 else distance / 2
  dampen distance (halved + halved / placed) 0

/-- The state of the encoder: what is written, the distance since the last insertion, the bias and
the number of characters that are placed. -/
structure Encoder where
  written : List Char
  distance : Nat
  bias : Nat
  placed : Nat

/-- Passes one character of the label on the round that inserts the characters of a number. -/
def Encoder.pass (basic number : Nat) (e : Encoder) (c : Char) : Encoder :=
  if c.toNat < number then { e with distance := e.distance + 1 }
  else if c.toNat = number then
    { written := e.written ++ digits e.bias (e.distance + 1) 36 e.distance
      distance := 0
      bias := adapt e.distance (e.placed + 1) (e.placed == basic)
      placed := e.placed + 1 }
  else e

/-- The rounds for increasing character numbers; the first one not yet seen is given. -/
def Encoder.rounds (label : List Char) (basic : Nat) : List Nat → Nat → Encoder → Encoder
  | [], _, e => e
  | number :: rest, next, e =>
    let start := { e with distance := e.distance + (number - next) * (e.placed + 1) }
    let done := label.foldl (Encoder.pass basic number) start
    rounds label basic rest (number + 1) { done with distance := done.distance + 1 }

/-- The different numbers of a list in increasing order. -/
def increasing (numbers : List Nat) : List Nat :=
  (numbers.mergeSort (· ≤ ·)).eraseDups

/-- The encoded form of a label, without its mark. -/
def encode (label : List Char) : List Char :=
  let basic := label.filter fun c => c.toNat < 128
  let others := increasing ((label.filter fun c => 128 ≤ c.toNat).map Char.toNat)
  let start : Encoder := ⟨[], 0, 72, basic.length⟩
  basic ++ (if basic.isEmpty then [] else ['-']) ++
    (Encoder.rounds label basic.length others 128 start).written

/-- The value of a digit in either case. -/
def digitValue (c : Char) : Option Nat :=
  if 'a' ≤ c ∧ c ≤ 'z' then some (c.toNat - 97)
  else if 'A' ≤ c ∧ c ≤ 'Z' then some (c.toNat - 65)
  else if '0' ≤ c ∧ c ≤ '9' then some (c.toNat - 22)
  else none

/-- The bound that no number on the way may reach. -/
def bound : Nat := Nat.pow 2 32

/-- Reads a distance from its digits, given the bias, the position and the weight of the next digit
and the sum so far, and gives what follows it. -/
def readDistance (bias position weight sum : Nat) : List Char → Option (Nat × List Char)
  | [] => none
  | c :: rest => do
    let value ← digitValue c
    let sum := sum + value * weight
    let t := threshold position bias
    if bound ≤ sum then none
    else if value < t then some (sum, rest)
    else if bound ≤ weight * (36 - t) then none
    else readDistance bias (position + 36) (weight * (36 - t)) sum rest

/-- Inserts the characters that distances stand for, at most `fuel` of them, into those that are
placed. The number is the least one that the next character may have, and `start` the place from
which the distance counts. -/
def insertAll (bias number start : Nat) (placed : List Char) : Nat → List Char → Option (List Char)
  | _, [] => some placed
  | 0, _ => none
  | fuel + 1, cs => do
    let (total, rest) ← readDistance bias 36 1 start cs
    let places := placed.length + 1
    let number := number + total / places
    let place := total % places
    if number.isValidChar then
      insertAll (adapt (total - start) places (start == 0)) number (place + 1)
        (placed.insertIdx place (Char.ofNat number)) fuel rest
    else none

/-- The label of an encoded form without its mark; absent if it is none. A hyphen in front ends no
ASCII characters. -/
def decode (encoded : List Char) : Option (List Char) :=
  let (basic, digits) :=
    match Text.cutLast '-' encoded with
    | some (c :: basic, digits) => (c :: basic, digits)
    | _ => ([], encoded)
  if basic.all fun c => c.toNat < 128 then insertAll 72 128 0 basic digits.length digits else none

end StackDeploy.Web.Punycode
