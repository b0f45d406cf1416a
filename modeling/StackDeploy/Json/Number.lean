/-
# JSON numbers

A number of a document is an integer when it is written without point and exponent and fits
64 bits, signed or unsigned; every other number, and a negative zero, is a double. The reader
of a decimal keeps as many leading digits as fit an unsigned 64-bit word, rounds them to a
double and scales by one power of ten, so a decimal of more digits may read as a neighbour of
its nearest double; the bytes of every answer depend on that rule. A decimal beyond the largest
double is no number.
-/

import StackDeploy.Decimal.Shortest
import StackDeploy.Text.Cut

namespace StackDeploy.Json

/-- A number: an integer of 64 bits, or a finite double. -/
inductive Number where
  | int (value : Int)
  | double (value : Double)
deriving DecidableEq

namespace Number

/-- The largest unsigned 64-bit integer. -/
def maxWord : Nat := Nat.pow 2 64 - 1

/-- The digits taken into a significand while it fits a 64-bit word, and the digits left over. -/
def accumulate (significand : Nat) : List Nat → Nat × List Nat
  | [] => (significand, [])
  | digit :: rest =>
    if significand * 10 + digit ≤ maxWord then accumulate (significand * 10 + digit) rest
    else (significand, digit :: rest)

/-- The exponent of the largest power of ten that is a double. -/
def largestPower : Nat := 308

/-- A power of ten as a double; the exponents up to the largest one are in range. -/
def powerOfTen (exponent : Nat) : Option Double :=
  Double.ofNat? (Nat.pow 10 exponent)

/-- A double divided by the largest power of ten, as often as asked or until it is zero. -/
def lower : Nat → Double → Option Double
  | 0, d => some d
  | times + 1, d =>
    if d.isZero then some d
    else ((powerOfTen largestPower).bind fun p => d.div p).bind (lower times)

/-- A double scaled by a power of ten in one rounded step, after as many divisions by the largest
power of ten as bring the exponent into range. Absent when the result is too large. -/
def scale (d : Double) (exponent : Int) : Option Double :=
  if (largestPower : Int) < exponent then (if d.isZero then some d else none)
  else if 0 ≤ exponent then (powerOfTen exponent.toNat).bind d.mul
  else
    let times := ((-exponent).toNat - 1) / largestPower
    (lower times d).bind fun lowered =>
      (powerOfTen ((-exponent).toNat - times * largestPower)).bind lowered.div

/-- A significand scaled by a power of ten, with a sign. -/
def ofScaled (negative : Bool) (significand : Nat) (exponent : Int) : Option Number :=
  ((Double.ofNat? significand).bind fun d => scale d exponent).map fun d =>
    .double (d.withSign negative)

/-- The largest exponent that a decimal may state before it counts as out of every range. -/
def maxExponent : Nat := Nat.pow 2 31 - 1

/-- The value of a list of decimal digits, absent beyond the largest stated exponent. -/
def exponentOf (digits : List Nat) : Option Nat :=
  digits.foldl (fun total digit =>
    total.bind fun n => if n * 10 + digit ≤ maxExponent then some (n * 10 + digit) else none)
    (some 0)

/-- A stated exponent: its sign and its digits. -/
structure Exponent where
  negative : Bool
  digits : List Nat

/-- A significand scaled by the sum of its own exponent and a stated one. -/
def withExponent (negative : Bool) (significand : Nat) (start : Int) (e : Exponent) :
    Option Number :=
  match exponentOf e.digits with
  | none =>
    if significand ≠ 0 ∧ e.negative = false then none else some (.double (Double.zero negative))
  | some n => ofScaled negative significand (if e.negative then start - n else start + n)

/-- The number that a sign, whole digits, fraction digits and an exponent stand for. -/
def ofDigits (negative : Bool) (whole : List Nat) (fraction : Option (List Nat))
    (exponent : Option Exponent) : Option Number :=
  let (significand, spare) := accumulate 0 whole
  match fraction, exponent with
  | none, none =>
    if spare.isEmpty then
      if negative = false then some (.int significand)
      else if significand = 0 ∨ Nat.pow 2 63 < significand then ofScaled true significand 0
      else some (.int (-significand))
    else ofScaled negative significand spare.length
  | none, some e => withExponent negative significand spare.length e
  | some places, exponent =>
    let (significand, unread) := accumulate significand places
    let start : Int := spare.length - (places.length - unread.length : Nat)
    match exponent with
    | none => ofScaled negative significand start
    | some e => withExponent negative significand start e

/-- The value as a double, rounded if it is a large integer. -/
def toDouble : Number → Double
  | .int n => (Double.ofInt? n).getD default
  | .double d => d

/-- Equality of numbers by value: two integers exactly, any other pair as doubles. -/
def same : Number → Number → Bool
  | .int a, .int b => a == b
  | a, b => a.toDouble.same b.toDouble

/-- The written form: decimal digits, or the text of the double. -/
def text : Number → String
  | .int n => Text.decimalInt n
  | .double d => d.text

end Number

end StackDeploy.Json
