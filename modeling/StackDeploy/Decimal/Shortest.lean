/-
# Shortest decimals

The text of a double is the shortest decimal that rounds to it. The decimals that do so form an
interval, whose ends belong to it exactly when the significand is even, and which is narrower on
the lower side of a power of two. On the grids of one, two and more digits the two neighbours of
the value are tried; the first grid with a hit decides, and of two hits the nearer one is taken.
All of it is arithmetic on natural numbers.
-/

import StackDeploy.Decimal.Double

namespace StackDeploy

/-- The decimal `digits * 10^exponent`. -/
structure Decimal where
  digits : Nat
  exponent : Int
deriving DecidableEq

namespace Decimal

/-- The numerator of a decimal over the powers of ten and two that keep everything whole. -/
def scaledUp (d : Decimal) : Nat :=
  d.digits * Nat.pow 10 d.exponent.toNat * (4 * Double.unitsPerOne)

/-- Trailing zeros moved into the exponent, at most as many as `fuel`. -/
def stripZeros (fuel : Nat) (d : Decimal) : Decimal :=
  match fuel with
  | 0 => d
  | fuel + 1 =>
    if d.digits ≠ 0 ∧ d.digits % 10 = 0 then stripZeros fuel ⟨d.digits / 10, d.exponent + 1⟩ else d

end Decimal

namespace Double

/-- Whether a decimal lies in the interval that rounds to a double. Ends are given in quarters of
the least unit. -/
def readsBack (d : Double) (x : Decimal) : Bool :=
  let gap := Nat.pow 2 d.shift
  let narrow := d.significand == Nat.pow 2 52 && d.shift != 0
  let low := 4 * d.units - (if narrow then gap else 2 * gap)
  let high := 4 * d.units + 2 * gap
  let down := Nat.pow 10 (-x.exponent).toNat
  let value := x.scaledUp
  if d.significand % 2 = 0 then low * down ≤ value && value ≤ high * down
  else low * down < value && value < high * down

/-- The decimal exponent of the first digit of a magnitude that is not zero. -/
def leadingExponent (d : Double) : Int :=
  let scaled := d.units * Nat.pow 10 400 / unitsPerOne
  ((Nat.toDigits 10 scaled).length : Int) - 401

/-- The better of the two neighbours of a magnitude on the grid of multiples of `10^exponent`,
among those that read back. -/
def onGrid (d : Double) (exponent : Int) : Option Decimal :=
  let num := d.units * Nat.pow 10 (-exponent).toNat
  let den := unitsPerOne * Nat.pow 10 exponent.toNat
  let below : Decimal := ⟨num / den, exponent⟩
  let above : Decimal := ⟨num / den + 1, exponent⟩
  let nearest : Decimal := ⟨roundedQuotient num den, exponent⟩
  match d.readsBack below, d.readsBack above with
  | true, true => some nearest
  | true, false => some below
  | false, true => some above
  | false, false => none

/-- The first hit on the grids of `count` digits and more, at most `fuel` of them. -/
def firstHit (d : Double) (first : Int) : Nat → Nat → Option Decimal
  | 0, _ => none
  | fuel + 1, count =>
    match d.onGrid (first - (count : Int) + 1) with
    | some hit => some hit
    | none => firstHit d first fuel (count + 1)

/-- The shortest decimal of a magnitude. Seventeen digits always suffice; the exact value stands
at the end so that the function never guesses. -/
def shortest (d : Double) : Decimal :=
  if d.significand = 0 then ⟨0, 0⟩
  else
    match d.firstHit d.leadingExponent 17 1 with
    | some hit => hit.stripZeros 400
    | none => Decimal.stripZeros 1100 ⟨d.units * Nat.pow 5 1074, -1074⟩

/-- Digits written without an exponent, the point after the digit of weight one. -/
def positional (digits : List Char) (leading : Int) : List Char :=
  if leading < 0 then
    '0' :: '.' :: (List.replicate ((-leading).toNat - 1) '0' ++ digits)
  else
    let whole := leading.toNat + 1
    let padded := digits ++ List.replicate (whole - digits.length) '0'
    let fraction := padded.drop whole
    padded.take whole ++ '.' :: (if fraction.isEmpty then ['0'] else fraction)

/-- Digits written with the point after the first one and a signed exponent. -/
def scientific (digits : List Char) (leading : Int) : List Char :=
  let sign := if leading < 0 then '-' else '+'
  let exponent := sign :: Nat.toDigits 10 leading.natAbs
  match digits with
  | [] => 'e' :: exponent
  | [first] => first :: 'e' :: exponent
  | first :: rest => first :: '.' :: (rest ++ 'e' :: exponent)

/-- The text of a double: its shortest digits, positional while the first digit has a weight from
10^-5 to 10^15 and always with a fraction then, otherwise with an exponent. -/
def text (d : Double) : String :=
  let x := d.shortest
  let digits := Nat.toDigits 10 x.digits
  let leading := x.exponent + (digits.length : Int) - 1
  let body :=
    if -5 ≤ leading ∧ leading ≤ 15 then positional digits leading else scientific digits leading
  String.ofList (if d.negative then '-' :: body else body)

end Double

end StackDeploy
