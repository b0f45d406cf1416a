/-
# Doubles

A finite binary floating-point number of 64 bits is a sign and a significand below 2^53 times
a power of two; the least unit is 2^-1074. Arithmetic on doubles is exact arithmetic on natural
numbers followed by one rounding to the nearest double, with ties to the even significand. The
representation is normal, so two doubles with the same sign and value are equal.
-/

namespace StackDeploy

/-- A finite double of the value `significand * 2^shift` times the least unit 2^-1074. -/
structure Double where
  negative : Bool
  significand : Nat
  shift : Nat
  significand_lt : significand < Nat.pow 2 53
  normal : shift = 0 ∨ Nat.pow 2 52 ≤ significand
  shift_le : shift ≤ 2045
deriving DecidableEq

/-- The quotient of two numbers, rounded to the nearest integer and a tie to the even one. -/
def roundedQuotient (num den : Nat) : Nat :=
  let low := num / den
  let twice := 2 * (num % den)
  if twice < den ∨ (twice = den ∧ low % 2 = 0) then low else low + 1

namespace Double

/-- The number of least units in one. -/
def unitsPerOne : Nat := Nat.pow 2 1074

/-- The magnitude in least units. -/
def units (d : Double) : Nat :=
  d.significand * Nat.pow 2 d.shift

/-- A sign, a significand and a shift as a double, if they are in range. -/
def make? (negative : Bool) (significand shift : Nat) : Option Double :=
  if h : significand < Nat.pow 2 53 ∧ (shift = 0 ∨ Nat.pow 2 52 ≤ significand) ∧ shift ≤ 2045 then
    some ⟨negative, significand, shift, h.1, h.2.1, h.2.2⟩
  else none

/-- Zero of a sign. -/
def zero (negative : Bool) : Double :=
  ⟨negative, 0, 0, by decide, Or.inl rfl, by decide⟩

instance : Inhabited Double := ⟨zero false⟩

/-- Whether the magnitude is zero. -/
def isZero (d : Double) : Bool :=
  d.significand == 0

/-- The double nearest to a quotient of least units, absent beyond the largest double. A significand
that rounds up to 2^53 moves to the next shift. -/
def nearestUnits (negative : Bool) (num den : Nat) : Option Double :=
  let shift := Nat.log2 (num / den) - 52
  let significand := roundedQuotient num (den * Nat.pow 2 shift)
  if significand = Nat.pow 2 53 then make? negative (Nat.pow 2 52) (shift + 1)
  else make? negative significand shift

/-- The double nearest to a quotient of natural numbers. -/
def ofQuotient (negative : Bool) (num den : Nat) : Option Double :=
  nearestUnits negative (num * unitsPerOne) den

/-- The double nearest to a natural number. -/
def ofNat? (n : Nat) : Option Double :=
  ofQuotient false n 1

/-- The double nearest to an integer; zero is positive. -/
def ofInt? (n : Int) : Option Double :=
  ofQuotient (decide (n < 0)) n.natAbs 1

/-- The rounded product. -/
def mul (a b : Double) : Option Double :=
  nearestUnits (a.negative != b.negative) (a.units * b.units) unitsPerOne

/-- The rounded quotient by a double that is not zero. -/
def div (a b : Double) : Option Double :=
  nearestUnits (a.negative != b.negative) (a.units * unitsPerOne) b.units

/-- The double with the sign chosen anew. -/
def withSign (negative : Bool) (d : Double) : Double :=
  { d with negative := negative }

/-- Equality of values: the two zeros are the same number. -/
def same (a b : Double) : Bool :=
  a.units == b.units && (a.negative == b.negative || a.units == 0)

/-- The decimal expansion with a fixed number of places, rounded once from the exact value with a
tie to the even last digit. -/
def fixed (places : Nat) (d : Double) : String :=
  let scaled := roundedQuotient (d.units * Nat.pow 10 places) unitsPerOne
  let digits := Nat.toDigits 10 scaled
  let padded := List.replicate (places + 1 - digits.length) '0' ++ digits
  let whole := padded.take (padded.length - places)
  let fraction := padded.drop (padded.length - places)
  let body := if places = 0 then whole else whole ++ '.' :: fraction
  String.ofList (if d.negative then '-' :: body else body)

theorem same_refl (d : Double) : d.same d = true := by
  simp [same]

theorem same_symm {a b : Double} (h : a.same b = true) : b.same a = true := by
  simp only [same, Bool.and_eq_true, Bool.or_eq_true, beq_iff_eq] at h ⊢
  refine ⟨h.1.symm, ?_⟩
  rcases h.2 with sign | zero
  · exact Or.inl sign.symm
  · exact Or.inr (h.1 ▸ zero)

end Double

end StackDeploy
