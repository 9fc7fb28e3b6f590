/-!
# Binary floating-point numbers as exact fractions

A finite double is `± m · 2 ^ e`.  Printing works on that exact value: on the numerator and
denominator of the magnitude and on the interval of numbers that round to the double.

**Results.**
* `Fraction.roundHalfEven_even_of_tie`: a tie goes to the even neighbour.
-/

namespace SurfaceCoverage

namespace Decimal

/-- A number that is not negative, as numerator over denominator. -/
structure Fraction where
  num : Nat
  den : Nat

/-- The fraction `m · 2 ^ e`. -/
def Fraction.ofBinary (m : Nat) (e : Int) : Fraction :=
  if 0 ≤ e then ⟨m * Nat.pow 2 e.toNat, 1⟩ else ⟨m, Nat.pow 2 (-e).toNat⟩

/-- The fraction divided by `10 ^ k`. -/
def Fraction.scaled (x : Fraction) (k : Int) : Fraction :=
  if 0 ≤ k then ⟨x.num, x.den * Nat.pow 10 k.toNat⟩
  else ⟨x.num * Nat.pow 10 (-k).toNat, x.den⟩

/-- The whole part. -/
def Fraction.floor (x : Fraction) : Nat :=
  x.num / x.den

/-- The nearest whole number; of two equally near ones the even one. -/
def Fraction.roundHalfEven (x : Fraction) : Nat :=
  let q := x.num / x.den
  let r := x.num % x.den
  if 2 * r < x.den then q
  else if x.den < 2 * r then q + 1
  else if q % 2 = 0 then q
  else q + 1

theorem Fraction.roundHalfEven_even_of_tie (x : Fraction)
    (h : 2 * (x.num % x.den) = x.den) :
    x.roundHalfEven % 2 = 0 := by
  have hlt : ¬ 2 * (x.num % x.den) < x.den := by omega
  have hgt : ¬ x.den < 2 * (x.num % x.den) := by omega
  by_cases hq : x.num / x.den % 2 = 0
  · simp [roundHalfEven, hlt, hgt, hq]
  · simp only [roundHalfEven, hlt, hgt, hq, if_false]
    omega

/-- The kinds of doubles. -/
inductive Double where
  | finite (negative : Bool) (significand : Nat) (exponent : Int)
  | infinite (negative : Bool)
  | notANumber

/-- The width of the significand field. -/
def significandBits : Nat := 52

/-- The number of significand fields. -/
def significandCount : Nat := Nat.pow 2 significandBits

/-- The number of exponent fields. -/
def exponentCount : Nat := 2048

/-- The exponent of the smallest positive double. -/
def leastExponent : Int := -1074

/-- Reads the fields of the 64-bit format. -/
def Double.ofBits (bits : Nat) : Double :=
  let negative : Bool := bits / (significandCount * exponentCount) % 2 == 1
  let biased : Nat := bits / significandCount % exponentCount
  let field : Nat := bits % significandCount
  if biased = exponentCount - 1 then
    if field = 0 then .infinite negative else .notANumber
  else if biased = 0 then
    .finite negative field leastExponent
  else
    .finite negative (significandCount + field) (leastExponent + (biased : Int) - 1)

/-- The exact value of a double. -/
def Double.ofFloat (x : Float) : Double :=
  .ofBits x.toBits.toNat

end Decimal

end SurfaceCoverage
