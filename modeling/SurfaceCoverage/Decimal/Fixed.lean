import SurfaceCoverage.Decimal.Shortest

/-!
# Fixed decimal places

The exact value of a double is rounded to a given number of places; of two equally near decimals
the one with the even last digit is taken.
-/

namespace SurfaceCoverage

namespace Decimal

/-- The digits of `n / 10 ^ places`, with the point in front of the last `places` digits. -/
def fixedDigits (places n : Nat) : List Char :=
  let unit := Nat.pow 10 places
  digitChars (n / unit) ++ '.' :: padLeft places (digitChars (n % unit))

/-- Writes a double with a fixed number of decimal places. -/
def writeFixed (places : Nat) : Double → String
  | .notANumber => "nan"
  | .infinite negative => if negative then "-inf" else "inf"
  | .finite negative m e =>
      let n := ((Fraction.ofBinary m e).scaled (-(places : Int))).roundHalfEven
      let body := fixedDigits places n
      String.ofList (if negative then '-' :: body else body)

/-- The text of a number with one decimal place. -/
def oneDecimal (x : Float) : String :=
  writeFixed 1 (.ofFloat x)

end Decimal

end SurfaceCoverage
