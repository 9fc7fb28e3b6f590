/-!
# Reading decimal digits

Digits are read as a whole number, or with an exponent as the nearest floating-point number.
-/

namespace SurfaceCoverage

namespace Decimal

/-- The number that decimal digits write. -/
def digitsValue (ds : List Char) : Nat :=
  ds.foldl (fun n c => n * 10 + (c.toNat - 48)) 0

/-- The floating-point number `± digits · 10 ^ exponent`, rounded to the nearest. -/
def nearest (negative : Bool) (digits : List Char) (exponent : Int) : Float :=
  let n := digitsValue digits
  let e := if exponent < -100000 then -100000 else if 100000 < exponent then 100000 else exponent
  let magnitude := e + (digits.dropWhile (· = '0')).length
  let x :=
    if n = 0 then 0.0
    else if 400 < magnitude then 1.0 / 0.0
    else if magnitude < -400 then 0.0
    else Float.ofScientific n (e < 0) e.natAbs
  if negative then -x else x

/-- The most digits that a decimal whole number may be read from. -/
def digitLimit : Nat := 4300

/-- What is wrong with a whole number of too many digits. -/
def tooManyDigits (count : Nat) : String :=
  s!"Exceeds the limit ({digitLimit} digits) for integer string conversion: value has {count} " ++
    "digits; use sys.set_int_max_str_digits() to increase the limit"

end Decimal

end SurfaceCoverage
