import SurfaceCoverage.Decimal.Binary

/-!
# The fewest digits that read back

The numbers that round to a double form an interval around it, ends included when its significand
is even.  Of the decimal grids, the coarsest one with a point in that interval is taken, and of two
such points the one nearer to the exact value.

**Results.**
* `digitChars_ne_nil`: there is always a digit to show.
-/

namespace SurfaceCoverage

namespace Decimal

/-- The number `0.d₁d₂… · 10 ^ point`, with `digits` read as a whole number. -/
structure Places where
  digits : Nat
  point : Int

/-- The interval of numbers that round to a positive double. -/
structure Interval where
  value : Fraction
  lower : Fraction
  upper : Fraction
  closed : Bool

/-- The interval of `m · 2 ^ e`; below a power of two the spacing is halved. -/
def Interval.ofBinary (m : Nat) (e : Int) : Interval :=
  let narrow := m == significandCount && leastExponent < e
  { value := .ofBinary m e
    lower := if narrow then .ofBinary (4 * m - 1) (e - 2) else .ofBinary (2 * m - 1) (e - 1)
    upper := .ofBinary (2 * m + 1) (e - 1)
    closed := m % 2 == 0 }

/-- Whether the point `n · 10 ^ k` lies in the interval. -/
def Interval.holds (i : Interval) (n : Nat) (k : Int) : Bool :=
  let l := i.lower.scaled k
  let u := i.upper.scaled k
  if i.closed then l.num ≤ n * l.den && n * u.den ≤ u.num
  else l.num < n * l.den && n * u.den < u.num

/-- The point of the grid `10 ^ k` that is taken, if the grid has one in the interval. -/
def Interval.point? (i : Interval) (k : Int) : Option Nat :=
  let v := i.value.scaled k
  let n := v.floor
  match i.holds n k, i.holds (n + 1) k with
  | true, true => some v.roundHalfEven
  | true, false => some n
  | false, true => some (n + 1)
  | false, false => none

/-- The number of digits of a whole number. -/
def digitCount (n : Nat) : Nat :=
  (Nat.toDigits 10 n).length

/-- The exponent `p` with `10 ^ (p - 1) ≤ x < 10 ^ p`, searched downward from an upper bound. -/
def Fraction.magnitude (x : Fraction) : Nat → Int → Int
  | 0, p => p
  | fuel + 1, p =>
      let y := x.scaled (p - 1)
      if y.den ≤ y.num then p else magnitude x fuel (p - 1)

/-- An upper bound of the decimal exponent of a fraction: its numerator's digits. -/
def Fraction.point (x : Fraction) : Int :=
  x.magnitude (digitCount x.den + 1) (digitCount x.num)

/-- Drops trailing zeros; a zero has no place to lose. -/
def stripZeros : Nat → Nat → Nat
  | 0, n => n
  | fuel + 1, n => if n % 10 = 0 ∧ n ≠ 0 then stripZeros fuel (n / 10) else n

/-- Tries the grids of `count`, `count + 1`, … digits, at most `fuel` of them. -/
def Interval.search (i : Interval) (point : Int) : Nat → Nat → Places
  | 0, _ => ⟨i.value.floor, point⟩
  | fuel + 1, count =>
      match i.point? (point - count) with
      | some n =>
          if n = Nat.pow 10 count then ⟨1, point + 1⟩ else ⟨stripZeros count n, point⟩
      | none => i.search point fuel (count + 1)

/-- The fewest digits that read back as `m · 2 ^ e`. -/
def shortest (m : Nat) (e : Int) : Places :=
  let i := Interval.ofBinary m e
  i.search i.value.point 17 1

/-- How a floating-point number is written. -/
structure FloatStyle where
  leastPoint : Int
  greatestPoint : Int
  exponentDigits : Nat

/-- The decimal digits of a number. -/
def digitChars (n : Nat) : List Char :=
  Nat.toDigits 10 n

/-- Puts zeros in front until the text has the given length. -/
def padLeft (width : Nat) (cs : List Char) : List Char :=
  List.replicate (width - cs.length) '0' ++ cs

/-- Writes digits with the decimal point at its place. -/
def positional (ds : List Char) (point : Int) : List Char :=
  if point ≤ 0 then
    ['0', '.'] ++ List.replicate (-point).toNat '0' ++ ds
  else
    let n := point.toNat
    if ds.length ≤ n then ds ++ List.replicate (n - ds.length) '0' ++ ['.', '0']
    else ds.take n ++ ['.'] ++ ds.drop n

/-- Writes digits with an exponent. -/
def scientific (style : FloatStyle) (ds : List Char) (point : Int) : List Char :=
  let exponent := point - 1
  let sign := if exponent < 0 then '-' else '+'
  let mantissa :=
    match ds with
    | [] => []
    | [d] => [d]
    | d :: rest => d :: '.' :: rest
  mantissa ++ ['e', sign] ++ padLeft style.exponentDigits (digitChars exponent.natAbs)

/-- Writes a double with the fewest digits that read back. -/
def write (style : FloatStyle) : Double → String
  | .notANumber => "nan"
  | .infinite negative => if negative then "-inf" else "inf"
  | .finite negative m e =>
      let body :=
        if m = 0 then ['0', '.', '0']
        else
          let p := shortest m e
          let ds := digitChars p.digits
          if style.leastPoint ≤ p.point ∧ p.point ≤ style.greatestPoint then
            positional ds p.point
          else
            scientific style ds p.point
      String.ofList (if negative then '-' :: body else body)

/-- Positional notation from `0.0001` to below `10 ^ 16`, and two digits of exponent outside. -/
def plainStyle : FloatStyle :=
  ⟨-3, 16, 2⟩

/-- The text of a floating-point number: the fewest digits that read back. -/
def text (x : Float) : String :=
  write plainStyle (.ofFloat x)

theorem digitChars_ne_nil (n : Nat) :
    digitChars n ≠ [] := by
  simp [digitChars]

end Decimal

end SurfaceCoverage
