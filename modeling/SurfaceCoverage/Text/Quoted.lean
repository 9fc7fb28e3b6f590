import SurfaceCoverage.Text.CharProperty

/-!
# Quoted text

A text is shown between quotes: single ones, or double ones when the text holds a single quote and
no double quote.  The quote in use and the backslash are escaped, and so is every character that
is not printable.
-/

namespace SurfaceCoverage

namespace Text

/-- The lower-case hexadecimal digits of a number, at least `width` of them. -/
def hexDigits (width n : Nat) : List Char :=
  let ds := Nat.toDigits 16 n
  List.replicate (width - ds.length) '0' ++ ds

/-- A character as it is shown between the quotes `q`. -/
def escape (q c : Char) : List Char :=
  if c = q ∨ c = '\\' then ['\\', c]
  else if c = '\n' then ['\\', 'n']
  else if c = '\r' then ['\\', 'r']
  else if c = '\t' then ['\\', 't']
  else if isPrintable c then [c]
  else if c.toNat < 0x100 then '\\' :: 'x' :: hexDigits 2 c.toNat
  else if c.toNat < 0x10000 then '\\' :: 'u' :: hexDigits 4 c.toNat
  else '\\' :: 'U' :: hexDigits 8 c.toNat

/-- The quote that a text is shown between. -/
def quoteFor (cs : List Char) : Char :=
  if '\'' ∈ cs ∧ '"' ∉ cs then '"' else '\''

/-- A text between quotes. -/
def quoted (s : String) : String :=
  let cs := s.toList
  let q := quoteFor cs
  String.ofList (q :: (cs.flatMap (escape q) ++ [q]))

/-- Bytes between quotes, after the letter `b`. -/
def quotedBytes (bytes : List UInt8) : String :=
  let cs := bytes.map fun b => Char.ofNat b.toNat
  let q := quoteFor cs
  let show1 (c : Char) : List Char :=
    if c.toNat < 0x7F then escape q c else '\\' :: 'x' :: hexDigits 2 c.toNat
  String.ofList ('b' :: q :: (cs.flatMap show1 ++ [q]))

end Text

end SurfaceCoverage
