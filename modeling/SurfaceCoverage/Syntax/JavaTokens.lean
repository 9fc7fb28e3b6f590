import SurfaceCoverage.Syntax.Token

/-!
# Tokens of Java sources

Comments do not nest.  A text block stands between three quotes; a text and a character stand
between single ones.
-/

namespace SurfaceCoverage

namespace Syntax

namespace Java

/-- What follows the end of a text block. -/
def afterBlock : List Char → List Char
  | [] => []
  | '\\' :: _ :: rest => afterBlock rest
  | '"' :: '"' :: '"' :: rest => rest
  | _ :: rest => afterBlock rest

/-- Whether a character may stand in a Java name. -/
def isNamePart (c : Char) : Bool :=
  isNameChar c || c = '$'

/-- Cuts a text into tokens, with those cut so far, last first.  Every step takes a character, so
`fuel` need be no more than their number. -/
def tokensFrom : Nat → List Token → List Char → List Token
  | 0, acc, _ => acc.reverse
  | _, acc, [] => acc.reverse
  | fuel + 1, acc, c :: rest =>
      if isSpace c then tokensFrom fuel acc rest
      else
        match c, rest with
        | '/', '/' :: more => tokensFrom fuel acc (afterLine more)
        | '/', '*' :: more => tokensFrom fuel acc (afterComment more)
        | '"', '"' :: '"' :: more => tokensFrom fuel (.literal :: acc) (afterBlock more)
        | '"', more => tokensFrom fuel (.literal :: acc) (afterQuote '"' more)
        | '\'', more => tokensFrom fuel (.literal :: acc) (afterQuote '\'' more)
        | c, rest =>
            if c.isDigit then tokensFrom fuel (.literal :: acc) (afterNumber rest)
            else if isNamePart c then
              let (name, more) := rest.span isNamePart
              tokensFrom fuel (.word (.ofChars c name) :: acc) more
            else tokensFrom fuel (.ofChar c :: acc) rest

/-- The tokens of a text. -/
def tokens (cs : List Char) : List Token :=
  tokensFrom cs.length [] cs

end Java

end Syntax

end SurfaceCoverage
