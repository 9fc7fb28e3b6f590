import SurfaceCoverage.Syntax.Token

/-!
# Tokens of Rust sources

Comments nest.  A raw text ends with a quote and as many number signs as it started with.  A quote
starts a character if the next character or escape is followed by a quote, and a lifetime otherwise.
-/

namespace SurfaceCoverage

namespace Syntax

namespace Rust

/-- Whether `n` number signs stand at the front. -/
def startsWithSigns : Nat → List Char → Bool
  | 0, _ => true
  | n + 1, '#' :: rest => startsWithSigns n rest
  | _ + 1, _ => false

/-- What follows the end of a raw text with `n` number signs. -/
def afterRaw (n : Nat) : List Char → List Char
  | [] => []
  | c :: rest => if c = '"' && startsWithSigns n rest then rest.drop n else afterRaw n rest

/-- What follows a raw text whose number signs or quote stand at the front. -/
def rawText? (cs : List Char) : Option (List Char) :=
  let (signs, rest) := cs.span (· = '#')
  match rest with
  | '"' :: rest => some (afterRaw signs.length rest)
  | _ => none

/-- The words that stand in front of a raw text. -/
def rawPrefixes : List String :=
  ["r", "br", "cr"]

/-- The words that stand in front of a text. -/
def textPrefixes : List String :=
  ["b", "c"]

/-- What a quote at the front starts: what follows the character or lifetime. -/
def afterSingleQuote : List Char → List Char
  | '\'' :: rest => rest
  | '\\' :: rest => afterQuote '\'' ('\\' :: rest)
  | _ :: '\'' :: rest => rest
  | cs => cs.dropWhile isNameChar

/-- Cuts a text into tokens, with those cut so far, last first.  Every step takes a character, so
`fuel` need be no more than their number. -/
def tokensFrom : Nat → List Token → List Char → List Token
  | 0, acc, _ => acc.reverse
  | _, acc, [] => acc.reverse
  | fuel + 1, acc, c :: rest =>
      if isSpace c then tokensFrom fuel acc rest
      else
        match c, rest with
        | '/', '/' :: more => tokensFrom fuel acc (afterLine more)
        | '/', '*' :: more => tokensFrom fuel acc (afterNestedComment 0 more)
        | '"', more => tokensFrom fuel (.literal :: acc) (afterQuote '"' more)
        | '\'', more => tokensFrom fuel (.literal :: acc) (afterSingleQuote more)
        | c, rest =>
            if c.isDigit then tokensFrom fuel (.literal :: acc) (afterNumber rest)
            else if isNameStart c then
              let (name, more) := rest.span isNameChar
              let word := Word.ofChars c name
              match rawPrefixes.contains word.val, rawText? more with
              | true, some after => tokensFrom fuel (.literal :: acc) after
              | _, _ =>
                  match word.val, more with
                  | "r", '#' :: n :: more =>
                      if isNameStart n then
                        let (name, more) := more.span isNameChar
                        tokensFrom fuel (.word (.ofChars 'r' ('#' :: n :: name)) :: acc) more
                      else tokensFrom fuel (.mark '#' :: .word word :: acc) (n :: more)
                  | text, '"' :: after =>
                      if textPrefixes.contains text then
                        tokensFrom fuel (.literal :: acc) (afterQuote '"' after)
                      else tokensFrom fuel (.word word :: acc) more
                  | "b", '\'' :: after => tokensFrom fuel (.literal :: acc) (afterQuote '\'' after)
                  | _, _ => tokensFrom fuel (.word word :: acc) more
            else tokensFrom fuel (.ofChar c :: acc) rest

/-- What follows a first line that names an interpreter. -/
def afterInterpreterLine (cs : List Char) : List Char :=
  match cs with
  | '#' :: '!' :: rest =>
      match rest.dropWhile isSpace with
      | '[' :: _ => cs
      | _ => afterLine rest
  | _ => cs

/-- The tokens of a text. -/
def tokens (cs : List Char) : List Token :=
  tokensFrom cs.length [] (afterInterpreterLine cs)

end Rust

end Syntax

end SurfaceCoverage
