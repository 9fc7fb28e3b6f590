/-!
# Tokens and token trees

Program text is cut into tokens, and tokens between matching brackets are put into groups.  What
stands in comments is no token, and what stands in literals is not looked into.
-/

namespace SurfaceCoverage

namespace Syntax

/-- The kinds of brackets. -/
inductive Bracket where
  | round
  | square
  | curly
  deriving Repr, DecidableEq

/-- The bracket that a character opens. -/
def opening? (c : Char) : Option Bracket :=
  if c = '(' then some .round
  else if c = '[' then some .square
  else if c = '\x7b' then some .curly
  else none

/-- The bracket that a character closes. -/
def closing? (c : Char) : Option Bracket :=
  if c = ')' then some .round
  else if c = ']' then some .square
  else if c = '\x7d' then some .curly
  else none

/-- A word is a text that is not empty. -/
abbrev Word := { s : String // s ≠ "" }

/-- The word of a first character and those behind it. -/
def Word.ofChars (c : Char) (cs : List Char) : Word :=
  ⟨String.ofList (c :: cs), by simp⟩

/-- The word with the given text, if there is one. -/
def Word.of? (s : String) : Option Word :=
  if h : s ≠ "" then some ⟨s, h⟩ else none

/-- A token: a name or a keyword, a literal (a number, a character, a text or a lifetime), a
bracket, or any other character. -/
inductive Token where
  | word (w : Word)
  | literal
  | mark (c : Char)
  | opens (b : Bracket)
  | closes (b : Bracket)
  deriving Repr, DecidableEq

/-- A bracket or a mark. -/
def Token.ofChar (c : Char) : Token :=
  match opening? c, closing? c with
  | some b, _ => .opens b
  | none, some b => .closes b
  | none, none => .mark c

/-- A token tree: a token that is no bracket, or what stands between matching brackets. -/
inductive Tree where
  | word (w : Word)
  | literal
  | mark (c : Char)
  | group (b : Bracket) (inside : List Tree)

/-- Groups tokens.  `outer` holds the groups that are open around the current one, innermost first,
each with what stands before it; `acc` is what was read of the current one.  Both are last first. -/
def group (outer : List (Bracket × List Tree)) (acc : List Tree) : List Token → List Tree
  | [] =>
      match outer with
      | [] => acc.reverse
      | (b, before) :: more =>
          (more.foldl (fun inner o => Tree.group o.1 inner.reverse :: o.2)
            (Tree.group b acc.reverse :: before)).reverse
  | .word w :: rest => group outer (.word w :: acc) rest
  | .literal :: rest => group outer (.literal :: acc) rest
  | .mark c :: rest => group outer (.mark c :: acc) rest
  | .opens b :: rest => group ((b, acc) :: outer) [] rest
  | .closes _ :: rest =>
      match outer with
      | [] => group [] acc rest
      | (b, before) :: more => group more (.group b acc.reverse :: before) rest

/-- The token trees of a list of tokens. -/
def treesOf (tokens : List Token) : List Tree :=
  group [] [] tokens

/-- Whether a character separates tokens and is no token. -/
def isSpace (c : Char) : Bool :=
  c = ' ' || c = '\t' || c = '\n' || c = '\r' || c.toNat = 0x0B || c.toNat = 0x0C ||
    c.toNat = 0x85 || c.toNat = 0xA0 || c.toNat = 0x1680 ||
    (0x2000 ≤ c.toNat && c.toNat ≤ 0x200A) || c.toNat = 0x2028 || c.toNat = 0x2029 ||
    c.toNat = 0x202F || c.toNat = 0x205F || c.toNat = 0x3000 || c.toNat = 0xFEFF

/-- Whether a character may stand in a name: an ASCII letter, a digit, a low line or any character
beyond ASCII that is no space. -/
def isNameChar (c : Char) : Bool :=
  c.isAlphanum || c = '_' || (0x80 ≤ c.toNat && !isSpace c)

/-- Whether a character may start a name. -/
def isNameStart (c : Char) : Bool :=
  isNameChar c && !c.isDigit

/-- What follows a line. -/
def afterLine (cs : List Char) : List Char :=
  cs.dropWhile (· ≠ '\n')

/-- What follows the end of a comment. -/
def afterComment : List Char → List Char
  | [] => []
  | '*' :: '/' :: rest => rest
  | _ :: rest => afterComment rest

/-- What follows the end of a comment that may hold comments; `depth` of them are open. -/
def afterNestedComment (depth : Nat) : List Char → List Char
  | [] => []
  | '/' :: '*' :: rest => afterNestedComment (depth + 1) rest
  | '*' :: '/' :: rest => if depth = 0 then rest else afterNestedComment (depth - 1) rest
  | _ :: rest => afterNestedComment depth rest

/-- What follows a literal that ends with the character `q`; a backslash hides what follows it. -/
def afterQuote (q : Char) : List Char → List Char
  | [] => []
  | '\\' :: _ :: rest => afterQuote q rest
  | c :: rest => if c = q then rest else afterQuote q rest

/-- What follows a number, given what follows its first digit: letters, digits and points that are
followed by a digit. -/
def afterNumber : List Char → List Char
  | '.' :: d :: rest => if d.isDigit then afterNumber rest else '.' :: d :: rest
  | c :: rest => if isNameChar c then afterNumber rest else c :: rest
  | [] => []

end Syntax

end SurfaceCoverage
