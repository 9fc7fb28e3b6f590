import SurfaceCoverage.Decimal.Shortest
import SurfaceCoverage.Json.Basic
import SurfaceCoverage.Text.Quoted

/-!
# Writing JSON

Arrays and objects are written over several lines, two blanks deeper for each level; empty ones
take two characters.  Texts keep every character but quotes, backslashes and control characters.
-/

namespace SurfaceCoverage

namespace Json

/-- A character inside a text. -/
def escapeChar (c : Char) : List Char :=
  if c = '"' then ['\\', '"']
  else if c = '\\' then ['\\', '\\']
  else if c = '\n' then ['\\', 'n']
  else if c = '\r' then ['\\', 'r']
  else if c = '\t' then ['\\', 't']
  else if c.toNat = 0x08 then ['\\', 'b']
  else if c.toNat = 0x0C then ['\\', 'f']
  else if c.toNat < 0x20 then '\\' :: 'u' :: Text.hexDigits 4 c.toNat
  else [c]

/-- A text between quotes. -/
def textChars (s : String) : List Char :=
  '"' :: (s.toList.flatMap escapeChar ++ ['"'])

/-- A floating-point number; what is no finite number has a name. -/
def floatChars (x : Float) : List Char :=
  match Decimal.Double.ofFloat x with
  | .notANumber => "NaN".toList
  | .infinite negative => (if negative then "-Infinity" else "Infinity").toList
  | d => (Decimal.write Decimal.plainStyle d).toList

/-- A line break and the blanks of a level. -/
def lineBreak (level : Nat) : List Char :=
  '\n' :: List.replicate (2 * level) ' '

mutual

/-- A document at a level. -/
def chars (level : Nat) : Json → List Char
  | .null => "null".toList
  | .bool b => (if b then "true" else "false").toList
  | .int n => (toString n).toList
  | .float x => floatChars x
  | .text s => textChars s
  | .list [] => ['[', ']']
  | .list (item :: rest) =>
      '[' :: (lineBreak (level + 1) ++ item.chars (level + 1) ++
        moreItems (level + 1) rest ++ lineBreak level ++ [']'])
  | .object [] => ['\x7b', '\x7d']
  | .object ((name, value) :: rest) =>
      '\x7b' :: (lineBreak (level + 1) ++ textChars name ++ ':' :: ' ' :: value.chars (level + 1) ++
        moreMembers (level + 1) rest ++ lineBreak level ++ ['\x7d'])

/-- The items of an array after the first one. -/
def moreItems (level : Nat) : List Json → List Char
  | [] => []
  | item :: rest => ',' :: (lineBreak level ++ item.chars level ++ moreItems level rest)

/-- The members of an object after the first one. -/
def moreMembers (level : Nat) : List (String × Json) → List Char
  | [] => []
  | (name, value) :: rest =>
      ',' :: (lineBreak level ++ textChars name ++ ':' :: ' ' :: value.chars level ++
        moreMembers level rest)

end

/-- The text of a document, with a line feed at its end. -/
def render (j : Json) : String :=
  String.ofList (j.chars 0 ++ ['\n'])

end Json

end SurfaceCoverage
