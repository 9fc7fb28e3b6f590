import SurfaceCoverage.Text.CharSet

/-!
# Cursors

A cursor is a place in a text: what is left, and the index, line and column of its first character.
A line ends with a line feed, a carriage return, both together, or one of three Unicode breaks; a
byte order mark takes no column.
-/

namespace SurfaceCoverage

namespace Yaml

/-- Why a text is no YAML document, or none that can be read: the halves of a pair are no characters
by themselves, so a text with an escape for one has no place here. -/
inductive Fault where
  | unprintable (c : Char)
  | strayCharacter (c : Char)
  | misplacedEntry
  | misplacedKey
  | misplacedValue
  | missingColon
  | badDirective
  | badAnchor
  | badTag
  | badBlockHead
  | badEscape
  | badCodePoint (n : Nat)
  | loneHalf
  | unclosedQuote
  | markInQuote
  | unexpectedToken
  | refusedDirective
  | unknownHandle (handle : String)
  | unknownAlias (name : String)
  | repeatedAnchor (name : String)
  | secondDocument
  | unknownTag (tag : String)
  | wrongKind
  | badMerge
  | badKey
  | badBinary
  deriving Repr, DecidableEq

/-- The numbers below this one fit into a code; not all of them are characters. -/
def Fault.codeLimit : Nat := 2147483648

/-- What is wrong with a text. -/
def Fault.message : Fault → String
  | .unprintable _ => "special characters are not allowed"
  | .strayCharacter _ => "found character that cannot start any token"
  | .misplacedEntry => "sequence entries are not allowed here"
  | .misplacedKey => "mapping keys are not allowed here"
  | .misplacedValue => "mapping values are not allowed here"
  | .missingColon => "could not find expected ':'"
  | .badDirective => "malformed directive"
  | .badAnchor => "malformed anchor or alias"
  | .badTag => "malformed tag"
  | .badBlockHead => "malformed block scalar"
  | .badEscape => "found unknown escape character"
  | .badCodePoint _ => "no such character"
  | .loneHalf => "lone half of a pair"
  | .unclosedQuote => "found unexpected end of stream"
  | .markInQuote => "found unexpected document separator"
  | .unexpectedToken => "found an unexpected token"
  | .refusedDirective => "refused directive"
  | .unknownHandle handle => s!"found undefined tag handle {handle}"
  | .unknownAlias name => s!"found undefined alias {name}"
  | .repeatedAnchor name => s!"found duplicate anchor {name}"
  | .secondDocument => "but found another document"
  | .unknownTag tag => s!"could not determine a constructor for the tag {tag}"
  | .wrongKind => "found a node of another kind than expected"
  | .badMerge => "expected a mapping or list of mappings for merging"
  | .badKey => "found unhashable key"
  | .badBinary => "failed to decode base64 data"

/-- Whether a character ends a line. -/
def isBreak (c : Char) : Bool :=
  c == '\n' || c == '\r' || c == '\x85' || c == '\u2028' || c == '\u2029'

/-- Whether a character is a blank, a tab or the end of a line. -/
def isSpace (c : Char) : Bool :=
  c == ' ' || c == '\t' || isBreak c

/-- A place in a text. -/
structure Cursor where
  rest : List Char
  index : Nat
  line : Nat
  column : Nat

namespace Cursor

/-- The start of a text. -/
def start (text : List Char) : Cursor :=
  ⟨text, 0, 0, 0⟩

/-- The place behind the first character. -/
def next (c : Cursor) : Cursor :=
  match c.rest with
  | [] => c
  | x :: rest =>
      if isBreak x && !(x == '\r' && rest.head? == some '\n') then
        ⟨rest, c.index + 1, c.line + 1, 0⟩
      else if x == '\uFEFF' then
        ⟨rest, c.index + 1, c.line, c.column⟩
      else
        ⟨rest, c.index + 1, c.line, c.column + 1⟩

/-- The place some characters further on. -/
def skip : Nat → Cursor → Cursor
  | 0, c => c
  | n + 1, c => skip n c.next

/-- The first character. -/
def peek? (c : Cursor) : Option Char :=
  c.rest.head?

/-- The character `n` places further on. -/
def peekAt? (n : Nat) (c : Cursor) : Option Char :=
  c.rest[n]?

/-- Whether the first character exists and satisfies `p`. -/
def holds (p : Char → Bool) (c : Cursor) : Bool :=
  c.rest.head?.any p

/-- Whether the character `n` places further on is missing or satisfies `p`. -/
def endAt (n : Nat) (p : Char → Bool) (c : Cursor) : Bool :=
  c.rest[n]?.all p

/-- The characters at the front that satisfy `p`, and the place behind them. -/
def span (p : Char → Bool) (c : Cursor) : List Char × Cursor :=
  let taken := c.rest.takeWhile p
  (taken, c.skip taken.length)

/-- The place behind the characters at the front that satisfy `p`. -/
def dropWhile (p : Char → Bool) (c : Cursor) : Cursor :=
  (c.span p).2

/-- Reads the end of a line.  All ends of lines but the two Unicode separators are alike. -/
def lineBreak? (c : Cursor) : Option (Char × Cursor) :=
  match c.rest with
  | '\r' :: '\n' :: _ => some ('\n', c.skip 2)
  | x :: _ =>
      if x == '\u2028' || x == '\u2029' then some (x, c.next)
      else if isBreak x then some ('\n', c.next)
      else none
  | [] => none

/-- The place behind the end of a line, if one stands here. -/
def afterBreak (c : Cursor) : Cursor :=
  ((c.lineBreak?).map Prod.snd).getD c

/-- The place behind a comment, if one stands here. -/
def afterComment (c : Cursor) : Cursor :=
  if c.holds (· == '#') then c.dropWhile fun x => !isBreak x else c

/-- Whether three equal characters stand here alone, as the marks of documents do. -/
def isMark (x : Char) (c : Cursor) : Bool :=
  c.rest.take 3 == [x, x, x] && c.endAt 3 isSpace

/-- Whether a document starts or ends here. -/
def isDocumentMark (c : Cursor) : Bool :=
  c.isMark '-' || c.isMark '.'

end Cursor

end Yaml

end SurfaceCoverage
