import SurfaceCoverage.Decimal.Nearest
import SurfaceCoverage.Json.Basic

/-!
# Reading JSON

A document is read from left to right.  The first place where the text cannot go on decides the
error, which names what was expected there.

**Results.**
* `skipBlanks_cons`: anything else is left alone.
-/

namespace SurfaceCoverage

namespace Json

/-- Why a text is no JSON document, or none that can be read: the halves of a pair are no characters
by themselves, so a text that holds a lone one has no place here. -/
inductive Cause where
  | byteOrderMark
  | value
  | colon
  | comma
  | name
  | extra
  | unterminated
  | control
  | escape
  | codePoint
  | loneHalf
  | digits (count : Nat)
  deriving Repr, DecidableEq

/-- What is wrong. -/
def Cause.text : Cause → String
  | .byteOrderMark => "Unexpected UTF-8 BOM (decode using utf-8-sig)"
  | .value => "Expecting value"
  | .colon => "Expecting ':' delimiter"
  | .comma => "Expecting ',' delimiter"
  | .name => "Expecting property name enclosed in double quotes"
  | .extra => "Extra data"
  | .unterminated => "Unterminated string starting at"
  | .control => "Invalid control character at"
  | .escape => "Invalid \\escape"
  | .codePoint => "Invalid \\uXXXX escape"
  | .loneHalf => "Lone half of a pair"
  | .digits count => Decimal.tooManyDigits count

/-- A refusal: why, and how many characters are left from there on. -/
structure Stop where
  cause : Cause
  left : Nat

/-- Why and where a text is refused. -/
structure ReadError where
  cause : Cause
  line : Nat
  column : Nat
  position : Nat
  deriving Repr, DecidableEq

/-- What is wrong, and where. -/
def ReadError.message (e : ReadError) : String :=
  match e.cause with
  | .digits _ => e.cause.text
  | _ => s!"{e.cause.text}: line {e.line} column {e.column} (char {e.position})"

/-- The place of a refusal in the text. -/
def Stop.inText (text : List Char) (s : Stop) : ReadError :=
  let position := text.length - s.left
  let before := text.take position
  { cause := s.cause
    line := before.count '\n' + 1
    column := (before.reverse.takeWhile (· ≠ '\n')).length + 1
    position := position }

/-- Whether a character separates the parts of a document. -/
def isBlank (c : Char) : Bool :=
  c = ' ' || c = '\t' || c = '\n' || c = '\r'

/-- What follows the blanks. -/
def skipBlanks (cs : List Char) : List Char :=
  cs.dropWhile isBlank

/-- The value of a hexadecimal digit. -/
def hexValue? (c : Char) : Option Nat :=
  if '0' ≤ c ∧ c ≤ '9' then some (c.toNat - 48)
  else if 'a' ≤ c ∧ c ≤ 'f' then some (c.toNat - 87)
  else if 'A' ≤ c ∧ c ≤ 'F' then some (c.toNat - 55)
  else none

/-- The number that four hexadecimal digits write. -/
def hexQuad? (a b c d : Char) : Option Nat := do
  let a ← hexValue? a
  let b ← hexValue? b
  let c ← hexValue? c
  let d ← hexValue? d
  return ((a * 16 + b) * 16 + c) * 16 + d

/-- The character that a letter after a backslash stands for. -/
def escaped? : Char → Option Char
  | '"' => some '"'
  | '\\' => some '\\'
  | '/' => some '/'
  | 'b' => some (Char.ofNat 8)
  | 'f' => some (Char.ofNat 12)
  | 'n' => some '\n'
  | 'r' => some '\r'
  | 't' => some '\t'
  | _ => none

/-- The character with a code, unless the code is that of a half of a pair. -/
def codeChar? (n : Nat) : Option Char :=
  if 0xD800 ≤ n ∧ n < 0xE000 then none else some (Char.ofNat n)

/-- The number of a further code point that is written right here and is followed by something:
`none` if none is, and no number if its digits are wrong. -/
def lowHalf? : List Char → Option (Option Nat)
  | '\\' :: 'u' :: a :: b :: c :: d :: _ :: _ => some (hexQuad? a b c d)
  | _ => none

/-- The character that a code makes together with the code point behind it, if they are the halves
of a pair; the digits of that code point may be wrong. -/
def pairedChar? (high : Nat) (behind : List Char) : Option (Except Unit Char) :=
  if 0xD800 ≤ high ∧ high < 0xDC00 then
    match lowHalf? behind with
    | some none => some (.error ())
    | some (some low) =>
        if 0xDC00 ≤ low ∧ low < 0xE000 then
          some (.ok (Char.ofNat (0x10000 + (high - 0xD800) * 0x400 + (low - 0xDC00))))
        else none
    | none => none
  else none

/-- Reads the inside of a text, with what was read so far, last character first.  `start` is how
many characters were left at its opening quote. -/
def readText (start : Nat) (acc : List Char) : List Char → Except Stop (String × List Char)
  | [] => .error ⟨.unterminated, start⟩
  | '"' :: rest => .ok (String.ofList acc.reverse, rest)
  | ['\\'] => .error ⟨.unterminated, start⟩
  | '\\' :: 'u' :: a :: b :: c :: d :: e :: rest =>
      let left := rest.length + 6
      match hexQuad? a b c d with
      | none => .error ⟨.codePoint, left⟩
      | some high =>
          match pairedChar? high (e :: rest) with
          | some (.error _) => .error ⟨.codePoint, rest.length⟩
          | some (.ok c) => readText start (c :: acc) (rest.drop 5)
          | none =>
              match codeChar? high with
              | none => .error ⟨.loneHalf, left⟩
              | some c => readText start (c :: acc) (e :: rest)
  | '\\' :: 'u' :: rest => .error ⟨.codePoint, rest.length + 1⟩
  | '\\' :: c :: rest =>
      match escaped? c with
      | some c => readText start (c :: acc) rest
      | none => .error ⟨.escape, rest.length + 2⟩
  | c :: rest =>
      if c.toNat < 0x20 then .error ⟨.control, rest.length + 1⟩
      else readText start (c :: acc) rest
  termination_by cs => cs.length
  decreasing_by all_goals (simp; try omega)

/-- The decimal digits at the front, and what follows them. -/
def spanDigits (cs : List Char) : List Char × List Char :=
  cs.span Char.isDigit

/-- The fraction at the front: its digits, if a point is followed by one. -/
def readFraction (cs : List Char) : Option (List Char) × List Char :=
  match cs with
  | '.' :: rest =>
      match spanDigits rest with
      | ([], _) => (none, cs)
      | (ds, rest) => (some ds, rest)
  | _ => (none, cs)

/-- The exponent at the front, if its letter and sign are followed by a digit. -/
def readExponent (cs : List Char) : Option Int × List Char :=
  match cs with
  | c :: rest =>
      if c = 'e' ∨ c = 'E' then
        let (negative, digits) :=
          match rest with
          | '-' :: more => (true, more)
          | '+' :: more => (false, more)
          | _ => (false, rest)
        match spanDigits digits with
        | ([], _) => (none, cs)
        | (ds, more) =>
            let n : Int := Decimal.digitsValue ds
            (some (if negative then -n else n), more)
      else (none, cs)
  | [] => (none, cs)

/-- The whole part at the front: a zero alone, or digits that start with another one. -/
def readWhole (cs : List Char) : Option (List Char × List Char) :=
  match cs with
  | '0' :: rest => some (['0'], rest)
  | c :: _ => if c.isDigit then some (spanDigits cs) else none
  | [] => none

/-- Reads a number.  `left` is how many characters are left at its start. -/
def readNumber (left : Nat) (cs : List Char) : Except Stop (Json × List Char) :=
  let (negative, body) :=
    match cs with
    | '-' :: rest => (true, rest)
    | _ => (false, cs)
  match readWhole body with
  | none => .error ⟨.value, left⟩
  | some (whole, rest) =>
      match readFraction rest with
      | (fraction, rest) =>
          match readExponent rest with
          | (exponent, rest) =>
              if fraction.isNone && exponent.isNone then
                if Decimal.digitLimit < whole.length then .error ⟨.digits whole.length, left⟩
                else
                  let n : Int := Decimal.digitsValue whole
                  .ok (.int (if negative then -n else n), rest)
              else
                let places := fraction.getD []
                let e := exponent.getD 0 - places.length
                .ok (.float (Decimal.nearest negative (whole ++ places) e), rest)

/-- What follows a word at the front, if the word stands there. -/
def afterWord? (word : String) (cs : List Char) : Option (List Char) :=
  if word.toList.isPrefixOf cs then some (cs.drop word.length) else none

mutual

/-- Reads a value; `fuel` bounds the steps. -/
def readValue : Nat → List Char → Except Stop (Json × List Char)
  | 0, cs => .error ⟨.value, cs.length⟩
  | fuel + 1, cs =>
      match cs with
      | [] => .error ⟨.value, 0⟩
      | '"' :: rest =>
          match readText cs.length [] rest with
          | .ok (s, rest) => .ok (.text s, rest)
          | .error e => .error e
      | '\x7b' :: rest =>
          match skipBlanks rest with
          | '\x7d' :: rest => .ok (.object [], rest)
          | rest => readMembers fuel [] rest
      | '[' :: rest =>
          match skipBlanks rest with
          | ']' :: rest => .ok (.list [], rest)
          | rest => readItems fuel [] rest
      | _ =>
          match afterWord? "null" cs, afterWord? "true" cs, afterWord? "false" cs with
          | some rest, _, _ => .ok (.null, rest)
          | _, some rest, _ => .ok (.bool true, rest)
          | _, _, some rest => .ok (.bool false, rest)
          | none, none, none =>
              match afterWord? "NaN" cs, afterWord? "Infinity" cs, afterWord? "-Infinity" cs with
              | some rest, _, _ => .ok (.float (0.0 / 0.0), rest)
              | _, some rest, _ => .ok (.float (1.0 / 0.0), rest)
              | _, _, some rest => .ok (.float (-1.0 / 0.0), rest)
              | none, none, none => readNumber cs.length cs

/-- Reads the items of an array from the start of one on, with those read so far, last first. -/
def readItems : Nat → List Json → List Char → Except Stop (Json × List Char)
  | 0, _, cs => .error ⟨.value, cs.length⟩
  | fuel + 1, acc, cs =>
      match readValue fuel cs with
      | .error e => .error e
      | .ok (item, rest) =>
          match skipBlanks rest with
          | ']' :: rest => .ok (.list (item :: acc).reverse, rest)
          | ',' :: rest => readItems fuel (item :: acc) (skipBlanks rest)
          | rest => .error ⟨.comma, rest.length⟩

/-- Reads the members of an object from a name on, with those read so far. -/
def readMembers : Nat → List (String × Json) → List Char → Except Stop (Json × List Char)
  | 0, _, cs => .error ⟨.name, cs.length⟩
  | fuel + 1, acc, cs =>
      match cs with
      | '"' :: rest =>
          match readText cs.length [] rest with
          | .error e => .error e
          | .ok (name, rest) =>
              match skipBlanks rest with
              | ':' :: rest =>
                  match readValue fuel (skipBlanks rest) with
                  | .error e => .error e
                  | .ok (value, rest) =>
                      let members := OrderedMap.put name value acc
                      match skipBlanks rest with
                      | '\x7d' :: rest => .ok (.object members, rest)
                      | ',' :: rest => readMembers fuel members (skipBlanks rest)
                      | rest => .error ⟨.comma, rest.length⟩
              | rest => .error ⟨.colon, rest.length⟩
      | _ => .error ⟨.name, cs.length⟩

end

/-- Reads a document that the whole text makes up. -/
def readAll (cs : List Char) : Except Stop Json :=
  if cs.head? = some (Char.ofNat 0xFEFF) then .error ⟨.byteOrderMark, cs.length⟩
  else
    match readValue (2 * cs.length + 3) (skipBlanks cs) with
    | .error e => .error e
    | .ok (j, rest) =>
        match skipBlanks rest with
        | [] => .ok j
        | rest => .error ⟨.extra, rest.length⟩

/-- Reads a text as a document. -/
def parse (text : String) : Except ReadError Json :=
  match readAll text.toList with
  | .ok j => .ok j
  | .error e => .error (e.inText text.toList)

theorem skipBlanks_cons {c : Char} (cs : List Char) (h : isBlank c = false) :
    skipBlanks (c :: cs) = c :: cs := by
  simp [skipBlanks, h]

end Json

end SurfaceCoverage
