import SurfaceCoverage.Yaml.Cursor

/-!
# The text of scalars

A scalar is written between single or double quotes, as a block of lines, or plainly.  Over several
lines a single line break counts as a blank, and further ones count as they are; a literal block
keeps every line break.
-/

namespace SurfaceCoverage

namespace Yaml

/-- A reader of what stands at a cursor. -/
abbrev Reads (α : Type) := Except Fault (α × Cursor)

/-- What stands for a line break and the line breaks that follow it. -/
def joinBreaks (first : Char) (others : List Char) : List Char :=
  if first ≠ '\n' then first :: others
  else if others.isEmpty then [' ']
  else others

/-- The ends of empty lines, up to a character that is neither blank nor the end of a line. -/
def readQuotedBreaks : Nat → List Char → Cursor → Reads (List Char)
  | 0, acc, c => .ok (acc.reverse, c)
  | fuel + 1, acc, c =>
      if c.isDocumentMark then .error .markInQuote
      else
        let c := c.dropWhile fun x => x == ' ' || x == '\t'
        match c.lineBreak? with
        | some (b, c) => readQuotedBreaks fuel (b :: acc) c
        | none => .ok (acc.reverse, c)

/-- The character that a letter behind a backslash stands for. -/
def escapedChar? (c : Char) : Option Char :=
  match c with
  | '0' => some '\x00'
  | 'a' => some '\x07'
  | 'b' => some '\x08'
  | 't' | '\t' => some '\t'
  | 'n' => some '\n'
  | 'v' => some '\x0B'
  | 'f' => some '\x0C'
  | 'r' => some '\r'
  | 'e' => some '\x1B'
  | ' ' => some ' '
  | '"' => some '"'
  | '\\' => some '\\'
  | '/' => some '/'
  | 'N' => some '\x85'
  | '_' => some '\xA0'
  | 'L' => some '\u2028'
  | 'P' => some '\u2029'
  | _ => none

/-- How many hexadecimal digits follow a letter behind a backslash. -/
def escapeWidth? (c : Char) : Option Nat :=
  match c with
  | 'x' => some 2
  | 'u' => some 4
  | 'U' => some 8
  | _ => none

/-- The value of a hexadecimal digit. -/
def hexDigit? (c : Char) : Option Nat :=
  if c.isDigit then some (c.toNat - 48)
  else if 'a' ≤ c ∧ c ≤ 'f' then some (c.toNat - 87)
  else if 'A' ≤ c ∧ c ≤ 'F' then some (c.toNat - 55)
  else none

/-- The number that `width` hexadecimal digits at the front write. -/
def hexNumber? (width : Nat) (cs : List Char) : Option Nat :=
  let ds := cs.take width
  if ds.length = width then
    ds.foldl (fun n c => n.bind fun n => (hexDigit? c).map fun d => n * 16 + d) (some 0)
  else
    none

/-- Reads what follows a backslash: a character, or the end of a line, which is dropped. -/
def readEscape (c : Cursor) : Reads (List Char) :=
  match c.peek? with
  | none => .error .badEscape
  | some x =>
      match escapedChar? x, escapeWidth? x with
      | some y, _ => .ok ([y], c.next)
      | none, some width =>
          match hexNumber? width c.next.rest with
          | none => .error .badEscape
          | some n =>
              if 0xD800 ≤ n ∧ n < 0xE000 then .error .loneHalf
              else if n < 0x110000 then .ok ([Char.ofNat n], c.next.skip width)
              else .error (.badCodePoint n)
      | none, none =>
          match c.lineBreak? with
          | some (_, c) => readQuotedBreaks (c.rest.length + 1) [] c
          | none => .error .badEscape

/-- Reads blanks between the words of a quoted scalar, or what stands for the end of a line. -/
def readQuotedSpace (c : Cursor) : Reads (List Char) :=
  let (blanks, c) := c.span fun x => x == ' ' || x == '\t'
  match c.rest with
  | [] => .error .unclosedQuote
  | _ =>
      match c.lineBreak? with
      | none => .ok (blanks, c)
      | some (b, c) =>
          match readQuotedBreaks (c.rest.length + 1) [] c with
          | .error e => .error e
          | .ok (breaks, c) => .ok (joinBreaks b breaks, c)

/-- Reads a quoted scalar up to its closing quote; `acc` holds what was read, last piece first. -/
def readQuotedFrom (quote : Char) : Nat → List (List Char) → Cursor → Reads String
  | 0, _, _ => .error .unclosedQuote
  | fuel + 1, acc, c =>
      match c.rest with
      | [] => .error .unclosedQuote
      | x :: more =>
          if quote == '\'' && x == '\'' && more.head? == some '\'' then
            readQuotedFrom quote fuel (['\''] :: acc) (c.skip 2)
          else if x == quote then
            .ok (String.ofList acc.reverse.flatten, c.next)
          else if quote == '"' && x == '\\' then
            match readEscape c.next with
            | .error e => .error e
            | .ok (piece, c) => readQuotedFrom quote fuel (piece :: acc) c
          else if isSpace x then
            match readQuotedSpace c with
            | .error e => .error e
            | .ok (piece, c) => readQuotedFrom quote fuel (piece :: acc) c
          else
            readQuotedFrom quote fuel ([x] :: acc) c.next

/-- Reads a quoted scalar; the cursor stands at its opening quote. -/
def readQuoted (c : Cursor) : Reads String :=
  readQuotedFrom (c.peek?.getD '"') (c.rest.length + 1) [] c.next

/-- Reads the ends of empty lines in a plain scalar, up to the next word or a document mark. -/
def readPlainBreaks : Nat → List Char → Cursor → Option (List Char) × Cursor
  | 0, acc, c => (some acc.reverse, c)
  | fuel + 1, acc, c =>
      if c.isDocumentMark then (none, c)
      else
        let c := c.dropWhile (· == ' ')
        match c.lineBreak? with
        | some (b, c) => readPlainBreaks fuel (b :: acc) c
        | none => (some acc.reverse, c)

/-- What separates two words of a plain scalar. -/
structure PlainGap where
  text : List Char
  crossesLine : Bool

/-- Reads what separates two words of a plain scalar. -/
def readPlainGap (c : Cursor) : PlainGap × Cursor :=
  let (blanks, c) := c.span (· == ' ')
  match c.lineBreak? with
  | none => (⟨blanks, false⟩, c)
  | some (b, c) =>
      match readPlainBreaks (c.rest.length + 1) [] c with
      | (none, c) => (⟨[], true⟩, c)
      | (some breaks, c) => (⟨joinBreaks b breaks, true⟩, c)

/-- Whether a character of a flow collection ends a plain scalar in it. -/
def isFlowMark (c : Char) : Bool :=
  c == ',' || c == '[' || c == ']' || c == '\x7b' || c == '\x7d'

/-- How many characters a word of a plain scalar has. -/
def plainLength (flow : Bool) : List Char → Nat
  | [] => 0
  | x :: rest =>
      if isSpace x then 0
      else if x == ':' && rest.head?.all (fun y => isSpace y || (flow && isFlowMark y)) then 0
      else if flow && (isFlowMark x || x == '?') then 0
      else plainLength flow rest + 1

/-- A plain scalar that was read, and whether a line ended behind it. -/
structure PlainScalar where
  text : List Char
  crossedLine : Bool

/-- Reads words of a plain scalar.  Outside flow collections, a line that is indented by less than
`indent` ends it. -/
def readPlainFrom (flow : Bool) (indent : Int) :
    Nat → List (List Char) → PlainGap → Cursor → PlainScalar × Cursor
  | 0, acc, gap, c => (⟨acc.reverse.flatten, gap.crossesLine⟩, c)
  | fuel + 1, acc, gap, c =>
      let n := if c.holds (· == '#') then 0 else plainLength flow c.rest
      if n = 0 then (⟨acc.reverse.flatten, gap.crossesLine⟩, c)
      else
        let acc := c.rest.take n :: gap.text :: acc
        let (gap, c) := readPlainGap (c.skip n)
        if gap.text.isEmpty || c.holds (· == '#') || (!flow && (c.column : Int) < indent) then
          (⟨acc.reverse.flatten, gap.crossesLine⟩, c)
        else
          readPlainFrom flow indent fuel acc gap c

/-- Reads a plain scalar. -/
def readPlain (flow : Bool) (indent : Int) (c : Cursor) : PlainScalar × Cursor :=
  readPlainFrom flow indent (c.rest.length + 1) [] ⟨[], false⟩ c

/-- What becomes of the line breaks at the end of a block scalar. -/
inductive Chomping where
  | clip
  | strip
  | keep
  deriving Repr, DecidableEq

/-- The head of a block scalar. -/
structure BlockHead where
  chomping : Chomping
  indentation : Option Nat

/-- The chomping that a sign stands for. -/
def chomping? : Char → Option Chomping
  | '+' => some .keep
  | '-' => some .strip
  | _ => none

/-- Reads a digit of indentation, if one stands here; it may not be zero. -/
def readIndentation (c : Cursor) : Reads (Option Nat) :=
  match c.peek? with
  | some d =>
      if d == '0' then .error .badBlockHead
      else if d.isDigit then .ok (some (d.toNat - 48), c.next)
      else .ok (none, c)
  | none => .ok (none, c)

/-- Reads a chomping sign, if one stands here. -/
def readChomping (c : Cursor) : Option Chomping × Cursor :=
  match c.peek?.bind chomping? with
  | some chomping => (some chomping, c.next)
  | none => (none, c)

/-- The place behind blanks, a comment and the end of the line; nothing else may stand there. -/
def restOfLine (fault : Fault) (c : Cursor) : Except Fault Cursor :=
  let c := (c.dropWhile (· == ' ')).afterComment
  if c.endAt 0 isBreak then .ok c.afterBreak else .error fault

/-- Reads the head of a block scalar and the rest of its line. -/
def readBlockHead (c : Cursor) : Reads BlockHead :=
  let (before, c) := readChomping c
  match readIndentation c with
  | .error e => .error e
  | .ok (indentation, c) =>
      let (behind, c) :=
        match before with
        | some _ => (none, c)
        | none => if indentation.isSome then readChomping c else (none, c)
      if !c.endAt 0 (fun x => x == ' ' || isBreak x) then .error .badBlockHead
      else
        match restOfLine .badBlockHead c with
        | .error e => .error e
        | .ok c => .ok (⟨(before.or behind).getD .clip, indentation⟩, c)

/-- Reads empty lines before the first line of a block: their ends, and the deepest column. -/
def readBlockLead : Nat → List Char → Nat → Cursor → (List Char × Nat) × Cursor
  | 0, acc, deepest, c => ((acc.reverse, deepest), c)
  | fuel + 1, acc, deepest, c =>
      match c.lineBreak? with
      | some (b, c) => readBlockLead fuel (b :: acc) deepest c
      | none =>
          if c.holds (· == ' ') then
            readBlockLead fuel acc (max deepest c.next.column) c.next
          else
            ((acc.reverse, deepest), c)

/-- The place behind the blanks of indentation. -/
def skipIndent (indent : Int) : Nat → Cursor → Cursor
  | 0, c => c
  | fuel + 1, c =>
      if (c.column : Int) < indent && c.holds (· == ' ') then skipIndent indent fuel c.next else c

/-- Reads empty lines inside a block, and the indentation of the line behind them. -/
def readBlockBreaks (indent : Int) : Nat → List Char → Cursor → List Char × Cursor
  | 0, acc, c => (acc.reverse, c)
  | fuel + 1, acc, c =>
      let c := skipIndent indent c.rest.length c
      match c.lineBreak? with
      | some (b, c) => readBlockBreaks indent fuel (b :: acc) c
      | none => (acc.reverse, c)

/-- The end of a block: the break of the last line and those behind it, as chomping leaves them. -/
def chomped (chomping : Chomping) (last : List Char) (breaks : List Char) : List Char :=
  match chomping with
  | .strip => []
  | .clip => last
  | .keep => last ++ breaks

/-- Whether a line of a block starts with a blank. -/
def startsBlank (c : Cursor) : Bool :=
  c.holds fun x => x == ' ' || x == '\t'

/-- Reads the lines of a block.  `breaks` are the ends of the empty lines before. -/
def readBlockLines (folded : Bool) (chomping : Chomping) (indent : Int) :
    Nat → List (List Char) → List Char → List Char → Cursor → List Char × Cursor
  | 0, acc, _, _, c => (acc.reverse.flatten, c)
  | fuel + 1, acc, last, breaks, c =>
      if (c.column : Int) = indent && !c.rest.isEmpty then
        let blank := startsBlank c
        let (line, c) := c.span fun x => !isBreak x
        let (last, c) :=
          match c.lineBreak? with
          | some (b, c) => ([b], c)
          | none => ([], c)
        let acc := line :: breaks :: acc
        let (breaks, c) := readBlockBreaks indent (c.rest.length + 1) [] c
        if (c.column : Int) = indent && !c.rest.isEmpty then
          let joint :=
            if folded && last == ['\n'] && !blank && !startsBlank c then
              (if breaks.isEmpty then [' '] else [])
            else last
          readBlockLines folded chomping indent fuel (joint :: acc) last breaks c
        else
          (acc.reverse.flatten ++ chomped chomping last breaks, c)
      else
        (acc.reverse.flatten ++ chomped chomping last breaks, c)

/-- Reads a block scalar below a node that is indented by `parent`; the cursor stands at its
mark. -/
def readBlock (folded : Bool) (parent : Int) (c : Cursor) : Reads String :=
  match readBlockHead c.next with
  | .error e => .error e
  | .ok (head, c) =>
      let least := max (parent + 1) 1
      let (indent, breaks, c) :=
        match head.indentation with
        | some n =>
            let indent := least + n - 1
            let (breaks, c) := readBlockBreaks indent (c.rest.length + 1) [] c
            (indent, breaks, c)
        | none =>
            let ((breaks, deepest), c) := readBlockLead (c.rest.length + 1) [] 0 c
            (max least deepest, breaks, c)
      let (text, c) :=
        readBlockLines folded head.chomping indent (c.rest.length + 1) [] [] breaks c
      .ok (String.ofList text, c)

end Yaml

end SurfaceCoverage
