import SurfaceCoverage.Yaml.Scalar

/-!
# Tokens

A text is cut into tokens.  Indentation opens and closes block collections, so some tokens have no
characters of their own.  A scalar turns out to be a key only when its colon is met: until then its
place is kept, and the token of a key is put there afterwards.  The place of a key is given up when
the line ends or the scalar gets too long.
-/

namespace SurfaceCoverage

namespace Yaml

/-- A directive. -/
inductive Directive where
  | version (major : Nat)
  | handle (handle meaning : String)
  | other
  deriving Repr, DecidableEq

/-- A token. -/
inductive Token where
  | directive (d : Directive)
  | documentStart
  | documentEnd
  | sequenceStart
  | mappingStart
  | blockEnd
  | flowSequenceStart
  | flowSequenceEnd
  | flowMappingStart
  | flowMappingEnd
  | entry
  | comma
  | key
  | value
  | alias (name : String)
  | anchor (name : String)
  | tag (handle : Option String) (suffix : String)
  | scalar (plain : Bool) (text : String)
  deriving Repr, DecidableEq

/-- The place of a scalar that may turn out to be a key. -/
structure KeyPlace where
  number : Nat
  required : Bool
  index : Nat
  line : Nat
  column : Nat

/-- The state of cutting a text into tokens. -/
structure Lexer where
  cursor : Cursor
  tokens : Array Token
  flow : Nat
  indent : Int
  outer : List Int
  keyAllowed : Bool
  places : List (Nat × KeyPlace)

/-- How many characters a key may have on its line. -/
def keyLimit : Nat := 1024

/-- Inserts a token in front of the one with the given number. -/
def insertAt (n : Nat) (t : Token) (ts : Array Token) : Array Token :=
  (ts.extract 0 n).push t ++ ts.extract n ts.size

namespace Lexer

/-- The state before a text. -/
def start (text : List Char) : Lexer :=
  let c := Cursor.start text
  ⟨if c.holds (· == '\uFEFF') then c.next else c, #[], 0, -1, [], true, []⟩

/-- Adds a token. -/
def push (l : Lexer) (t : Token) : Lexer :=
  { l with tokens := l.tokens.push t }

/-- Adds a token and goes over the characters that it is written with. -/
def take (l : Lexer) (width : Nat) (t : Token) : Lexer :=
  { l.push t with cursor := l.cursor.skip width }

/-- Skips blanks, comments and ends of lines; a new line of a block may start with a key. -/
def skipSpace : Nat → Lexer → Lexer
  | 0, l => l
  | fuel + 1, l =>
      let c := (l.cursor.dropWhile (· == ' ')).afterComment
      match c.lineBreak? with
      | some (_, c) =>
          skipSpace fuel { l with cursor := c, keyAllowed := l.keyAllowed || l.flow == 0 }
      | none => { l with cursor := c }

/-- Gives up the places of keys that have ended without a colon. -/
def dropStalePlaces (l : Lexer) : Except Fault Lexer :=
  let stale (p : Nat × KeyPlace) : Bool :=
    p.2.line != l.cursor.line || decide (keyLimit < l.cursor.index - p.2.index)
  if l.places.any fun p => stale p && p.2.required then .error .missingColon
  else .ok { l with places := l.places.filter fun p => !stale p }

/-- The place of a possible key among the flow collections that are open now. -/
def place? (l : Lexer) : Option KeyPlace :=
  (l.places.find? fun p => p.1 == l.flow).map Prod.snd

/-- Forgets the place of a possible key among the flow collections that are open now. -/
def forgetPlace (l : Lexer) : Lexer :=
  { l with places := l.places.filter fun p => p.1 != l.flow }

/-- Gives up the place of a possible key; its colon must not be required. -/
def dropPlace (l : Lexer) : Except Fault Lexer :=
  match l.place? with
  | some p => if p.required then .error .missingColon else .ok l.forgetPlace
  | none => .ok l

/-- Keeps the place of a possible key, if a key may start here. -/
def keepPlace (l : Lexer) : Except Fault Lexer :=
  if l.keyAllowed then
    match l.dropPlace with
    | .error e => .error e
    | .ok l =>
        let required := l.flow == 0 && l.indent == (l.cursor.column : Int)
        let p : KeyPlace :=
          ⟨l.tokens.size, required, l.cursor.index, l.cursor.line, l.cursor.column⟩
        .ok { l with places := (l.flow, p) :: l.places }
  else
    .ok l

/-- Closes block collections from the innermost one on, as long as they are indented by more than
`column`. -/
def unwindFrom (column : Int) (indent : Int) : List Int → Array Token → Int × List Int × Array Token
  | [], ts => (indent, [], ts)
  | outer :: more, ts =>
      if column < indent then unwindFrom column outer more (ts.push .blockEnd)
      else (indent, outer :: more, ts)

/-- Closes the block collections that are indented by more than `column`. -/
def unwind (column : Int) (l : Lexer) : Lexer :=
  if l.flow == 0 then
    let (indent, outer, tokens) := unwindFrom column l.indent l.outer l.tokens
    { l with indent := indent, outer := outer, tokens := tokens }
  else
    l

/-- Opens a block collection at a column unless one is open there; its token gets a number. -/
def openBlock (column : Int) (number : Nat) (t : Token) (l : Lexer) : Lexer :=
  if l.indent < column then
    { l with
      indent := column
      outer := l.indent :: l.outer
      tokens := insertAt number t l.tokens }
  else
    l

/-- Ends the text: everything that is open is closed. -/
def finish (l : Lexer) : Except Fault Lexer :=
  (l.unwind (-1)).dropPlace

/-- A character of a name. -/
def isNameChar (c : Char) : Bool :=
  c.isDigit || ('A' ≤ c && c ≤ 'Z') || ('a' ≤ c && c ≤ 'z') || c == '-' || c == '_'

/-- A character of the rest of a tag. -/
def isTagChar (c : Char) : Bool :=
  isNameChar c || (";/?:@&=+$,.!~*'()[]".toList).contains c

/-- Whether a blank, the end of a line or the end of the text stands here. -/
def atWordEnd (c : Cursor) : Bool :=
  c.endAt 0 fun x => x == ' ' || isBreak x

/-- The bytes that escapes at the front write, two hexadecimal digits behind each percent sign. -/
def readEscapedBytes : List Char → Option (List UInt8)
  | '%' :: a :: b :: rest =>
      match hexNumber? 2 [a, b] with
      | some n => (readEscapedBytes rest).map (n.toUInt8 :: ·)
      | none => none
  | '%' :: _ => none
  | _ => some []

/-- The text of bytes. -/
def textOf? (bytes : List UInt8) : Option (List Char) :=
  (String.fromUTF8? ⟨bytes.toArray⟩).map String.toList

/-- Reads the rest of a tag; escaped bytes must be text. -/
def readTagFrom (fault : Fault) : Nat → List (List Char) → Cursor → Reads String
  | 0, _, _ => .error fault
  | fuel + 1, acc, c =>
      match c.rest with
      | '%' :: _ =>
          match readEscapedBytes c.rest with
          | none => .error fault
          | some bytes =>
              match textOf? bytes with
              | none => .error fault
              | some piece => readTagFrom fault fuel (piece :: acc) (c.skip (3 * bytes.length))
      | x :: _ =>
          if isTagChar x then
            let (piece, c) := c.span isTagChar
            readTagFrom fault fuel (piece :: acc) c
          else .ok (String.ofList acc.reverse.flatten, c)
      | [] => .ok (String.ofList acc.reverse.flatten, c)

/-- Reads the rest of a tag, which may not be empty. -/
def readTagRest (fault : Fault) (c : Cursor) : Reads String :=
  if c.holds fun x => isTagChar x || x == '%' then
    readTagFrom fault (c.rest.length + 1) [] c
  else .error fault

/-- Reads the handle of a tag: an exclamation mark, or a name between two of them. -/
def readHandle (fault : Fault) (c : Cursor) : Reads String :=
  if !c.holds (· == '!') then .error fault
  else
    let (name, behind) := c.next.span isNameChar
    if behind.holds (· == '!') then
      .ok (String.ofList ('!' :: (name ++ ['!'])), behind.next)
    else if c.next.holds (· == ' ') then .ok ("!", c.next)
    else .error fault

/-- Reads a tag; the cursor stands at its exclamation mark. -/
def readTag (c : Cursor) : Reads Token :=
  let read : Reads Token :=
    match c.peekAt? 1 with
    | some '<' =>
        match readTagRest .badTag (c.skip 2) with
        | .error e => .error e
        | .ok (suffix, c) =>
            if c.holds (· == '>') then .ok (.tag none suffix, c.next) else .error .badTag
    | some x =>
        if isSpace x then .ok (.tag none "!", c.next)
        else
          let word := c.next.rest.takeWhile fun x => !(x == ' ' || isBreak x)
          let handle : Reads String :=
            if word.contains '!' then readHandle .badTag c else .ok ("!", c.next)
          match handle with
          | .error e => .error e
          | .ok (handle, c) =>
              match readTagRest .badTag c with
              | .error e => .error e
              | .ok (suffix, c) => .ok (.tag (some handle) suffix, c)
    | none => .ok (.tag none "!", c.next)
  match read with
  | .error e => .error e
  | .ok (t, c) => if atWordEnd c then .ok (t, c) else .error .badTag

/-- Reads the name behind the mark of an anchor or alias. -/
def readAnchor (c : Cursor) : Reads String :=
  let (name, c) := c.next.span isNameChar
  if name.isEmpty then .error .badAnchor
  else if c.endAt 0 fun x => isSpace x || ("?:,]\x7d%@`".toList).contains x then
    .ok (String.ofList name, c)
  else .error .badAnchor

/-- Reads a number of a version. -/
def readVersionNumber (c : Cursor) : Reads Nat :=
  let (digits, c) := c.span Char.isDigit
  if digits.isEmpty then .error .badDirective
  else .ok (digits.foldl (fun n d => n * 10 + (d.toNat - 48)) 0, c)

/-- Reads the version of a directive. -/
def readVersion (c : Cursor) : Reads Directive :=
  match readVersionNumber (c.dropWhile (· == ' ')) with
  | .error e => .error e
  | .ok (major, c) =>
      if !c.holds (· == '.') then .error .badDirective
      else
        match readVersionNumber c.next with
        | .error e => .error e
        | .ok (_, c) =>
            if atWordEnd c then .ok (.version major, c) else .error .badDirective

/-- Reads the handle of a directive and what it stands for. -/
def readHandleMeaning (c : Cursor) : Reads Directive :=
  match readHandle .badDirective (c.dropWhile (· == ' ')) with
  | .error e => .error e
  | .ok (handle, c) =>
      if !c.holds (· == ' ') then .error .badDirective
      else
        match readTagRest .badDirective (c.dropWhile (· == ' ')) with
        | .error e => .error e
        | .ok (meaning, c) =>
            if atWordEnd c then .ok (.handle handle meaning, c) else .error .badDirective

/-- Reads a directive and the rest of its line; the cursor stands at its percent sign. -/
def readDirective (c : Cursor) : Reads Directive :=
  let (name, c) := c.next.span isNameChar
  if name.isEmpty || !atWordEnd c then .error .badDirective
  else
    let read : Reads Directive :=
      if name == "YAML".toList then readVersion c
      else if name == "TAG".toList then readHandleMeaning c
      else .ok (.other, c.dropWhile fun x => !isBreak x)
    match read with
    | .error e => .error e
    | .ok (d, c) =>
        match restOfLine .badDirective c with
        | .error e => .error e
        | .ok c => .ok (d, c)

/-- Everything is closed before a directive or the mark of a document. -/
def closeAll (l : Lexer) : Except Fault Lexer :=
  (l.unwind (-1)).dropPlace.map fun l => { l with keyAllowed := false }

/-- A flow collection opens. -/
def openFlow (t : Token) (l : Lexer) : Except Fault Lexer :=
  l.keepPlace.map fun l => { l.take 1 t with flow := l.flow + 1, keyAllowed := true }

/-- A flow collection closes. -/
def closeFlow (t : Token) (l : Lexer) : Except Fault Lexer :=
  if l.flow == 0 then .error .unexpectedToken
  else l.dropPlace.map fun l => { l.take 1 t with flow := l.flow - 1, keyAllowed := false }

/-- The dash before an entry. -/
def takeEntry (l : Lexer) : Except Fault Lexer :=
  if l.flow == 0 && !l.keyAllowed then .error .misplacedEntry
  else
    let l := if l.flow == 0 then l.openBlock l.cursor.column l.tokens.size .sequenceStart else l
    l.dropPlace.map fun l => { l.take 1 .entry with keyAllowed := true }

/-- The question mark before a key. -/
def takeKey (l : Lexer) : Except Fault Lexer :=
  if l.flow == 0 && !l.keyAllowed then .error .misplacedKey
  else
    let l := if l.flow == 0 then l.openBlock l.cursor.column l.tokens.size .mappingStart else l
    l.dropPlace.map fun l => { l.take 1 .key with keyAllowed := l.flow == 0 }

/-- The colon before a value: what stands at the place of a possible key turns out to be one. -/
def takeValue (l : Lexer) : Except Fault Lexer :=
  match l.place? with
  | some p =>
      let l := l.forgetPlace
      let l := { l with tokens := insertAt p.number .key l.tokens }
      let l := if l.flow == 0 then l.openBlock p.column p.number .mappingStart else l
      .ok { l.take 1 .value with keyAllowed := false }
  | none =>
      if l.flow == 0 && !l.keyAllowed then .error .misplacedValue
      else
        let l := if l.flow == 0 then l.openBlock l.cursor.column l.tokens.size .mappingStart else l
        l.dropPlace.map fun l => { l.take 1 .value with keyAllowed := l.flow == 0 }

/-- A token that may be a key or stand before one: an anchor, an alias, a tag or a quoted
scalar. -/
def takeWord (read : Cursor → Reads Token) (l : Lexer) : Except Fault Lexer :=
  match l.keepPlace with
  | .error e => .error e
  | .ok l =>
      match read l.cursor with
      | .error e => .error e
      | .ok (t, c) => .ok { l.push t with cursor := c, keyAllowed := false }

/-- A block scalar. -/
def takeBlock (folded : Bool) (l : Lexer) : Except Fault Lexer :=
  match l.dropPlace with
  | .error e => .error e
  | .ok l =>
      match readBlock folded l.indent l.cursor with
      | .error e => .error e
      | .ok (text, c) => .ok { l.push (.scalar false text) with cursor := c, keyAllowed := true }

/-- A plain scalar. -/
def takePlain (l : Lexer) : Except Fault Lexer :=
  l.keepPlace.map fun l =>
    let (s, c) := readPlain (l.flow != 0) (l.indent + 1) l.cursor
    { l.push (.scalar true (String.ofList s.text)) with cursor := c, keyAllowed := s.crossedLine }

/-- Whether a character starts a plain scalar, whatever follows. -/
def startsPlain (c : Char) : Bool :=
  !isSpace c && !("-?:,[]\x7b\x7d#&*!|>'\"%@`".toList).contains c

/-- Reads the next token from a place where no blank and no comment stands. -/
def step (x : Char) (l : Lexer) : Except Fault Lexer :=
  let c := l.cursor
  let column := c.column
  let inBlock := l.flow == 0
  let spaceFollows := c.endAt 1 isSpace
  if x == '%' && column == 0 then
    match l.closeAll with
    | .error e => .error e
    | .ok l =>
        match readDirective l.cursor with
        | .error e => .error e
        | .ok (d, c) => .ok { l.push (.directive d) with cursor := c }
  else if x == '-' && column == 0 && c.isMark '-' then
    l.closeAll.map fun l => l.take 3 .documentStart
  else if x == '.' && column == 0 && c.isMark '.' then
    l.closeAll.map fun l => l.take 3 .documentEnd
  else if x == '[' then l.openFlow .flowSequenceStart
  else if x == '\x7b' then l.openFlow .flowMappingStart
  else if x == ']' then l.closeFlow .flowSequenceEnd
  else if x == '\x7d' then l.closeFlow .flowMappingEnd
  else if x == ',' then
    l.dropPlace.map fun l => { l.take 1 .comma with keyAllowed := true }
  else if x == '-' && spaceFollows then l.takeEntry
  else if x == '?' && (!inBlock || spaceFollows) then l.takeKey
  else if x == ':' && (!inBlock || spaceFollows) then l.takeValue
  else if x == '*' then
    l.takeWord fun c => (readAnchor c).map fun r => (.alias r.1, r.2)
  else if x == '&' then
    l.takeWord fun c => (readAnchor c).map fun r => (.anchor r.1, r.2)
  else if x == '!' then l.takeWord readTag
  else if x == '|' && inBlock then l.takeBlock false
  else if x == '>' && inBlock then l.takeBlock true
  else if x == '\'' || x == '"' then
    l.takeWord fun c => (readQuoted c).map fun r => (.scalar false r.1, r.2)
  else if startsPlain x || (!spaceFollows && (x == '-' || (inBlock && (x == '?' || x == ':')))) then
    l.takePlain
  else .error (.strayCharacter x)

/-- Cuts the rest of a text: the tokens, and the fault that stops it. -/
def run : Nat → Lexer → Array Token × Option Fault
  | 0, l => (l.tokens, none)
  | fuel + 1, l =>
      match (l.skipSpace (l.cursor.rest.length + 1)).dropStalePlaces with
      | .error e => (l.tokens, some e)
      | .ok l =>
          let l := l.unwind l.cursor.column
          match l.cursor.rest with
          | [] =>
              match l.finish with
              | .error e => (l.tokens, some e)
              | .ok l => (l.tokens, none)
          | x :: _ =>
              match l.step x with
              | .error e => (l.tokens, some e)
              | .ok l => run fuel l

end Lexer

/-- A character that a document may hold. -/
def isPrintable (c : Char) : Bool :=
  let n := c.toNat
  n == 0x9 || n == 0xA || n == 0xD || (0x20 ≤ n && n ≤ 0x7E) || n == 0x85 ||
    (0xA0 ≤ n && n ≤ 0xD7FF) || (0xE000 ≤ n && n ≤ 0xFFFD) || 0x10000 ≤ n

/-- The tokens of a text, and the fault behind them that stops the reader, if there is one. -/
def Token.ofText (text : List Char) : Array Token × Option Fault :=
  match text.find? fun c => !isPrintable c with
  | some c => (#[], some (.unprintable c))
  | none => Lexer.run (text.length + 1) (Lexer.start text)

end Yaml

end SurfaceCoverage
