import SurfaceCoverage.Pattern.Basic
import SurfaceCoverage.Text.CharProperty
import SurfaceCoverage.Text.Quoted

/-!
# Reading patterns

A written pattern is read into an expression and the numbers of its named groups.  A backslash
always belongs to the character behind it, so the text is first cut into plain and escaped
characters.  Which characters have names, and how deep groups may be nested, is up to a dialect.
-/

namespace SurfaceCoverage

namespace Pattern

/-- Why a written pattern is refused. -/
inductive Fault where
  | openEscape
  | badEscape
  | openSet
  | badRange
  | nothingToRepeat
  | multipleRepeat
  | badBounds
  | hugeBound
  | unknownExtension
  | missingName
  | badName (name : String)
  | repeatedName (name : String)
  | unknownName (name : String)
  | unknownNumber (number : Nat)
  | openGroup
  | ownGroup
  | openParenthesis
  | strayParenthesis
  | thirdWay
  | badFlags
  | lateFlags
  | opposedFlags
  | variableWidth
  | missingCharName
  | unknownCharName (name : String)
  | repeatInTemplate
  | tooDeep
  deriving Repr, DecidableEq

/-- What is wrong with a written pattern. -/
def Fault.message : Fault → String
  | .openEscape => "bad escape (end of pattern)"
  | .badEscape => "bad escape"
  | .openSet => "unterminated character set"
  | .badRange => "bad character range"
  | .nothingToRepeat => "nothing to repeat"
  | .multipleRepeat => "multiple repeat"
  | .badBounds => "min repeat greater than max repeat"
  | .hugeBound => "the repetition number is too large"
  | .unknownExtension => "unknown extension"
  | .missingName => "missing group name"
  | .badName name => s!"bad character in group name '{name}'"
  | .repeatedName name => s!"redefinition of group name '{name}'"
  | .unknownName name => s!"unknown group name '{name}'"
  | .unknownNumber number => s!"invalid group reference {number}"
  | .openGroup => "cannot refer to an open group"
  | .ownGroup => "cannot refer to group defined in the same lookbehind subpattern"
  | .openParenthesis => "missing ), unterminated subpattern"
  | .strayParenthesis => "unbalanced parenthesis"
  | .thirdWay => "conditional backref with more than two branches"
  | .badFlags => "bad inline flags"
  | .lateFlags => "global flags not at the start of the expression"
  | .opposedFlags => "ASCII and UNICODE flags are incompatible"
  | .variableWidth => "look-behind requires fixed-width pattern"
  | .missingCharName => "missing character name"
  | .unknownCharName name => s!"undefined character name {Text.quoted name}"
  | .repeatInTemplate => "internal: unsupported template operator"
  | .tooDeep => "maximum recursion depth exceeded"

/-- A character of a written pattern. -/
inductive Token where
  | plain (c : Char)
  | escaped (c : Char)
  deriving Repr, DecidableEq

/-- Cuts a written pattern into characters and escaped characters. -/
def tokens : List Char → Except Fault (List Token)
  | [] => .ok []
  | '\\' :: [] => .error .openEscape
  | '\\' :: c :: rest => (tokens rest).map (.escaped c :: ·)
  | c :: rest => (tokens rest).map (.plain c :: ·)

/-- The number that stands for no bound. -/
def noBound : Nat := 4294967295

/-- The least and the greatest length of a text. -/
abbrev Width := Nat × Nat

/-- Widths above the greatest number count as that number. -/
def bounded (w : Width) : Width :=
  (min w.1 (noBound - 1), min w.2 noBound)

/-- The lengths of the texts that an expression matches, given those of the groups before it. -/
def Expr.width (groups : List (Nat × Width)) : Expr → Width
  | .empty | .never | .ahead _ _ | .behind _ _ _ | .edge _ => (0, 0)
  | .char _ => (1, 1)
  | .seq p q =>
      let a := p.width groups
      let b := q.width groups
      bounded (a.1 + b.1, a.2 + b.2)
  | .alt p q =>
      let a := p.width groups
      let b := q.width groups
      (min a.1 b.1, max a.2 b.2)
  | .run _ least most _ => bounded (least, most.getD noBound)
  | .repeated p least most _ =>
      let a := p.width groups
      bounded (a.1 * least, a.2 * most.getD noBound)
  | .group _ p | .atomic p => p.width groups
  | .same number _ => ((groups.find? fun g => g.1 = number).map Prod.snd).getD (0, 0)
  | .whether _ yes no =>
      let a := yes.width groups
      let b := no.width groups
      (min a.1 b.1, max a.2 b.2)

/-- What is set for a part of a pattern. -/
structure Flags where
  ignoreCase : Bool
  multiline : Bool
  dotAll : Bool
  verbose : Bool
  ascii : Bool
  deriving Repr, DecidableEq

/-- Nothing is set. -/
def Flags.none : Flags :=
  ⟨false, false, false, false, false⟩

/-- How case counts. -/
def Flags.caseRule (f : Flags) : CaseRule :=
  if f.ignoreCase then (if f.ascii then .ascii else .full) else .exact

/-- What reading a pattern depends on: which characters have names, and how many groups more than a
few may be open at a time. -/
structure Dialect where
  named : String → Option Char
  spare : Nat

/-- How many groups may be open at a time. -/
def Dialect.room (d : Dialect) : Nat :=
  d.spare + 8

/-- What is known while a pattern is read: the characters by their names, and how many groups may
still be opened; the flags for the whole pattern, and whether they ask for Unicode classes or for a
template; the number of the next group, the numbers of the named groups, and the widths of the
closed ones; the first group that belongs to the condition on what stands before, if one is being
read; the groups that choices refer to; and whether a condition on what stands before had no fixed
width. -/
structure Knowledge where
  named : String → Option Char
  room : Nat
  flags : Flags
  unicodeGiven : Bool
  isTemplate : Bool
  nextGroup : Nat
  names : List (String × Nat)
  widths : List (Nat × Width)
  behindFrom : Option Nat
  references : List Nat
  variableBehind : Bool

/-- What is known before a pattern is read. -/
def Knowledge.start (d : Dialect) : Knowledge :=
  { named := d.named
    room := d.room
    flags := .none
    unicodeGiven := false
    isTemplate := false
    nextGroup := 1
    names := []
    widths := []
    behindFrom := none
    references := []
    variableBehind := false }

/-- A reader of a part of a pattern. -/
abbrev Reads (α : Type) := Except Fault (α × Knowledge × List Token)

/-- A part of a sequence, with what may be repeated. -/
inductive Piece where
  | plain (p : Expr)
  | repeated (p : Expr)
  | edge (e : Edge)

/-- The expression of a part. -/
def Piece.expr : Piece → Expr
  | .plain p => p
  | .repeated p => p
  | .edge e => .edge e

/-- The expression of parts, the last one first. -/
def exprOf (pieces : List Piece) : Expr :=
  match pieces with
  | [] => .empty
  | last :: before => before.foldl (fun q p => .seq p.expr q) last.expr

/-- The value of a hexadecimal digit. -/
def hexDigit? (c : Char) : Option Nat :=
  if c.isDigit then some (c.toNat - 48)
  else if 'a' ≤ c ∧ c ≤ 'f' then some (c.toNat - 87)
  else if 'A' ≤ c ∧ c ≤ 'F' then some (c.toNat - 55)
  else none

/-- The value of an octal digit. -/
def octalDigit? (c : Char) : Option Nat :=
  if '0' ≤ c ∧ c ≤ '7' then some (c.toNat - 48) else none

/-- The digits at the front, `most` at most: how many they are, their value, and what follows. -/
def takeDigits (digit? : Char → Option Nat) (base : Nat) :
    Nat → Nat → Nat → List Token → Nat × Nat × List Token
  | 0, count, value, ts => (count, value, ts)
  | most + 1, count, value, ts =>
      match ts with
      | .plain c :: rest =>
          match digit? c with
          | some d => takeDigits digit? base most (count + 1) (value * base + d) rest
          | none => (count, value, ts)
      | _ => (count, value, ts)

/-- The code point of an escape with a fixed number of hexadecimal digits. -/
def hexCode (width : Nat) (ts : List Token) : Except Fault (Nat × List Token) :=
  let (count, value, rest) := takeDigits hexDigit? 16 width 0 0 ts
  if count = width ∧ value < 0x110000 then .ok (value, rest) else .error .badEscape

/-- Whether a character is an ASCII letter. -/
def isAsciiLetter (c : Char) : Bool :=
  ('a' ≤ c && c ≤ 'z') || ('A' ≤ c && c ≤ 'Z')

/-- The control character that a letter behind a backslash stands for. -/
def controlCode? (c : Char) : Option Nat :=
  match c with
  | 'a' => some 7
  | 'f' => some 12
  | 'n' => some 10
  | 'r' => some 13
  | 't' => some 9
  | 'v' => some 11
  | '\\' => some 92
  | _ => none

/-- The class that a letter behind a backslash stands for. -/
def classItem? (c : Char) : Option TestItem :=
  match c with
  | 'd' => some (.ofClass .digit false)
  | 'D' => some (.ofClass .digit true)
  | 's' => some (.ofClass .blank false)
  | 'S' => some (.ofClass .blank true)
  | 'w' => some (.ofClass .word false)
  | 'W' => some (.ofClass .word true)
  | _ => none

/-- The text up to a closing character, and what follows it. -/
def readUntil (close : Char) : List Char → List Token → Except Fault (List Char × List Token)
  | _, [] => .error .missingName
  | acc, .plain c :: rest =>
      if c = close then
        if acc.isEmpty then .error .missingName else .ok (acc.reverse, rest)
      else readUntil close (c :: acc) rest
  | acc, .escaped c :: rest => readUntil close (c :: '\\' :: acc) rest

/-- The code point of the character whose name stands between braces. -/
def namedCode (named : String → Option Char) (ts : List Token) : Except Fault (Nat × List Token) :=
  match ts with
  | .plain '\x7b' :: rest =>
      match readUntil '\x7d' [] rest with
      | .error _ => .error .missingCharName
      | .ok (name, rest) =>
          match named (String.ofList name) with
          | none => .error (.unknownCharName (String.ofList name))
          | some c => .ok (c.toNat, rest)
  | _ => .error .missingCharName

/-- The code point of an escape that is written the same in sets and outside. -/
def commonEscape (named : String → Option Char) (c : Char) (ts : List Token) :
    Except Fault (Nat × List Token) :=
  if c = 'N' then namedCode named ts
  else if c = 'x' then hexCode 2 ts
  else if c = 'u' then hexCode 4 ts
  else if c = 'U' then hexCode 8 ts
  else if isAsciiLetter c || c.isDigit then .error .badEscape
  else .ok (c.toNat, ts)

/-- The item of a set that an escape stands for. -/
def setEscape (named : String → Option Char) (c : Char) (ts : List Token) :
    Except Fault (TestItem × List Token) :=
  if c = 'b' then .ok (.code 8, ts)
  else
    match controlCode? c, classItem? c, octalDigit? c with
    | some n, _, _ => .ok (.code n, ts)
    | none, some item, _ => .ok (item, ts)
    | none, none, some d =>
        let (_, value, rest) := takeDigits octalDigit? 8 2 1 d ts
        if value ≤ 0xFF then .ok (.code value, rest) else .error .badEscape
    | none, none, none => (commonEscape named c ts).map fun r => (.code r.1, r.2)

/-- A part of a set: the item that a token stands for. -/
def setItem (named : String → Option Char) (t : Token) (ts : List Token) :
    Except Fault (TestItem × List Token) :=
  match t with
  | .plain c => .ok (.code c.toNat, ts)
  | .escaped c => setEscape named c ts

/-- Reads the items of a set up to its closing bracket; `first` tells that none was read yet. -/
def readSet (named : String → Option Char) :
    Nat → Bool → List TestItem → List Token → Except Fault (List TestItem × List Token)
  | 0, _, _, _ => .error .openSet
  | fuel + 1, first, acc, ts =>
      match ts with
      | [] => .error .openSet
      | t :: rest =>
          if t == .plain ']' && !first then .ok (acc.reverse, rest)
          else
            match setItem named t rest with
            | .error e => .error e
            | .ok (low, rest) =>
                match rest with
                | .plain '-' :: [] => .error .openSet
                | .plain '-' :: .plain ']' :: rest =>
                    .ok ((.code 0x2D :: low :: acc).reverse, rest)
                | .plain '-' :: t :: rest =>
                    match setItem named t rest with
                    | .error e => .error e
                    | .ok (high, rest) =>
                        match low, high with
                        | .code m, .code n =>
                            if m ≤ n then readSet named fuel false (.range m n :: acc) rest
                            else .error .badRange
                        | _, _ => .error .badRange
                | rest => readSet named fuel false (low :: acc) rest

/-- The test for the given items under flags. -/
def Flags.test (f : Flags) (negated : Bool) (items : List TestItem) : CharTest :=
  ⟨negated, items, f.caseRule, f.ascii⟩

/-- The expression for a code point under flags. -/
def Flags.code (f : Flags) (n : Nat) : Piece :=
  .plain (.char (f.test false [.code n]))

/-- Whether a group is closed. -/
def Knowledge.isClosed (k : Knowledge) (number : Nat) : Bool :=
  number == 0 || k.widths.any fun w => w.1 = number

/-- Refuses a group that a condition on what stands before may not refer to. -/
def Knowledge.checkBehind (k : Knowledge) (number : Nat) : Except Fault Unit :=
  match k.behindFrom with
  | none => .ok ()
  | some first =>
      if !(number != 0 && k.isClosed number) then .error .openGroup
      else if first ≤ number then .error .ownGroup
      else .ok ()

/-- The piece that refers to a group. -/
def Knowledge.reference (k : Knowledge) (f : Flags) (number : Nat) : Except Fault Piece :=
  if k.isClosed number && number != 0 then
    (k.checkBehind number).map fun _ => .plain (.same number f.caseRule)
  else .error .openGroup

/-- The piece that an escape stands for outside of sets. -/
def readEscape (f : Flags) (k : Knowledge) (c : Char) (ts : List Token) :
    Except Fault (Piece × List Token) :=
  match c with
  | 'A' => .ok (.edge .textStart, ts)
  | 'Z' => .ok (.edge .textEnd, ts)
  | 'b' => .ok (.edge (.wordEdge f.ascii), ts)
  | 'B' => .ok (.edge (.noWordEdge f.ascii), ts)
  | '0' =>
      let (_, value, rest) := takeDigits octalDigit? 8 2 0 0 ts
      .ok (f.code value, rest)
  | c =>
      match classItem? c, controlCode? c with
      | some item, _ => .ok (.plain (.char (f.test false [item])), ts)
      | none, some n => .ok (f.code n, ts)
      | none, none =>
          if c.isDigit then
            let d := c.toNat - 48
            let refer (number : Nat) (rest : List Token) : Except Fault (Piece × List Token) :=
              if number < k.nextGroup then (k.reference f number).map fun p => (p, rest)
              else .error (.unknownNumber number)
            match ts with
            | .plain e :: rest =>
                if e.isDigit then
                  match octalDigit? c, octalDigit? e, rest with
                  | some _, some _, .plain g :: more =>
                      match octalDigit? g with
                      | some o =>
                          let value := d * 64 + (e.toNat - 48) * 8 + o
                          if value ≤ 0xFF then .ok (f.code value, more) else .error .badEscape
                      | none => refer (d * 10 + (e.toNat - 48)) rest
                  | _, _, _ => refer (d * 10 + (e.toNat - 48)) rest
                else refer d ts
            | _ => refer d ts
          else (commonEscape k.named c ts).map fun r => (f.code r.1, r.2)

/-- Whether a text can be the name of a group. -/
def isName (cs : List Char) : Bool :=
  match cs with
  | [] => false
  | c :: rest => Text.isWord c && !Text.isDecimalDigit c && rest.all Text.isWord

/-- The name up to a closing character. -/
def readName (close : Char) (ts : List Token) : Except Fault (String × List Token) :=
  match readUntil close [] ts with
  | .error e => .error e
  | .ok (name, rest) =>
      if isName name then .ok (String.ofList name, rest)
      else .error (.badName (String.ofList name))

/-- A flag, or what stands for the flags that cannot be taken back. -/
inductive FlagLetter where
  | setting (letter : Char)
  | kind (letter : Char)
  | whole
  deriving DecidableEq

/-- The flag that a letter stands for. -/
def flagLetter? (c : Char) : Option FlagLetter :=
  if c = 'i' ∨ c = 'm' ∨ c = 's' ∨ c = 'x' then some (.setting c)
  else if c = 'a' ∨ c = 'u' then some (.kind c)
  else if c = 't' then some .whole
  else none

/-- Flags as written in front of a part: those set, those taken back, and how they end. -/
structure FlagList where
  added : List FlagLetter
  dropped : List FlagLetter
  isWhole : Bool

/-- Reads the letters of flags that are taken back, up to the colon. -/
def readDropped (acc : List FlagLetter) : List Token → Except Fault (List FlagLetter × List Token)
  | .plain c :: rest =>
      if c = ':' then (if acc.isEmpty then .error .badFlags else .ok (acc, rest))
      else
        match flagLetter? c with
        | some (.kind _) | none => .error .badFlags
        | some l => readDropped (l :: acc) rest
  | _ => .error .badFlags

/-- Reads flags, up to the colon or the parenthesis that ends them. -/
def readFlags (acc : List FlagLetter) : List Token → Except Fault (FlagList × List Token)
  | .plain c :: rest =>
      if c = ')' then
        if acc.isEmpty then .error .badFlags else .ok (⟨acc, [], true⟩, rest)
      else if c = ':' then
        if acc.isEmpty || acc.contains .whole then .error .badFlags
        else .ok (⟨acc, [], false⟩, rest)
      else if c = '-' then
        match readDropped [] rest with
        | .error e => .error e
        | .ok (dropped, rest) =>
            if acc.contains .whole || dropped.contains .whole ||
                dropped.any fun l => acc.contains l then .error .badFlags
            else .ok (⟨acc, dropped, false⟩, rest)
      else
        match flagLetter? c with
        | none => .error .badFlags
        | some (.kind k) =>
            if acc.any fun l => l = .kind 'a' ∧ k = 'u' ∨ l = .kind 'u' ∧ k = 'a' then
              .error .badFlags
            else readFlags (.kind k :: acc) rest
        | some l => readFlags (l :: acc) rest
  | _ => .error .badFlags

/-- The flags after a letter was set or taken back. -/
def Flags.change (on : Bool) (f : Flags) : FlagLetter → Flags
  | .setting 'i' => { f with ignoreCase := on }
  | .setting 'm' => { f with multiline := on }
  | .setting 's' => { f with dotAll := on }
  | .setting 'x' => { f with verbose := on }
  | .kind 'a' => { f with ascii := on }
  | .kind 'u' => { f with ascii := !on }
  | _ => f

/-- The flags for a part with flags in front of it. -/
def Flags.with (f : Flags) (l : FlagList) : Flags :=
  l.dropped.foldl (Flags.change false) (l.added.foldl (Flags.change true) f)

/-- Goes over a comment up to the end of the line. -/
def afterLineComment : List Token → List Token
  | [] => []
  | .plain '\n' :: rest => rest
  | _ :: rest => afterLineComment rest

/-- Goes over a comment up to its closing parenthesis. -/
def afterComment? : List Token → Option (List Token)
  | [] => none
  | .plain ')' :: rest => some rest
  | _ :: rest => afterComment? rest

/-- The bounds of a repetition behind its opening brace, if they are well-formed. -/
def readBounds? (ts : List Token) : Option (Option Nat × Option Nat × List Token) :=
  let (count, low, rest) := takeDigits decimalDigit? 10 ts.length 0 0 ts
  let low := if count = 0 then none else some low
  match rest with
  | .plain ',' :: rest =>
      let (count, high, rest) := takeDigits decimalDigit? 10 rest.length 0 0 rest
      match rest with
      | .plain '\x7d' :: rest => some (low, if count = 0 then none else some high, rest)
      | _ => none
  | .plain '\x7d' :: rest => some (low, low, rest)
  | _ => none
where
  /-- The value of a decimal digit. -/
  decimalDigit? (c : Char) : Option Nat :=
    if c.isDigit then some (c.toNat - 48) else none

/-- A piece with a repetition of the piece in front of it. -/
def repeatPiece (least : Nat) (most : Option Nat) (mode : Mode) : List Piece →
    Except Fault (List Piece)
  | [] => .error .nothingToRepeat
  | .edge _ :: _ => .error .nothingToRepeat
  | .repeated _ :: _ => .error .multipleRepeat
  | .plain (.char t) :: before => .ok (.repeated (.run t least most mode) :: before)
  | .plain p :: before => .ok (.repeated (.repeated p least most mode) :: before)

/-- The mode of a repetition, by the sign behind it. -/
def readMode : List Token → Mode × List Token
  | .plain '?' :: rest => (.lazy, rest)
  | .plain '+' :: rest => (.possessive, rest)
  | ts => (.greedy, ts)

/-- Whether a text is made of digits with single low lines between them.  `digit` tells whether a
digit stands before. -/
def isGappedNumber (digit : Bool) : List Char → Bool
  | [] => digit
  | c :: rest =>
      if c = '_' then digit && isGappedNumber false rest
      else c.isDigit && isGappedNumber true rest

/-- The group that the name or number of a choice stands for. -/
def chosenGroup (k : Knowledge) (cs : List Char) : Except Fault (Nat × Knowledge) :=
  let name := String.ofList cs
  if isName cs then
    match k.names.find? fun n => n.1 = name with
    | some n => .ok (n.2, k)
    | none => .error (.unknownName name)
  else
    let body := (Text.trim name).toList
    let digits := if body.head? = some '+' then body.tail else body
    if isGappedNumber false digits then
      let number := digits.foldl (fun n c => if c = '_' then n else n * 10 + (c.toNat - 48)) 0
      if number = 0 then .error (.badName name)
      else .ok (number, { k with references := number :: k.references })
    else .error (.badName name)

/-- A parenthesis must close here. -/
def closing (ts : List Token) : Except Fault (List Token) :=
  match ts with
  | .plain ')' :: rest => .ok rest
  | _ => .error .openParenthesis

mutual

/-- Reads a choice between sequences.  `outermost` tells whether it is the whole pattern. -/
def readChoice (outermost : Bool) (f : Flags) : Nat → Knowledge → List Token → Reads Expr
  | 0, _, _ => .error .openParenthesis
  | fuel + 1, k, ts =>
      match k.room with
      | 0 => .error .tooDeep
      | room + 1 =>
          match readSequence outermost f fuel [] { k with room := room } ts with
          | .error e => .error e
          | .ok (p, k, .plain '|' :: rest) =>
              match readMoreChoices (if outermost then k.flags else f) fuel k rest with
              | .error e => .error e
              | .ok (q, k, rest) => .ok (.alt p q, { k with room := room + 1 }, rest)
          | .ok (p, k, rest) => .ok (p, { k with room := room + 1 }, rest)

/-- Reads the further ways of a choice. -/
def readMoreChoices (f : Flags) : Nat → Knowledge → List Token → Reads Expr
  | 0, _, _ => .error .openParenthesis
  | fuel + 1, k, ts =>
      match readSequence false f fuel [] k ts with
      | .error e => .error e
      | .ok (p, k, .plain '|' :: rest) =>
          match readMoreChoices f fuel k rest with
          | .error e => .error e
          | .ok (q, k, rest) => .ok (.alt p q, k, rest)
      | .ok r => .ok r

/-- Reads a sequence of pieces up to the end of the part; `acc` holds the pieces read so far, the
last one first.  `leading` tells whether flags for the whole pattern may stand here. -/
def readSequence (leading : Bool) (f : Flags) :
    Nat → List Piece → Knowledge → List Token → Reads Expr
  | 0, _, _, _ => .error .openParenthesis
  | fuel + 1, acc, k, ts =>
      let goOn (pieces : List Piece) (rest : List Token) : Reads Expr :=
        readSequence leading f fuel pieces k rest
      let rep (least : Nat) (most : Option Nat) (rest : List Token) : Reads Expr :=
        let (mode, rest) := readMode rest
        match repeatPiece least most mode acc with
        | .error e => .error e
        | .ok acc => goOn acc rest
      match ts with
      | [] => .ok (exprOf acc, k, [])
      | .escaped c :: rest =>
          match readEscape f k c rest with
          | .error e => .error e
          | .ok (piece, rest) => goOn (piece :: acc) rest
      | .plain c :: rest =>
          if c = '|' ∨ c = ')' then .ok (exprOf acc, k, ts)
          else if f.verbose && (c == ' ' || (9 ≤ c.toNat && c.toNat ≤ 13)) then goOn acc rest
          else if f.verbose && c == '#' then goOn acc (afterLineComment rest)
          else if c = '[' then
            let (negated, body) :=
              match rest with
              | .plain '^' :: more => (true, more)
              | _ => (false, rest)
            match readSet k.named (body.length + 1) true [] body with
            | .error e => .error e
            | .ok (items, rest) => goOn (.plain (.char (f.test negated items)) :: acc) rest
          else if c = '?' then rep 0 (some 1) rest
          else if c = '*' then rep 0 none rest
          else if c = '+' then rep 1 none rest
          else if c = '\x7b' then
            if rest.head? == some (.plain '\x7d') then goOn (f.code c.toNat :: acc) rest
            else
              match readBounds? rest with
              | none => goOn (f.code c.toNat :: acc) rest
              | some (low, high, rest) =>
                  if low.any (noBound ≤ ·) || high.any (noBound ≤ ·) then .error .hugeBound
                  else if high.any (· < low.getD 0) then .error .badBounds
                  else rep (low.getD 0) high rest
          else if c = '.' then
            let t := if f.dotAll then CharTest.any else CharTest.anyInLine
            goOn (.plain (.char t) :: acc) rest
          else if c = '^' then
            goOn (.edge (if f.multiline then .lineStart else .textStart) :: acc) rest
          else if c = '$' then
            goOn (.edge (if f.multiline then .lineEnd else .lastLineEnd) :: acc) rest
          else if c = '(' then
            match rest with
            | .plain '?' :: rest => readExtension leading f fuel acc k rest
            | _ => readGroup leading f fuel none acc k rest
          else goOn (f.code c.toNat :: acc) rest

/-- Reads a remembered part and what follows it. -/
def readGroup (leading : Bool) (f : Flags) :
    Nat → Option String → List Piece → Knowledge → List Token → Reads Expr
  | 0, _, _, _, _ => .error .openParenthesis
  | fuel + 1, name, acc, k, ts =>
      let number := k.nextGroup
      match name.filter fun n => k.names.any fun m => m.1 = n with
      | some n => .error (.repeatedName n)
      | none =>
          let k :=
            { k with
              nextGroup := number + 1
              names := k.names ++ (name.map fun n => (n, number)).toList }
          match readChoice false f fuel k ts with
          | .error e => .error e
          | .ok (p, k, rest) =>
              match closing rest with
              | .error e => .error e
              | .ok rest =>
                  let k := { k with widths := (number, p.width k.widths) :: k.widths }
                  readSequence leading f fuel (.plain (.group number p) :: acc) k rest

/-- Reads a part whose parenthesis is followed by a question mark, and what follows it. -/
def readExtension (leading : Bool) (f : Flags) :
    Nat → List Piece → Knowledge → List Token → Reads Expr
  | 0, _, _, _ => .error .openParenthesis
  | fuel + 1, acc, k, ts =>
      match ts with
      | .plain 'P' :: .plain '<' :: rest =>
          match readName '>' rest with
          | .error e => .error e
          | .ok (name, rest) => readGroup leading f fuel (some name) acc k rest
      | .plain 'P' :: .plain '=' :: rest =>
          match readName ')' rest with
          | .error e => .error e
          | .ok (name, rest) =>
              match k.names.find? fun n => n.1 = name with
              | none => .error (.unknownName name)
              | some n =>
                  match k.reference f n.2 with
                  | .error e => .error e
                  | .ok piece => readSequence leading f fuel (piece :: acc) k rest
      | .plain ':' :: rest =>
          match readChoice false f fuel k rest with
          | .error e => .error e
          | .ok (p, k, rest) =>
              match closing rest with
              | .error e => .error e
              | .ok rest => readSequence leading f fuel (.plain p :: acc) k rest
      | .plain '>' :: rest =>
          match readChoice false f fuel k rest with
          | .error e => .error e
          | .ok (p, k, rest) =>
              match closing rest with
              | .error e => .error e
              | .ok rest => readSequence leading f fuel (.plain (.atomic p) :: acc) k rest
      | .plain '#' :: rest =>
          match afterComment? rest with
          | none => .error .openParenthesis
          | some rest => readSequence leading f fuel acc k rest
      | .plain '=' :: rest => readAhead leading f fuel false acc k rest
      | .plain '!' :: rest => readAhead leading f fuel true acc k rest
      | .plain '<' :: .plain '=' :: rest => readBehind leading f fuel false acc k rest
      | .plain '<' :: .plain '!' :: rest => readBehind leading f fuel true acc k rest
      | .plain '(' :: rest =>
          match readUntil ')' [] rest with
          | .error e => .error e
          | .ok (name, rest) =>
              match chosenGroup k name with
              | .error e => .error e
              | .ok (number, k) =>
                  match k.checkBehind number with
                  | .error e => .error e
                  | .ok _ => readWhether leading f fuel number acc k rest
      | .plain c :: _ =>
          if c == '-' || (flagLetter? c).isSome then
            match readFlags [] ts with
            | .error e => .error e
            | .ok (l, rest) =>
                if l.isWhole then
                  if leading && acc.isEmpty then
                    let k :=
                      { k with
                        flags := k.flags.with l
                        isTemplate := k.isTemplate || l.added.contains .whole
                        unicodeGiven := k.unicodeGiven || l.added.contains (.kind 'u') }
                    if k.unicodeGiven &&
                        (f.ascii || l.added.contains (.kind 'a')) then .error .opposedFlags
                    else readSequence leading k.flags fuel acc k rest
                  else .error .lateFlags
                else
                  match readChoice false (f.with l) fuel k rest with
                  | .error e => .error e
                  | .ok (p, k, rest) =>
                      match closing rest with
                      | .error e => .error e
                      | .ok rest => readSequence leading f fuel (.plain p :: acc) k rest
          else .error .unknownExtension
      | _ => .error .unknownExtension

/-- Reads a condition on what follows, and what follows it. -/
def readAhead (leading : Bool) (f : Flags) :
    Nat → Bool → List Piece → Knowledge → List Token → Reads Expr
  | 0, _, _, _, _ => .error .openParenthesis
  | fuel + 1, negated, acc, k, ts =>
      match readChoice false f fuel k ts with
      | .error e => .error e
      | .ok (p, k, rest) =>
          match closing rest with
          | .error e => .error e
          | .ok rest =>
              readSequence leading f fuel (.plain (.ahead negated p) :: acc) k rest

/-- Reads a condition on what stands before, and what follows it. -/
def readBehind (leading : Bool) (f : Flags) :
    Nat → Bool → List Piece → Knowledge → List Token → Reads Expr
  | 0, _, _, _, _ => .error .openParenthesis
  | fuel + 1, negated, acc, k, ts =>
      let outer := k.behindFrom
      match readChoice false f fuel { k with behindFrom := outer.or (some k.nextGroup) } ts with
      | .error e => .error e
      | .ok (p, k, rest) =>
          match closing rest with
          | .error e => .error e
          | .ok rest =>
              let w := p.width k.widths
              let k :=
                { k with
                  behindFrom := outer
                  variableBehind := k.variableBehind || w.1 != w.2 }
              readSequence leading f fuel (.plain (.behind negated w.1 p) :: acc) k rest

/-- Reads a choice by a group, and what follows it. -/
def readWhether (leading : Bool) (f : Flags) :
    Nat → Nat → List Piece → Knowledge → List Token → Reads Expr
  | 0, _, _, _, _ => .error .openParenthesis
  | fuel + 1, number, acc, k, ts =>
      match readSequence false f fuel [] k ts with
      | .error e => .error e
      | .ok (yes, k, .plain '|' :: rest) =>
          match readSequence false f fuel [] k rest with
          | .error e => .error e
          | .ok (no, k, rest) =>
              if rest.head? == some (.plain '|') then .error .thirdWay
              else
                match closing rest with
                | .error e => .error e
                | .ok rest =>
                    readSequence leading f fuel (.plain (.whether number yes no) :: acc) k rest
      | .ok (yes, k, rest) =>
          match closing rest with
          | .error e => .error e
          | .ok rest =>
              readSequence leading f fuel (.plain (.whether number yes .empty) :: acc) k rest

end

/-- Whether an expression repeats anything. -/
def Expr.repeats : Expr → Bool
  | .run _ _ _ _ | .repeated _ _ _ _ => true
  | .seq p q | .alt p q | .whether _ p q => p.repeats || q.repeats
  | .group _ p | .atomic p | .ahead _ p | .behind _ _ p => p.repeats
  | .empty | .never | .char _ | .edge _ | .same _ _ => false

/-- A pattern with named groups. -/
structure Named where
  expr : Expr
  names : List (String × Nat)
  deriving Repr, DecidableEq

namespace Named

/-- Reads a written pattern. -/
def ofText (d : Dialect) (text : String) : Except Fault Named :=
  match tokens text.toList with
  | .error e => .error e
  | .ok ts =>
      match readChoice true .none (8 * ts.length + 16) (.start d) ts with
      | .error e => .error e
      | .ok (_, _, _ :: _) => .error .strayParenthesis
      | .ok (p, k, []) =>
          match k.references.find? fun n => k.nextGroup ≤ n with
          | some n => .error (.unknownNumber n)
          | none =>
              if k.variableBehind then .error .variableWidth
              else if k.isTemplate && p.repeats then .error .repeatInTemplate
              else .ok ⟨p, k.names⟩

/-- The number of a named group. -/
def number? (p : Named) (name : String) : Option Nat :=
  (p.names.find? fun n => n.1 = name).map Prod.snd

/-- The text of a group in a match. -/
def groupText? (number : Nat) (s : Point) : Option String :=
  (s.group? number).map String.ofList

end Named

end Pattern

end SurfaceCoverage
