import SurfaceCoverage.Syntax.Extractor
import SurfaceCoverage.Syntax.JavaOutline
import SurfaceCoverage.Syntax.JavaTokens

/-!
# Reading Java sources

Token trees are turned into an outline from the inside out: every group carries the outline of what
stands in it, once read as code and once read as the members of a type.  Which of the two counts
is known when the head in front of the group has been read.
-/

namespace SurfaceCoverage

namespace Syntax

namespace Java

/-- A token tree whose groups are read already.  A group carries the names that are mentioned in it,
those that a cast to what stands in it mentions, if it is a type, its outline as code, and its
outline as the members of a type. -/
inductive Piece where
  | word (w : Word)
  | literal
  | mark (c : Char)
  | group (b : Bracket) (mentioned : List Word) (cast : Option (List Word))
      (code members : List Node)

/-- Words that are no names in expressions. -/
def reservedWords : List String :=
  ["abstract", "assert", "boolean", "break", "byte", "case", "catch", "char", "class", "const",
    "continue", "default", "do", "double", "else", "enum", "extends", "false", "final", "finally",
    "float", "for", "goto", "if", "implements", "import", "instanceof", "int", "interface", "long",
    "native", "new", "null", "package", "private", "protected", "public", "return", "short",
    "static", "strictfp", "super", "switch", "synchronized", "this", "throw", "throws",
    "transient", "true", "try", "void", "volatile", "while"]

/-- The types that are no classes. -/
def primitiveTypes : List String :=
  ["boolean", "byte", "char", "double", "float", "int", "long", "short", "void"]

/-- Words that may stand in front of a member. -/
def modifiers : List String :=
  ["abstract", "default", "final", "native", "private", "protected", "public", "static",
    "strictfp", "synchronized", "transient", "volatile"]

/-- The last of the dotted names that start with `name`, those before it, last first, with `scope`
in front of them, and what follows. -/
def lastName (scope : List Word) (name : Word) : List Piece → List Word × Word × List Piece
  | .mark '.' :: .word next :: rest => lastName (name :: scope) next rest
  | ps => (scope, name, ps)

/-- The annotations at the front, and what follows them. -/
def readAnnotations : Nat → List Piece → List Annotation × List Piece
  | fuel + 1, .mark '@' :: .word w :: rest =>
      let (scope, name, rest) := lastName [] w rest
      let (mentioned, rest) :=
        match rest with
        | .group .round names _ _ _ :: rest => (some names, rest)
        | _ => (none, rest)
      let (more, rest) := readAnnotations fuel rest
      (⟨scope, name, mentioned⟩ :: more, rest)
  | _, ps => ([], ps)

/-- Puts annotations in front of a type. -/
def annotate (annotations : List Annotation) (t : TypeExpr) : TypeExpr :=
  if annotations.isEmpty then t else .annotated annotations t

mutual

/-- The type at the front, and what follows it. -/
def readType : Nat → List Piece → Option (TypeExpr × List Piece)
  | 0, _ => none
  | fuel + 1, ps =>
      let (annotations, ps) := readAnnotations ps.length ps
      match ps with
      | .word w :: rest =>
          let base := if primitiveTypes.contains w.val then TypeExpr.primitive w.val else .named w
          let (t, rest) := readSuffix fuel base rest
          some (annotate annotations t, rest)
      | .mark '?' :: .word w :: rest =>
          if w.val = "extends" ∨ w.val = "super" then
            match readType fuel rest with
            | some (bound, rest) => some (annotate annotations (.wildcard (some bound)), rest)
            | none => none
          else none
      | .mark '?' :: rest => some (annotate annotations (.wildcard none), rest)
      | _ => none

/-- A type with the arguments, further names and brackets that follow it. -/
def readSuffix : Nat → TypeExpr → List Piece → TypeExpr × List Piece
  | 0, t, ps => (t, ps)
  | fuel + 1, t, ps =>
      match ps with
      | .mark '<' :: rest =>
          let (arguments, rest) := readArguments fuel rest
          readSuffix fuel (.generic t arguments) rest
      | .mark '.' :: rest =>
          let (annotations, more) := readAnnotations rest.length rest
          match more with
          | .word w :: more => readSuffix fuel (.qualified t annotations w) more
          | _ => (t, ps)
      | .group .square _ _ _ _ :: rest => readSuffix fuel (.array t []) rest
      | .mark '@' :: _ =>
          let (annotations, more) := readAnnotations ps.length ps
          match more with
          | .group .square _ _ _ _ :: more => readSuffix fuel (.array t annotations) more
          | _ => (t, ps)
      | _ => (t, ps)

/-- The types up to the end of the arguments, and what follows them. -/
def readArguments : Nat → List Piece → List TypeExpr × List Piece
  | 0, ps => ([], ps)
  | fuel + 1, ps =>
      match ps with
      | .mark '>' :: rest => ([], rest)
      | .mark ',' :: rest => readArguments fuel rest
      | _ =>
          match readType fuel ps with
          | some (t, rest) =>
              let (more, rest) := readArguments fuel rest
              (t :: more, rest)
          | none => ([], ps)

end

/-- The types at the front that are separated by commas, and what follows them. -/
def readTypes : Nat → List Piece → List TypeExpr × List Piece
  | 0, ps => ([], ps)
  | fuel + 1, ps =>
      match readType (2 * ps.length + 2) ps with
      | none => ([], ps)
      | some (t, .mark ',' :: rest) =>
          let (more, rest) := readTypes fuel rest
          (t :: more, rest)
      | some (t, rest) => ([t], rest)

/-- The names that a cast to a type mentions, if the pieces are a type. -/
def castNames? (ps : List Piece) : Option (List Word) :=
  match readType (2 * ps.length + 2) ps with
  | some (t, []) => some (t.tree.typeNames.filterMap Word.of?)
  | _ => none

/-- Whether a piece may be the start of what is cast. -/
def startsOperand : Piece → Bool
  | .word w => w.val != "instanceof"
  | .literal => true
  | .mark c => c = '!' || c = '~'
  | .group b _ _ _ _ => b == .round

/-- Words in front of round brackets that hold a condition and no type. -/
def conditionWords : List String :=
  ["if", "while"]

/-- A scan of an expression for names: the dotted names being read, last first, whether a dot was
read last, whether they name a type, how many type arguments are open, and whether a condition
follows. -/
structure Mentions where
  chain : List Word
  dotted : Bool
  isType : Bool
  depth : Nat
  condition : Bool

/-- The scan before anything is read. -/
def Mentions.start : Mentions :=
  ⟨[], false, false, 0, false⟩

/-- The names of the dotted names read so far: of a type only the last one. -/
def Mentions.flush (m : Mentions) : List Word :=
  if m.isType then m.chain.take 1 else m.chain.reverse

/-- The names that are mentioned in round brackets: those of a type if it is one to which what
follows is cast. -/
def Mentions.inBrackets (m : Mentions) (names : List Word) (cast : Option (List Word))
    (rest : List Piece) : List Word :=
  match cast with
  | some typeNames =>
      if m.chain.isEmpty && !m.condition && rest.head?.any startsOperand then typeNames else names
  | none => names

/-- The names that are mentioned in an expression. -/
def mentionedFrom (m : Mentions) : List Piece → List Word
  | [] => m.flush
  | p :: rest =>
      if 0 < m.depth then
        match p with
        | .mark '<' => mentionedFrom { m with depth := m.depth + 1 } rest
        | .mark '>' => mentionedFrom { m with depth := m.depth - 1 } rest
        | _ => mentionedFrom m rest
      else
        match p with
        | .word w =>
            if w.val = "class" ∧ m.dotted = true then m.chain.take 1 ++ mentionedFrom .start rest
            else if w.val = "new" ∨ w.val = "instanceof" then
              m.flush ++ mentionedFrom { Mentions.start with isType := true } rest
            else if reservedWords.contains w.val then
              m.flush ++
                mentionedFrom
                  { Mentions.start with condition := conditionWords.contains w.val } rest
            else if m.dotted || m.chain.isEmpty then
              mentionedFrom { m with chain := w :: m.chain, dotted := false } rest
            else m.flush ++ mentionedFrom { Mentions.start with chain := [w] } rest
        | .mark '.' => mentionedFrom { m with dotted := !m.chain.isEmpty } rest
        | .mark '@' => m.flush ++ mentionedFrom { Mentions.start with isType := true } rest
        | .mark '<' =>
            if m.isType then mentionedFrom { m with depth := 1 } rest
            else m.flush ++ mentionedFrom .start rest
        | .group .square [] _ _ _ => mentionedFrom m rest
        | .group .round names cast _ _ =>
            m.flush ++ m.inBrackets names cast rest ++ mentionedFrom .start rest
        | .group _ names _ _ _ => m.flush ++ names ++ mentionedFrom .start rest
        | _ => m.flush ++ mentionedFrom .start rest

/-- What follows type parameters, of which `depth` are open. -/
def afterParameters (depth : Nat) : List Piece → List Piece
  | [] => []
  | .mark '<' :: rest => afterParameters (depth + 1) rest
  | .mark '>' :: rest => if depth ≤ 1 then rest else afterParameters (depth - 1) rest
  | _ :: rest => afterParameters depth rest

/-- Reads the clauses of a head. -/
def readClauses : Nat → Head → List Piece → Head
  | 0, h, _ => h
  | fuel + 1, h, ps =>
      match ps with
      | [] => h
      | .word ⟨"extends", _⟩ :: rest =>
          let (types, rest) := readTypes rest.length rest
          if h.kind = .ofInterface then readClauses fuel { h with interfaces := types } rest
          else readClauses fuel { h with superclass := types.head? } rest
      | .word ⟨"implements", _⟩ :: rest =>
          let (types, rest) := readTypes rest.length rest
          readClauses fuel { h with interfaces := types } rest
      | .word ⟨"permits", _⟩ :: rest => readClauses fuel h (readTypes rest.length rest).2
      | _ :: rest => readClauses fuel h rest

/-- Reads the head of a declaration behind its name. -/
def readHead (kind : Kind) (name : Word) (ps : List Piece) : Head :=
  let rest :=
    match ps with
    | .mark '<' :: _ => afterParameters 0 ps
    | _ => ps
  readClauses (rest.length + 1) ⟨kind, name, none, []⟩ rest

/-- The outline of a piece that belongs to no declaration. -/
def Piece.code : Piece → List Node
  | .group _ _ _ [] _ => []
  | .group _ _ _ code _ => [.region code]
  | _ => []

/-- Whether what stands behind the name of a record goes on as its head does: with parameters and
then a body or a clause. -/
def goesOnAsRecord (ps : List Piece) : Bool :=
  let rest :=
    match ps with
    | .mark '<' :: _ => afterParameters 0 ps
    | _ => ps
  match rest with
  | .group .round _ _ _ _ :: .group .curly _ _ _ _ :: _ => true
  | .group .round _ _ _ _ :: .word w :: _ => w.val == "implements"
  | _ => false

/-- The kind of declaration that a keyword starts, given the mark before it and what follows. -/
def declared? (before : Option Char) (p : Piece) (rest : List Piece) : Option Kind :=
  match p, rest with
  | .word ⟨"class", _⟩, .word _ :: _ => if before = some '.' then none else some .ofClass
  | .word ⟨"interface", _⟩, .word _ :: _ =>
      if before = some '@' then some .ofMarker else some .ofInterface
  | .word ⟨"enum", _⟩, .word _ :: _ => some .ofEnum
  | .word ⟨"record", _⟩, .word _ :: more =>
      if before = some '.' || !goesOnAsRecord more then none else some .ofRecord
  | _, _ => none

/-- A scan for declarations: in code, behind a mark; behind the keyword of a declaration; or in its
head, with what was read of it, last first. -/
inductive Scan where
  | code (before : Option Char)
  | keyword (kind : Kind)
  | head (kind : Kind) (name : Word) (acc : List Piece)

/-- The outline of code. -/
def scan (s : Scan) : List Piece → List Node
  | [] => []
  | p :: rest =>
      match s with
      | .keyword kind =>
          match p with
          | .word name => scan (.head kind name []) rest
          | p => p.code ++ scan (.code none) rest
      | .head kind name acc =>
          match p with
          | .group .curly _ _ _ members =>
              acc.reverse.flatMap Piece.code ++
                .type (readHead kind name acc.reverse) members :: scan (.code none) rest
          | p => scan (.head kind name (p :: acc)) rest
      | .code before =>
          match declared? before p rest with
          | some kind => scan (.keyword kind) rest
          | none =>
              let mark :=
                match p with
                | .mark c => some c
                | _ => none
              p.code ++ scan (.code mark) rest

/-- Cuts what stands in a body into members: one ends with a semicolon, or with curly brackets
unless an equals sign stands before them. -/
def cutMembers (acc : List Piece) (assigned : Bool) : List Piece → List (List Piece)
  | [] => if acc.isEmpty then [] else [acc.reverse]
  | p :: rest =>
      match p with
      | .mark ';' => (p :: acc).reverse :: cutMembers [] false rest
      | .mark '=' => cutMembers (p :: acc) true rest
      | .group .curly _ _ _ _ =>
          if assigned then cutMembers (p :: acc) true rest
          else (p :: acc).reverse :: cutMembers [] false rest
      | p => cutMembers (p :: acc) assigned rest

/-- A member that is a method: what stands before its name, its name, and what follows. -/
structure MethodParts where
  before : List Piece
  name : Word
  after : List Piece

/-- Looks for the name of a method: the first word in front of round brackets that is neither an
annotation nor the first word behind modifiers and type parameters.  `acc` is what was read, last
first, and `typed` whether a type is among it. -/
def methodParts? : Nat → List Piece → Bool → Option Char → List Piece → Option MethodParts
  | 0, _, _, _, _ => none
  | fuel + 1, acc, typed, before, ps =>
      match ps with
      | [] => none
      | .mark '@' :: .word w :: rest =>
          if w.val = "interface" then none
          else
            let (_, _, more) := lastName [] w rest
            let more :=
              match more with
              | .group .round _ _ _ _ :: more => more
              | _ => more
            let taken := ps.take (ps.length - more.length)
            methodParts? fuel (taken.reverse ++ acc) typed none more
      | .word w :: rest =>
          match declared? before (.word w) rest, rest with
          | some _, _ => none
          | none, .group .round _ _ _ _ :: _ => if typed then some ⟨acc.reverse, w, rest⟩ else none
          | none, _ =>
              let isModifier := !typed && modifiers.contains w.val
              methodParts? fuel (.word w :: acc) (typed || !isModifier) none rest
      | .mark '<' :: rest =>
          if typed then methodParts? fuel (.mark '<' :: acc) true (some '<') rest
          else
            let more := afterParameters 0 ps
            let taken := ps.take (ps.length - more.length)
            methodParts? fuel (taken.reverse ++ acc) false none more
      | .mark '=' :: _ => none
      | .mark ';' :: _ => none
      | .group .curly _ _ _ _ :: _ => none
      | .mark c :: rest => methodParts? fuel (.mark c :: acc) true (some c) rest
      | p :: rest => methodParts? fuel (p :: acc) true none rest

/-- The outline of a member. -/
def memberNodes (ps : List Piece) : List Node :=
  match methodParts? (ps.length + 1) [] false none ps with
  | some m => scan (.code none) m.before ++ [.method m.name (scan (.code none) m.after)]
  | none => scan (.code none) ps

mutual

/-- Reads the groups of a token tree. -/
def pieceOf : Tree → Piece
  | .word w => .word w
  | .literal => .literal
  | .mark c => .mark c
  | .group b inside =>
      let ps := piecesOf inside
      .group b (mentionedFrom .start ps) (castNames? ps) (scan (.code none) ps)
        ((cutMembers [] false ps).flatMap memberNodes)

/-- Reads the groups of token trees. -/
def piecesOf : List Tree → List Piece
  | [] => []
  | t :: rest => pieceOf t :: piecesOf rest

end

/-- The outline of a source. -/
def outline (cs : List Char) : List Node :=
  scan (.code none) (piecesOf (treesOf (tokens cs)))

/-- The syntax tree of a source, given as bytes. -/
def parse (bytes : List UInt8) : SyntaxTree :=
  program (outline (Text.decodeAny bytes))

/-- The observations of a source, given as bytes. -/
def read : List UInt8 → List Observation :=
  observe parse findInOrder query

end Java

end Syntax

end SurfaceCoverage
