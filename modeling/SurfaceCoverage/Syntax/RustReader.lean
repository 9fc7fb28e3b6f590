import SurfaceCoverage.Syntax.Extractor
import SurfaceCoverage.Syntax.RustOutline
import SurfaceCoverage.Syntax.RustTokens

/-!
# Reading Rust sources

Token trees are turned into an outline from the inside out.  The word `impl` starts a block where
an item may start: at the front of curly brackets, behind a semicolon, behind curly brackets and
behind an attribute.  Anywhere else it belongs to a type.  Macro calls and attributes are not looked
into.
-/

namespace SurfaceCoverage

namespace Syntax

namespace Rust

/-- A token tree whose groups are read already; a group carries its outline. -/
inductive Piece where
  | word (w : Word)
  | literal
  | mark (c : Char)
  | group (b : Bracket) (items : List Node)

/-- Words that are no names. -/
def keywords : List String :=
  ["as", "async", "await", "break", "const", "continue", "crate", "dyn", "else", "enum", "extern",
    "false", "fn", "for", "if", "impl", "in", "let", "loop", "match", "mod", "move", "mut", "pub",
    "ref", "return", "self", "static", "struct", "super", "trait", "true", "type", "unsafe", "use",
    "where", "while"]

/-- The types that are built in. -/
def primitiveTypes : List String :=
  ["u8", "i8", "u16", "i16", "u32", "i32", "u64", "i64", "u128", "i128", "isize", "usize", "f32",
    "f64", "bool", "str", "char"]

/-- The outline of a piece that belongs to no item. -/
def Piece.region : Piece → List Node
  | .group _ [] => []
  | .group _ items => [.region items]
  | _ => []

/-- The pieces behind generic parameters, if they stand at the front; `depth` brackets are open. -/
def afterParameters (depth : Nat) : List Piece → List Piece
  | [] => []
  | .mark '-' :: .mark '>' :: rest => afterParameters depth rest
  | .mark '<' :: rest => afterParameters (depth + 1) rest
  | .mark '>' :: rest => if depth ≤ 1 then rest else afterParameters (depth - 1) rest
  | _ :: rest => afterParameters depth rest

/-- The type in a head: what stands behind `for`, or all if there is none, up to `where`.  `acc` is
what was read of it, last first, and `depth` is how many angle brackets are open. -/
def headType (depth : Nat) (acc : List Piece) : List Piece → List Piece
  | [] => acc.reverse
  | .mark '-' :: .mark '>' :: rest => headType depth (.mark '>' :: .mark '-' :: acc) rest
  | .mark '<' :: rest => headType (depth + 1) (.mark '<' :: acc) rest
  | .mark '>' :: rest => headType (depth - 1) (.mark '>' :: acc) rest
  | .word ⟨"for", h⟩ :: .mark '<' :: rest =>
      headType (depth + 1) (.mark '<' :: .word ⟨"for", h⟩ :: acc) rest
  | .word ⟨"for", h⟩ :: rest =>
      if depth = 0 then headType 0 [] rest else headType depth (.word ⟨"for", h⟩ :: acc) rest
  | .word ⟨"where", h⟩ :: rest =>
      if depth = 0 then acc.reverse else headType depth (.word ⟨"where", h⟩ :: acc) rest
  | p :: rest => headType depth (p :: acc) rest

/-- The type that a head names. -/
def selfTypeOf (head : List Piece) : SelfType :=
  let rest :=
    match head with
    | .mark '<' :: _ => afterParameters 0 head
    | _ => head
  match headType 0 [] rest with
  | [.word w] =>
      if keywords.contains w.val || primitiveTypes.contains w.val then .other else .plain w
  | _ => .other

/-- A scan for items: in code, with whether an item may start here and the word before, if any; in
the head of a block or behind the name of a function, with what was read since, last first, how many
angle brackets are open and whether an arrow is being read; behind the keyword of a function; behind
the sign of an attribute; or behind the exclamation mark of a macro call. -/
inductive Scan where
  | code (start : Bool) (word : Option String)
  | implementation (acc : List Piece) (depth : Nat) (arrow : Bool)
  | function (name : Word) (acc : List Piece) (depth : Nat) (arrow : Bool)
  | name
  | attribute
  | call

/-- How many angle brackets are open behind a piece; the mark of an arrow closes none. -/
def openAngles (depth : Nat) (arrow : Bool) : Piece → Nat
  | .mark '<' => depth + 1
  | .mark '>' => if arrow then depth else depth - 1
  | _ => depth

/-- Whether a piece is the first mark of an arrow. -/
def startsArrow : Piece → Bool
  | .mark '-' => true
  | .mark '=' => true
  | _ => false

/-- The outline of code. -/
def scan (s : Scan) : List Piece → List Node
  | [] => []
  | p :: rest =>
      match s with
      | .implementation acc depth arrow =>
          match p, depth with
          | .group .curly items, 0 =>
              acc.reverse.flatMap Piece.region ++
                .implementation (selfTypeOf acc.reverse) items :: scan (.code true none) rest
          | .mark ';', 0 =>
              acc.reverse.flatMap Piece.region ++
                .implementation (selfTypeOf acc.reverse) [] :: scan (.code true none) rest
          | p, depth =>
              scan (.implementation (p :: acc) (openAngles depth arrow p) (startsArrow p)) rest
      | .function name acc depth arrow =>
          match p, depth with
          | .group .curly items, 0 =>
              .function name true (acc.reverse.flatMap Piece.region ++ [.region items]) ::
                scan (.code true none) rest
          | .mark ';', 0 =>
              .function name false (acc.reverse.flatMap Piece.region) ::
                scan (.code true none) rest
          | p, depth =>
              scan (.function name (p :: acc) (openAngles depth arrow p) (startsArrow p)) rest
      | .name =>
          match p with
          | .word name => scan (.function name [] 0 false) rest
          | p => p.region ++ scan (.code false none) rest
      | .attribute =>
          match p with
          | .group .square _ => scan (.code true none) rest
          | .mark '!' => scan .attribute rest
          | p => p.region ++ scan (.code false none) rest
      | .call =>
          match p with
          | .group b _ => scan (.code (b == .curly) none) rest
          | .word _ => scan .call rest
          | _ => scan (.code false none) rest
      | .code start word =>
          match p with
          | .word ⟨"impl", _⟩ =>
              if start then scan (.implementation [] 0 false) rest
              else scan (.code false (some "impl")) rest
          | .word ⟨"unsafe", _⟩ => scan (.code start (some "unsafe")) rest
          | .word ⟨"fn", _⟩ =>
              match rest with
              | .word _ :: _ => scan .name rest
              | _ => scan (.code false (some "fn")) rest
          | .word w => scan (.code false (some w.val)) rest
          | .mark ';' => scan (.code true none) rest
          | .mark '#' => scan .attribute rest
          | .mark '!' =>
              match word, rest with
              | some w, .group _ _ :: _ =>
                  if keywords.contains w then scan (.code false none) rest else scan .call rest
              | some "macro_rules", _ => scan .call rest
              | _, _ => scan (.code false none) rest
          | .group b items =>
              (Piece.group b items).region ++ scan (.code (b == .curly) none) rest
          | _ => scan (.code false none) rest

mutual

/-- Reads the groups of a token tree. -/
def pieceOf : Tree → Piece
  | .word w => .word w
  | .literal => .literal
  | .mark c => .mark c
  | .group b inside => .group b (scan (.code (b == .curly) none) (piecesOf inside))

/-- Reads the groups of token trees. -/
def piecesOf : List Tree → List Piece
  | [] => []
  | t :: rest => pieceOf t :: piecesOf rest

end

/-- The text behind a byte order mark. -/
def withoutMark (cs : List Char) : List Char :=
  if cs.head? = some (Char.ofNat 0xFEFF) then cs.drop 1 else cs

/-- The outline of a source. -/
def outline (cs : List Char) : List Node :=
  scan (.code true none) (piecesOf (treesOf (tokens (withoutMark cs))))

/-- The syntax tree of a source, given as bytes. -/
def parse (bytes : List UInt8) : SyntaxTree :=
  sourceFile (outline (Text.decodeAny bytes))

/-- The observations of a source, given as bytes. -/
def read : List UInt8 → List Observation :=
  observe parse findInOrder query

end Rust

end Syntax

end SurfaceCoverage
