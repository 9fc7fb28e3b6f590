import SurfaceCoverage.Pattern.Reader
import SurfaceCoverage.Yaml.Document

/-!
# What a run relies on

A run reads YAML documents, compiles patterns and writes values out with means that are not its own.
They are gathered here: what is said about runs holds whatever they are.
-/

namespace SurfaceCoverage

/-- What a run relies on: a reader of YAML documents, the dialect of patterns, and how deeply nested
the values may be that are written out. -/
structure Runtime where
  readYaml : String → Except Yaml.Error Yaml.Value
  dialect : Pattern.Dialect
  depth : Nat

namespace Runtime

/-- The names of the printable ASCII characters that are neither letters nor digits. -/
def markNames : List (String × Char) :=
  [("SPACE", ' '), ("EXCLAMATION MARK", '!'), ("QUOTATION MARK", '"'), ("NUMBER SIGN", '#'),
    ("DOLLAR SIGN", '$'), ("PERCENT SIGN", '%'), ("AMPERSAND", '&'), ("APOSTROPHE", '\''),
    ("LEFT PARENTHESIS", '('), ("RIGHT PARENTHESIS", ')'), ("ASTERISK", '*'), ("PLUS SIGN", '+'),
    ("COMMA", ','), ("HYPHEN-MINUS", '-'), ("FULL STOP", '.'), ("SOLIDUS", '/'), ("COLON", ':'),
    ("SEMICOLON", ';'), ("LESS-THAN SIGN", '<'), ("EQUALS SIGN", '='), ("GREATER-THAN SIGN", '>'),
    ("QUESTION MARK", '?'), ("COMMERCIAL AT", '@'), ("LEFT SQUARE BRACKET", '['),
    ("REVERSE SOLIDUS", '\\'), ("RIGHT SQUARE BRACKET", ']'), ("CIRCUMFLEX ACCENT", '^'),
    ("LOW LINE", '_'), ("GRAVE ACCENT", Char.ofNat 96), ("LEFT CURLY BRACKET", Char.ofNat 123),
    ("VERTICAL LINE", '|'), ("RIGHT CURLY BRACKET", Char.ofNat 125), ("TILDE", '~')]

/-- The names of the ASCII digits. -/
def digitNames : List (String × Char) :=
  ["ZERO", "ONE", "TWO", "THREE", "FOUR", "FIVE", "SIX", "SEVEN", "EIGHT", "NINE"].zipIdx.map
    fun n => ("DIGIT " ++ n.1, Char.ofNat (48 + n.2))

/-- The names of the ASCII letters. -/
def letterNames : List (String × Char) :=
  (List.range 26).flatMap fun i =>
    let capital := Char.ofNat (65 + i)
    [(s!"LATIN CAPITAL LETTER {capital}", capital),
      (s!"LATIN SMALL LETTER {capital}", Char.ofNat (97 + i))]

/-- The printable ASCII character with a name, in whatever case the name is written. -/
def asciiNamed (name : String) : Option Char :=
  ((markNames ++ digitNames ++ letterNames).find? fun n => n.1 = name.map Char.toUpper).map Prod.snd

/-- What a run usually relies on. -/
def usual : Runtime :=
  { readYaml := Yaml.read
    dialect := ⟨asciiNamed, 472⟩
    depth := 960 }

end Runtime

end SurfaceCoverage
