import SurfaceCoverage.Declaration
import SurfaceCoverage.Sources
import SurfaceCoverage.Syntax.JavaReader
import SurfaceCoverage.Syntax.RustReader

/-!
# Grammars

A grammar reads the source files of one language.  Two grammars are built in; plugins may offer
more.  A grammar is asked for by its name, in any case, and the built-in ones win over plugins.

**Results.**
* `find_java`, `find_rust`: the built-in grammars are found whatever plugins there are.
-/

namespace SurfaceCoverage

/-- A grammar: its name, the suffixes of its files, whether it knows ancestors (otherwise every type
is a class of its own), and what it observes in a source file. -/
structure Grammar where
  name : String
  extensions : List String
  tracksInheritance : Bool
  read : List UInt8 → List Observation

/-- What a plugin gives when it is loaded: a grammar, something that is none, or nothing for a
reason. -/
inductive Loaded where
  | grammar (g : Grammar)
  | other
  | failed (reason : String)

/-- A plugin, with the name under which its grammar is asked for and what it gives when it is
loaded. -/
structure Plugin where
  name : String
  loaded : Loaded

/-- Why there is no grammar: none has the name, a plugin cannot be loaded, a plugin gives something
else, or the parser is not installed. -/
inductive GrammarError where
  | unknown (name : String) (available : List String)
  | failed (plugin reason : String)
  | notGrammar
  | notInstalled (name : String)
  deriving Repr, DecidableEq

/-- Why there is no grammar, in words. -/
def GrammarError.message : GrammarError → String
  | .unknown name available =>
      s!"Unknown grammar '{name}' (available: " ++ ", ".intercalate available ++ ")"
  | .failed plugin reason => s!"Failed to load extractor entry point '{plugin}': {reason}"
  | .notGrammar => "Extractor entry point must be a DeclarationExtractor subclass or factory"
  | .notInstalled name => s!"Grammar not installed: {name}"

namespace Grammar

/-- Java, with what parses its sources and what runs a query over their trees. -/
def javaBy (parse : List UInt8 → SyntaxTree) (find : Cursor) : Grammar :=
  ⟨"java", [".java"], true, observe parse find Syntax.Java.query⟩

/-- Rust, which has no ancestors. -/
def rustBy (parse : List UInt8 → SyntaxTree) (find : Cursor) : Grammar :=
  ⟨"rust", [".rs"], false, observe parse find Syntax.Rust.query⟩

/-- Java. -/
def java : Grammar :=
  javaBy Syntax.Java.parse findInOrder

/-- Rust. -/
def rust : Grammar :=
  rustBy Syntax.Rust.parse findInOrder

/-- The built-in grammars. -/
def builtIn : List Grammar :=
  [java, rust]

/-- The grammar with the given reader, if the reader is installed. -/
def ofReader? (name : String) (extensions : List String) (tracksInheritance : Bool)
    (reader : Option (List UInt8 → List Observation)) : Except GrammarError Grammar :=
  match reader with
  | some read => .ok ⟨name, extensions, tracksInheritance, read⟩
  | none => .error (.notInstalled name)

/-- Whether a file is one of the grammar. -/
def supports (g : Grammar) (p : Files.Path) : Bool :=
  g.extensions.contains (Text.lower p.suffix)

/-- The names under which grammars are on offer, each once and in rising order. -/
def available (plugins : List Plugin) : List String :=
  (Text.sorted (builtIn.map name ++ plugins.map fun p => Text.lower p.name)).eraseDups

/-- The grammar that a plugin gives. -/
def ofPlugin (p : Plugin) : Except GrammarError Grammar :=
  match p.loaded with
  | .grammar g => .ok g
  | .other => .error .notGrammar
  | .failed reason => .error (.failed p.name reason)

/-- The grammar with the given name, in any case. -/
def find (plugins : List Plugin) (name : String) : Except GrammarError Grammar :=
  match builtIn.find? fun g => g.name = Text.lower name with
  | some g => .ok g
  | none =>
      match plugins.find? fun p => Text.lower p.name = Text.lower name with
      | some p => ofPlugin p
      | none => .error (.unknown name (available plugins))

theorem find_java (plugins : List Plugin) :
    find plugins "java" = .ok java := by
  have h : Text.lower "java" = "java" := by decide +kernel
  simp [find, builtIn, h, java, javaBy]

theorem find_rust (plugins : List Plugin) :
    find plugins "rust" = .ok rust := by
  have h : Text.lower "rust" = "rust" := by decide +kernel
  simp [find, builtIn, h, java, javaBy, rust, rustBy]

end Grammar

end SurfaceCoverage
