import SurfaceCoverage.Files.Disk
import SurfaceCoverage.Runtime
import SurfaceCoverage.Settings.Basic

/-!
# Files with settings

A file with settings is a YAML document.  A section that it has replaces the default of that
section; what is written there must have the form of the section.

**Results.**
* `fieldsOf_not_map`: what is no mapping has no fields.
-/

namespace SurfaceCoverage

namespace Settings

/-- Why settings are refused. -/
inductive ReadError where
  | badPath (error : Files.PathError)
  | unreadable (path : String) (error : Files.FileError)
  | notText (file : String) (error : Text.Utf8Error)
  | yaml (file : String) (error : Yaml.Error)
  | unwritable (fault : Yaml.WriteFault)
  | noMapping (file : String)
  | badSide (name : String)
  | sources (side : String)
  | source (side : String) (index : Nat)
  | families
  | family (error : Registry.FamilyError)
  | categories
  deriving Repr, DecidableEq

/-- What is wrong with settings. -/
def ReadError.message : ReadError → String
  | .badPath error => error.message
  | .unreadable path error =>
      if error.cause.isUnfit then error.message else s!"Cannot read {path}: {error.message}"
  | .notText file error => s!"{file} is not valid UTF-8: {error.message}"
  | .yaml file error =>
      if error.isFormat then s!"Failed to parse {file}: {error.message}" else error.message
  | .unwritable fault => fault.message
  | .noMapping file => s!"{file} must contain a mapping at the root"
  | .badSide name => s!"{name} must be a mapping with 'grammar' and 'sources'"
  | .sources side => s!"{side}.sources must be a list"
  | .source side index => s!"{side}.sources[{index}] needs both 'path' and 'category'"
  | .families => "registry.families must be a mapping of family name to settings"
  | .family error => error.message
  | .categories => "methods.categories must map category names to table names"

/-- The entries of a mapping. -/
abbrev Fields := List (Yaml.Value × Yaml.Value)

/-- The fields of what is a mapping; of anything else, none. -/
def fieldsOf (v : Yaml.Value) : Fields :=
  match v.opened with
  | .map entries => entries
  | _ => []

/-- Whether a value is a mapping. -/
def isMapping (v : Yaml.Value) : Bool :=
  match v.opened with
  | .map _ => true
  | _ => false

/-- The text of a text or number. -/
def scalarText? : Yaml.Value → Except Yaml.WriteFault (Option String)
  | .text s => .ok (some s)
  | .int n => (Yaml.wholeText n).map some
  | .float x => .ok (some (Decimal.text x))
  | _ => .ok none

/-- The text or number in a field, as a text. -/
def textField? (key : String) (fields : Fields) : Except Yaml.WriteFault (Option String) :=
  match Yaml.field? key fields with
  | some v => scalarText? v
  | none => .ok none

/-- The text or number in a field, as a text that is not empty. -/
def presentField? (key : String) (fields : Fields) : Except ReadError (Option String) :=
  ((textField? key fields).map Registry.present).mapError .unwritable

/-- The path in a field, from the given root; without one, the path as before. -/
def pathField (root : Files.Path) (key : String) (before : Option Files.Path) (fields : Fields) :
    Except ReadError (Option Files.Path) := do
  match ← presentField? key fields with
  | some path => return some (root.join (.ofString path))
  | none => return before

/-- A source root as it is written. -/
def sourceOf (root : Files.Path) (side : String) (index : Nat) (v : Yaml.Value) :
    Except ReadError SourceRoot := do
  let path ← presentField? "path" (fieldsOf v)
  let category ← presentField? "category" (fieldsOf v)
  match path, category with
  | some path, some category => return ⟨root.join (.ofString path), category⟩
  | _, _ => throw (.source side index)

/-- The source roots that are written for a side, from the given index on. -/
def sourcesFrom (root : Files.Path) (side : String) :
    Nat → List Yaml.Value → Except ReadError (List SourceRoot)
  | _, [] => .ok []
  | index, v :: rest => do
      let source ← sourceOf root side index v
      let sources ← sourcesFrom root side (index + 1) rest
      return source :: sources

/-- The source roots as they are written for a side, or those as before if none are. -/
def sourcesField (root : Files.Path) (side : String) (before : List SourceRoot) (fields : Fields) :
    Except ReadError (List SourceRoot) :=
  match (Yaml.field? "sources" fields).map Yaml.Value.opened with
  | none => .ok before
  | some (.list items) => sourcesFrom root side 0 items
  | some _ => .error (.sources side)

/-- A side as it is written; what is not written stays as before. -/
def sideOf (root : Files.Path) (name : String) (before : Side) (v : Yaml.Value) :
    Except ReadError Side :=
  if (fieldsOf v).isEmpty then .error (.badSide name)
  else do
    let grammar ← presentField? "grammar" (fieldsOf v)
    let sources ← sourcesField root name before.sources (fieldsOf v)
    return ⟨grammar.getD before.grammar, sources⟩

/-- A side of the document, or the side as before if the document has none. -/
def sideField (root : Files.Path) (name : String) (before : Side) (fields : Fields) :
    Except ReadError Side :=
  match Yaml.field? name fields with
  | some v => sideOf root name before v
  | none => .ok before

/-- The settings of a family as they are written under its key. -/
def familyFields (depth : Nat) (key v : Yaml.Value) : Registry.FamilyFields :=
  let fields := fieldsOf v
  { name := do
      let shown ← key.display depth
      match Yaml.field? "name" fields with
      | some v => return (← scalarText? v).getD ""
      | none => return shown
    category := textField? "category" fields
    entries := textField? "entries" fields
    generated := textField? "generated" fields
    pattern := textField? "pattern" fields
    normalize := textField? "normalize" fields }

/-- The families as they are written, or those as before if none are. -/
def familiesField (r : Runtime) (root : Files.Path) (before : List Registry.Family)
    (fields : Fields) : Except ReadError (List Registry.Family) :=
  match Yaml.field? "families" fields with
  | none => .ok before
  | some v =>
      if isMapping v then
        (readFamilies r.dialect root ((fieldsOf v).map fun e =>
          familyFields r.depth e.1 e.2)).mapError .family
      else .error .families

/-- The registry section: the file with the table, and the families. -/
def registryOf (r : Runtime) (s : Settings) (fields : Fields) : Except ReadError Settings := do
  let classes ← pathField s.root "classes" s.classes fields
  let families ← familiesField r s.root s.families fields
  return { s with classes := classes, families := families }

/-- A category with the table that is written for it. -/
def routeOf (depth : Nat) (e : Yaml.Value × Yaml.Value) :
    Except Yaml.WriteFault (String × String) := do
  let category ← e.1.display depth
  let table ← e.2.display depth
  return (category, table)

/-- Which table belongs to which category, as it is written, or as before if nothing is. -/
def routesField (r : Runtime) (before : OrderedMap String String) (fields : Fields) :
    Except ReadError (OrderedMap String String) :=
  match Yaml.field? "categories" fields with
  | none => .ok before
  | some v =>
      if isMapping v then
        (((fieldsOf v).mapM (routeOf r.depth)).map OrderedMap.ofList).mapError .unwritable
      else .error .categories

/-- The default table as it is written, or the one as before if none is. -/
def defaultField (before : Option String) (fields : Fields) : Except ReadError (Option String) :=
  match Yaml.field? "default_table" fields with
  | none => .ok before
  | some v => (scalarText? v).mapError .unwritable

/-- The section about methods: the file with the tables, and which table belongs to which
category. -/
def methodsOf (r : Runtime) (s : Settings) (fields : Fields) : Except ReadError Settings := do
  let tables ← pathField s.root "tables" s.tables fields
  let categories ← routesField r s.categories fields
  let defaultTable ← defaultField s.defaultTable fields
  return { s with tables := tables, categories := categories, defaultTable := defaultTable }

/-- The section about the reports: their directory. -/
def outputOf (s : Settings) (fields : Fields) : Except ReadError Settings := do
  let directory ← pathField s.root "directory" none fields
  return { s with output := directory.getD s.output }

/-- The fields of a section that may be missing. -/
def sectionOf (name : String) (fields : Fields) : Fields :=
  fieldsOf ((Yaml.field? name fields).getD .null)

/-- The settings of a document over those without one. -/
def overlay (r : Runtime) (s : Settings) (fields : Fields) : Except ReadError Settings := do
  let reference ← sideField s.root "reference" s.reference fields
  let target ← sideField s.root "target" s.target fields
  let s ← registryOf r { s with reference := reference, target := target }
    (sectionOf "registry" fields)
  let s ← methodsOf r s (sectionOf "methods" fields)
  outputOf s (sectionOf "output" fields)

/-- The document of a file with settings; a blank one is an empty mapping. -/
def document (r : Runtime) (file text : String) : Except ReadError Yaml.Value :=
  if Text.trim text = "" then .ok (.map [])
  else
    match r.readYaml text with
    | .error e => .error (.yaml file e)
    | .ok .null => .ok (.map [])
    | .ok v => .ok v

/-- The file that a path to settings leads to: in a directory, the one with the usual name. -/
def fileAt (d : Files.Disk) (p : Files.Path) : Except Files.PathError Files.Path := do
  let p ← d.expandHome p
  if ← (d.seesDirectory p).mapError .file then d.resolve (p.child fileName) else d.resolve p

/-- The directory that relative paths start from: the given one, or that of the file. -/
def rootOf (d : Files.Disk) (file : Files.Path) (root : Option Files.Path) :
    Except Files.PathError Files.Path := do
  d.resolve (← d.expandHome (root.getD file.parent))

/-- The settings in a file, laid over those without one. -/
def overFile (r : Runtime) (d : Files.Disk) (file : Files.Path) (s : Settings) :
    Except ReadError Settings :=
  match d.readText file with
  | .error (.file e) => .error (.unreadable file.text e)
  | .error (.encoding e) => .error (.notText file.name e)
  | .ok text => do
      let v ← document r file.name text
      if isMapping v then overlay r s (fieldsOf v) else throw (.noMapping file.name)

/-- The settings in a file, or the standard ones if there is no such file. -/
def ofFile (r : Runtime) (d : Files.Disk) (p : Files.Path) (root : Option Files.Path) :
    Except ReadError Settings := do
  let file ← (fileAt d p).mapError .badPath
  let root ← (rootOf d file root).mapError .badPath
  let s ← (standard r.dialect root).mapError .family
  if ← (d.seesAnything file).mapError (fun e => .badPath (.file e)) then overFile r d file s
  else return s

theorem fieldsOf_not_map (v : Yaml.Value) (h : isMapping v = false) :
    fieldsOf v = [] := by
  unfold isMapping at h
  unfold fieldsOf
  split
  · next entries hv => simp [hv] at h
  · rfl

end Settings

end SurfaceCoverage
