import SurfaceCoverage.Files.Disk
import SurfaceCoverage.MethodTable
import SurfaceCoverage.Runtime

/-!
# Files with method tables

A file with method tables is a YAML document: a mapping of table names to mappings of methods.
-/

namespace SurfaceCoverage

namespace MethodTables

/-- Why a text or a file holds no method tables. -/
inductive ReadError where
  | unreadable (path : String) (error : Files.FileError)
  | notText (path : String) (error : Text.Utf8Error)
  | yaml (origin : String) (error : Yaml.Error)
  | unwritable (fault : Yaml.WriteFault)
  | noMapping (origin : String)
  | tableNotMapping (name origin : String)
  | table (error : TableError)

/-- What is wrong with a text or a file. -/
def ReadError.message : ReadError → String
  | .unreadable path error =>
      if error.cause.isUnfit then error.message
      else s!"Cannot read method tables {path}: {error.message}"
  | .notText path error => s!"Method tables {path} are not valid UTF-8: {error.message}"
  | .yaml origin error =>
      if error.isFormat then s!"Failed to parse {origin}: {error.message}" else error.message
  | .unwritable fault => fault.message
  | .noMapping origin => s!"{origin} must contain a mapping of table names"
  | .tableNotMapping name origin => s!"Method table '{name}' in {origin} must be a mapping"
  | .table error => error.message

/-- The table with the given name and written content. -/
def tableOf (depth : Nat) (origin : String) (name content : Yaml.Value) :
    Except ReadError MethodTable := do
  let name ← (name.display depth).mapError .unwritable
  match content.opened with
  | .null => (MethodTable.ofValues depth name []).mapError .table
  | .map entries => (MethodTable.ofValues depth name entries).mapError .table
  | _ => throw (.tableNotMapping name origin)

/-- The tables with the given written contents; the first bad one decides the error. -/
def tablesOf (depth : Nat) (origin : String) :
    List (Yaml.Value × Yaml.Value) → Except ReadError (List (String × MethodTable))
  | [] => .ok []
  | (name, content) :: rest => do
      let table ← tableOf depth origin name content
      let tables ← tablesOf depth origin rest
      return (table.name, table) :: tables

/-- The tables of a document. -/
def ofValue (depth : Nat) (origin : String) (v : Yaml.Value) : Except ReadError TablesByName :=
  match v.opened with
  | .map entries => (tablesOf depth origin entries).map OrderedMap.ofList
  | v => if v.isEmpty then .ok OrderedMap.empty else .error (.noMapping origin)

/-- The tables that a text holds. -/
def ofText (r : Runtime) (origin text : String) : Except ReadError TablesByName :=
  match r.readYaml text with
  | .error e => .error (.yaml origin e)
  | .ok v => ofValue r.depth origin v

/-- The tables that a file holds. -/
def ofFile (r : Runtime) (d : Files.Disk) (p : Files.Path) : Except ReadError TablesByName :=
  match d.readText p with
  | .error (.file e) => .error (.unreadable p.text e)
  | .error (.encoding e) => .error (.notText p.text e)
  | .ok text => ofText r p.text text

end MethodTables

end SurfaceCoverage
