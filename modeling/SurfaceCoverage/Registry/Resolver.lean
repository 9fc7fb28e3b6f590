import SurfaceCoverage.Files.Disk
import SurfaceCoverage.Json.Reader
import SurfaceCoverage.Log
import SurfaceCoverage.Registry.Family
import SurfaceCoverage.Registry.Table

/-!
# Resolving the registry

Every family joins its entries of the registry table with the registrations in its generated code,
and gives the class mapping of its category.  Generated code that cannot be read registers nothing;
a registry table that cannot be read ends the run.

**Results.**
* `Resolver.name_eq_of_category_eq`: families of one category have one name.
-/

namespace SurfaceCoverage

namespace Registry

/-- Why the registry gives no mappings. -/
inductive ResolveError where
  | sharedCategory (first second category : String)
  | noTable (path : String)
  | unreadable (path : String) (error : Files.FileError)
  | notText (path : String) (error : Text.Utf8Error)
  | notJson (path : String) (error : Json.ReadError)
  | notObject (path : String)
  | badTable (error : TableError)
  | badPath (error : Files.FileError)
  | lacksGroup (error : MissingGroup)
  | lacksId (error : MissingId)
  deriving Repr, DecidableEq

/-- Why the registry gives no mappings, in words. -/
def ResolveError.message : ResolveError → String
  | .sharedCategory first second category =>
      s!"Registry families '{first}' and '{second}' both map category '{category}'"
  | .noTable path => s!"Registry table not found: {path}"
  | .unreadable path error =>
      if error.cause.isUnfit then error.message
      else s!"Cannot read registry table {path}: {error.message}"
  | .notText path error => s!"Registry table {path} is not valid UTF-8: {error.message}"
  | .notJson path error =>
      match error.cause with
      | .digits _ => error.message
      | _ => s!"Registry table {path} is not valid JSON: {error.message}"
  | .notObject path => s!"Registry table {path} must contain a JSON object"
  | .badTable error => error.message
  | .badPath error => error.message
  | .lacksGroup error => error.message
  | .lacksId error => error.message

/-- The registry table in a file. -/
def loadTable (d : Files.Disk) (p : Files.Path) : Except ResolveError Json :=
  match d.readText p with
  | .error (.file e) =>
      .error (if e.cause = .notFound then .noTable p.text else .unreadable p.text e)
  | .error (.encoding e) => .error (.notText p.text e)
  | .ok text =>
      match Json.parse text with
      | .error e => .error (.notJson p.text e)
      | .ok (.object members) => .ok (.object members)
      | .ok _ => .error (.notObject p.text)

/-- The name of the first family with the given category. -/
def ownerOf? (families : List Family) (category : String) : Option String :=
  (families.find? fun f => f.category = category).map Family.name

/-- Families of which each category belongs to one name. -/
structure Resolver where
  families : List Family
  owned : ∀ f ∈ families, ownerOf? families f.category = some f.name

namespace Resolver

/-- Takes families on, unless one of them claims a category that belongs to another name. -/
def ofFamilies (families : List Family) : Except ResolveError Resolver :=
  match h : families.find? fun f => ownerOf? families f.category ≠ some f.name with
  | some f =>
      .error
        (.sharedCategory ((ownerOf? families f.category).getD f.name) f.name f.category)
  | none =>
      .ok ⟨families, fun f hf => by simpa using List.find?_eq_none.1 h f hf⟩

theorem name_eq_of_category_eq (r : Resolver) {f g : Family} (hf : f ∈ r.families)
    (hg : g ∈ r.families) (h : f.category = g.category) :
    f.name = g.name := by
  have hn : some f.name = some g.name := by
    rw [← r.owned f hf, ← r.owned g hg, h]
  exact Option.some.inj hn

end Resolver

/-- The warning about generated code that cannot be read. -/
def unavailableLine (f : Family) (reason : String) : Log.Line :=
  Log.line "registry" Log.warning
    (s!"Generated registrations for {f.name} unavailable ({reason}); " ++
      s!"every {f.category} class resolves empty")

/-- The text of the generated code of a family; where it cannot be read, none. -/
def generatedText (d : Files.Disk) (f : Family) : Log.Step ResolveError String :=
  match d.readText f.generated with
  | .ok text => ⟨[], .ok text⟩
  | .error (.file e) =>
      if e.cause.isUnfit then ⟨[], .error (.badPath e)⟩
      else ⟨[unavailableLine f e.message], .ok ""⟩
  | .error (.encoding e) => ⟨[unavailableLine f e.message], .ok ""⟩

/-- The line about a family that is resolved. -/
def familyLine (f : Family) (entries registrations mapped : Nat) : Log.Line :=
  Log.line "registry" Log.debug
    (s!"Family {f.name}: {entries} registry entries, " ++
      s!"{registrations} generated registrations, {mapped} mapped")

/-- The class mapping of a family, given its entries and its generated code. -/
def joinText (f : Family) (entries : List TableEntry) (text : String) :
    Log.Step ResolveError ClassMapping :=
  match registrations f.pattern text with
  | .error e => ⟨[], .error (.lacksGroup e)⟩
  | .ok found =>
      match join f.normalization entries found with
      | .error e => ⟨[], .error (.lacksId e)⟩
      | .ok m => ⟨[familyLine f entries.length found.length m.size], .ok m⟩

/-- The class mapping of a family. -/
def resolveFamily (d : Files.Disk) (table : Json) (f : Family) :
    Log.Step ResolveError ClassMapping :=
  match entries table f.entries with
  | .error e => ⟨[], .error (.badTable e)⟩
  | .ok found => (generatedText d f).andThen (joinText f found)

/-- The class mappings of families by category, on top of those that are known. -/
def resolveAll (d : Files.Disk) (table : Json) (known : OrderedMap String ClassMapping) :
    List Family → Log.Step ResolveError (OrderedMap String ClassMapping)
  | [] => ⟨[], .ok known⟩
  | f :: rest =>
      (resolveFamily d table f).andThen fun m =>
        resolveAll d table (known.insert f.category m) rest

/-- The class mappings by category. -/
def Resolver.resolve (r : Resolver) (d : Files.Disk) (table : Json) :
    Log.Step ResolveError (OrderedMap String ClassMapping) :=
  resolveAll d table OrderedMap.empty r.families

end Registry

end SurfaceCoverage
