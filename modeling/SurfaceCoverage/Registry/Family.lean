import SurfaceCoverage.Chain
import SurfaceCoverage.Files.Path
import SurfaceCoverage.Registry.Generated
import SurfaceCoverage.Yaml.Value

/-!
# Registry families

A family says which entries of the registry table are joined with which generated registrations,
and which category its classes belong to.

**Results.**
* `gives_of_ofFields`: a family that is accepted has the name and the category that are written for
  it, and both groups.
-/

namespace SurfaceCoverage

namespace Registry

/-- A registry family.  Its pattern is what its text is read as in a dialect. -/
structure Family where
  name : String
  category : String
  entries : String
  generated : Files.Path
  dialect : Pattern.Dialect
  patternText : String
  pattern : Pattern.Named
  normalization : Normalization
  pattern_read : Pattern.Named.ofText dialect patternText = .ok pattern

/-- Why a family is refused. -/
inductive FamilyError where
  | unwritable (fault : Yaml.WriteFault)
  | missing (name : String) (keys : List String)
  | badPattern (name : String) (fault : Pattern.Fault)
  | lacksGroups (name : String)
  | badNormalization (name : String)
  deriving Repr, DecidableEq

/-- What is wrong with a family.  Values that cannot be written out speak for themselves, and so do
bounds and flags that are well-formed but refused, and groups that are nested too deeply. -/
def FamilyError.message : FamilyError → String
  | .unwritable fault => fault.message
  | .missing name keys => s!"Registry family '{name}' is missing: " ++ ", ".intercalate keys
  | .badPattern _ .hugeBound => Pattern.Fault.hugeBound.message
  | .badPattern _ .opposedFlags => Pattern.Fault.opposedFlags.message
  | .badPattern _ .tooDeep => Pattern.Fault.tooDeep.message
  | .badPattern name fault =>
      s!"Registry family '{name}' has an invalid pattern: {fault.message}"
  | .lacksGroups name =>
      s!"Registry family '{name}' pattern needs named groups '{idGroup}' and '{typeGroup}'"
  | .badNormalization name =>
      s!"Registry family '{name}' normalize must be one of: " ++
        ", ".intercalate (Normalization.all.map Normalization.text)

/-- The settings of a family as they are written, where they are texts or numbers.  Each is written
out when it is looked at, which may fail. -/
structure FamilyFields where
  name : Except Yaml.WriteFault String
  category : Except Yaml.WriteFault (Option String)
  entries : Except Yaml.WriteFault (Option String)
  generated : Except Yaml.WriteFault (Option String)
  pattern : Except Yaml.WriteFault (Option String)
  normalize : Except Yaml.WriteFault (Option String)

/-- A text that is not empty. -/
def present (s : Option String) : Option String :=
  s.filter (· ≠ "")

/-- The settings that a family cannot do without. -/
structure FamilyNeeds where
  entries : String
  generated : String
  pattern : String

/-- The settings that a family cannot do without, unless one of them is not there. -/
def needsOf (name : String) (entries generated pattern : Option String) :
    Except FamilyError FamilyNeeds :=
  let keys :=
    ([("entries", entries), ("generated", generated), ("pattern", pattern)].filter fun p =>
      (present p.2).isNone).map Prod.fst
  if keys = [] then .ok ⟨entries.getD "", generated.getD "", pattern.getD ""⟩
  else .error (.missing name keys)

/-- What a text is read as in a dialect, with a group for the identifier and one for the target
class. -/
structure FamilyPattern (d : Pattern.Dialect) (text : String) where
  named : Pattern.Named
  read : Pattern.Named.ofText d text = .ok named
  hasId : (named.number? idGroup).isSome = true
  hasType : (named.number? typeGroup).isSome = true

/-- The pattern of a family, unless it is malformed or lacks a group. -/
def patternOf (d : Pattern.Dialect) (name text : String) :
    Except FamilyError (FamilyPattern d text) :=
  match h : Pattern.Named.ofText d text with
  | .error fault => .error (.badPattern name fault)
  | .ok named =>
      if hid : (named.number? idGroup).isSome = true then
        if htype : (named.number? typeGroup).isSome = true then .ok ⟨named, h, hid, htype⟩
        else .error (.lacksGroups name)
      else .error (.lacksGroups name)

/-- The normalization that is written, or none at all. -/
def normalizationOf (name : String) (written : Option String) : Except FamilyError Normalization :=
  match Normalization.ofText? (Text.lower ((present written).getD Normalization.none.text)) with
  | some normalization => .ok normalization
  | none => .error (.badNormalization name)

/-- The family with the written settings; its file lies below `root`. -/
def Family.ofFields (d : Pattern.Dialect) (root : Files.Path) (f : FamilyFields) :
    Except FamilyError Family := do
  let name ← f.name.mapError .unwritable
  let entries ← f.entries.mapError .unwritable
  let generated ← f.generated.mapError .unwritable
  let pattern ← f.pattern.mapError .unwritable
  let needs ← needsOf name entries generated pattern
  let pattern ← patternOf d name needs.pattern
  let normalize ← f.normalize.mapError .unwritable
  let normalization ← normalizationOf name normalize
  let category ← f.category.mapError .unwritable
  return {
    name := name
    category := (present category).getD name
    entries := needs.entries
    generated := root.join (.ofString needs.generated)
    dialect := d
    patternText := needs.pattern
    pattern := pattern.named
    normalization := normalization
    pattern_read := pattern.read }

/-- What the settings of an accepted family are. -/
structure FamilyFields.Gives (f : FamilyFields) (d : Pattern.Dialect) (root : Files.Path)
    (family : Family) : Prop where
  name : f.name = .ok family.name
  category : ∃ c, f.category = .ok c ∧ family.category = (present c).getD family.name
  dialect : family.dialect = d
  hasId : (family.pattern.number? idGroup).isSome = true
  hasType : (family.pattern.number? typeGroup).isSome = true

/-- A family that is accepted is what its written settings say. -/
theorem gives_of_ofFields {d : Pattern.Dialect} {root : Files.Path} {f : FamilyFields}
    {family : Family} (h : Family.ofFields d root f = .ok family) :
    f.Gives d root family := by
  obtain ⟨name, hname, h⟩ := bind_eq_ok_iff.1 h
  obtain ⟨entries, -, h⟩ := bind_eq_ok_iff.1 h
  obtain ⟨generated, -, h⟩ := bind_eq_ok_iff.1 h
  obtain ⟨pattern, -, h⟩ := bind_eq_ok_iff.1 h
  obtain ⟨needs, -, h⟩ := bind_eq_ok_iff.1 h
  obtain ⟨p, -, h⟩ := bind_eq_ok_iff.1 h
  obtain ⟨normalize, -, h⟩ := bind_eq_ok_iff.1 h
  obtain ⟨normalization, -, h⟩ := bind_eq_ok_iff.1 h
  obtain ⟨category, hcategory, h⟩ := bind_eq_ok_iff.1 h
  cases h
  exact ⟨mapError_eq_ok_iff.1 hname, ⟨category, mapError_eq_ok_iff.1 hcategory, rfl⟩, rfl, p.hasId,
    p.hasType⟩

end Registry

end SurfaceCoverage
