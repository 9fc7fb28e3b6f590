import Mathlib.Data.List.Permutation
import SurfaceCoverage.Proofs.Resolving
import SurfaceCoverage.Proofs.Scoring
import SurfaceCoverage.Runtime

/-!
# Evidence for implemented methods

A method of a class in a category that the registry maps only counts as implemented for a reason
that goes all the way: a family of the category has an entry for the class, its generated code
registers a target class under the identifier of the entry, and the target has a class with this
name, up to case, and with the method that the table of the category maps to.

**Results.**
* `Registry.connected_of_resolve`: a class is only resolved to a class that a family connects it to.
* `evidence_of_implemented`: whatever counts as implemented has its evidence.
-/

namespace SurfaceCoverage

namespace Registry

/-- A family connects a reference class with a target class: it has an entry for the class, or for
one with the same simple name, and in its generated code a match of its pattern shows the target
class under the same identifier, up to normalization. -/
structure Connected (d : Files.Disk) (table : Json) (f : Family) (name target : String) where
  entry : TableEntry
  listed : Lists table f.entries entry
  named : entry.className = name ∨ simpleName entry.className = simpleName name
  text : String
  generated : (generatedText d f).result = .ok text
  id : String
  shown : Shows f.pattern text ⟨some id, some target⟩
  same_id : f.normalization.apply id = f.normalization.apply entry.id

/-- The mapping of a family only resolves a class to one that the family connects it with. -/
theorem connected_of_resolve {d : Files.Disk} {table : Json} {f : Family} {m : ClassMapping}
    (hfamily : (resolveFamily d table f).result = .ok m) {name target : String}
    (hresolve : m.resolve name = some target) :
    Nonempty (Connected d table f name target) := by
  obtain ⟨es, text, rs, hes, htext, hrs, hjoin⟩ := resolveFamily_eq_ok_iff.1 hfamily
  obtain ⟨key, hkey, hname⟩ := ClassMapping.exists_key_of_resolve hresolve
  obtain ⟨e, he, rfl, r, hr, id, hid, hsame, hclass⟩ := registered_of_get?_join hjoin hkey
  have hshown : Shows f.pattern text ⟨some id, some target⟩ := by
    rw [← hid, ← hclass]
    exact (mem_registrations_iff hrs).1 hr
  exact ⟨⟨e, lists_of_mem_entries hes he, hname, text, htext, id, hshown, hsame⟩⟩

end Registry

/-- The evidence that the target has a method of a class. -/
structure Evidence (d : Files.Disk) (table : Json) (families : List Registry.Family)
    (tables : MethodTables) (target : List ClassRecord) (category name method : String) where
  family : Registry.Family
  family_mem : family ∈ families
  family_category : family.category = category
  targetName : String
  targetName_ne : targetName ≠ ""
  connected : Registry.Connected d table family name targetName
  record : ClassRecord
  record_mem : record ∈ target
  record_name : Text.fold record.name = Text.fold targetName
  counterpart : String
  mapped : ∃ methods, tables.Governs category methods
    ∧ methods.counterpartFor method = some (.mapped counterpart)
  counterpart_mem : counterpart ∈ record.methods

/-- There are no false positives: whenever a record of a class in a category that the registry maps
says that a method is implemented, there is evidence for it. -/
theorem evidence_of_implemented {d : Files.Disk} {table : Json} {families : List Registry.Family}
    {resolver : Registry.Resolver}
    (hresolver : Registry.Resolver.ofFamilies families = .ok resolver)
    {mappings : OrderedMap String ClassMapping}
    (hmappings : (resolver.resolve d table).result = .ok mappings)
    (tables : MethodTables) (reference target : List ClassRecord) {c : CoverageRecord}
    (hc : c ∈ Analyzer.analyze ⟨tables, mappings⟩ reference (.ofRecords target))
    (hcategory : ∃ f ∈ families, f.category = c.category)
    {m : MethodStatus} (hm : m ∈ c.methods) (himplemented : m.status = .implemented) :
    Nonempty (Evidence d table families tables target c.category c.name m.method) := by
  obtain ⟨r, _, htrack⟩ := (Analyzer.mem_analyze_iff _ _ _ _).1 hc
  obtain ⟨_, hcovers⟩ := Analyzer.covers_of_scope htrack
  have hfamilies := Registry.Resolver.families_of_ofFamilies hresolver
  rw [← hfamilies] at hcategory ⊢
  obtain ⟨f, hf, hclaims, mapping, hfamily, hget⟩ :=
    Registry.Resolver.get?_of_resolve hmappings hcategory
  -- the status comes from a method of a record with the folded name of the counterpart
  obtain ⟨methods, hgoverns, _, hstatus⟩ := hcovers.methods
  obtain ⟨n, hn, counterpart, hcounterpart, hne, s, hs, hfold, hmem⟩ :=
    (hstatus m hm).1 himplemented
  have hresolve : mapping.resolve c.name = some counterpart := by
    rw [hcovers.category] at hget
    rw [hcovers.name]
    rcases hcounterpart with ⟨mapping', hget', hresolve⟩ | ⟨hnone, _⟩
    · have heq : mapping = mapping' := Option.some.inj (hget.symm.trans hget')
      exact heq ▸ hresolve
    · cases hget.symm.trans hnone
  obtain ⟨hconnected⟩ := Registry.connected_of_resolve hfamily hresolve
  rw [← hcovers.category] at hgoverns
  exact ⟨⟨f, hf, hclaims, counterpart, hne, hconnected, s, hs, hfold, n,
    ⟨methods, hgoverns, hn⟩, hmem⟩⟩

/-- A pattern for one character, a colon, and the rest of the line. -/
def orePattern : Pattern.Named :=
  ⟨.seq (.group 1 (.char .anyInLine))
      (.seq (.char ⟨false, [.code 58], .exact, false⟩)
        (.group 2 (.run .anyInLine 1 none .greedy))),
    [("id", 1), ("type", 2)]⟩

theorem orePattern_read (d : Pattern.Dialect) :
    Pattern.Named.ofText d "(?P<id>.):(?P<type>.+)" = .ok orePattern := by
  cbv

/-- A family with this pattern. -/
def oreFamily : Registry.Family :=
  { name := "blocks"
    category := "block"
    entries := "blocks"
    generated := .ofString "/g"
    dialect := Runtime.usual.dialect
    patternText := "(?P<id>.):(?P<type>.+)"
    pattern := orePattern
    normalization := .lower
    pattern_read := orePattern_read _ }

/-- A registry table that gives a class by its full name. -/
def oreRegistry : Json :=
  .object [("blocks", .list [.object [("name", .text "o"), ("class", .text "a.Ore")]])]

/-- A disk with the generated code `O:oRe`. -/
def oreDisk : Files.Disk :=
  .unguarded (.directory [("g", .file ⟨#[79, 58, 111, 82, 101]⟩)])

/-- A method that is found by way of the registry, with its evidence. -/
theorem evidence_oreReference :
    ∃ resolver mappings c m,
      Registry.Resolver.ofFamilies [oreFamily] = .ok resolver
      ∧ (resolver.resolve oreDisk oreRegistry).result = .ok mappings
      ∧ c ∈ Analyzer.analyze ⟨oreTables, mappings⟩ oreReference (.ofRecords oreTarget)
      ∧ m ∈ c.methods
      ∧ m = ⟨"tick", .implemented⟩
      ∧ Nonempty
          (Evidence oreDisk oreRegistry [oreFamily] oreTables oreTarget c.category c.name
            m.method) := by
  let resolver : Registry.Resolver := ⟨[oreFamily], by decide +kernel⟩
  have hresolver : Registry.Resolver.ofFamilies [oreFamily] = .ok resolver := rfl
  let c : CoverageRecord :=
    ⟨"Ore", "block", [⟨"use", .notImplemented⟩, ⟨"tick", .implemented⟩]⟩
  have htracked :
      ((resolver.resolve oreDisk oreRegistry).result.toOption.bind fun mappings =>
        Analyzer.track ⟨oreTables, mappings⟩ (.ofRecords oreTarget)
          ⟨"Ore", "block", ["use", "tick", "hit", "tick"], true⟩) = some c := by
    decide +kernel
  obtain ⟨mappings, hsome, htrack⟩ := Option.bind_eq_some_iff.1 htracked
  have hmappings := eq_ok_of_toOption hsome
  have hc : c ∈ Analyzer.analyze ⟨oreTables, mappings⟩ oreReference (.ofRecords oreTarget) :=
    (Analyzer.mem_analyze_iff _ _ _ _).2 ⟨_, List.mem_cons_self, htrack⟩
  have hm : ⟨"tick", .implemented⟩ ∈ c.methods :=
    List.mem_cons_of_mem _ List.mem_cons_self
  refine ⟨resolver, mappings, c, _, hresolver, hmappings, hc, hm, rfl, ?_⟩
  exact evidence_of_implemented hresolver hmappings oreTables oreReference oreTarget hc
    ⟨oreFamily, List.mem_cons_self, rfl⟩ hm rfl

end SurfaceCoverage
