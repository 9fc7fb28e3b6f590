import Mathlib.Data.List.Nodup
import SurfaceCoverage.Proofs.Evidence
import SurfaceCoverage.Settings.Reader

/-!
# Families that are kept

The resolver puts the mappings of families under their categories, one after another.  Families that
share a category are refused only if their names differ, so what the settings must keep apart is the
pair of a name and a category: of families with one pair, only the last one has its mapping kept.

**Results.**
* `get?_resolveAll_iff`: a category has the mapping of the last family that claims it.
* `keepsFamilies_iff_nodup_claims`: all families are kept exactly when no two have one name and one
  category.
* `nodup_claims_of_readFamilies`: the claims that are written are those of the families.
* `overlay_eq_ok_iff`: what a document that is accepted makes of each section.
* `families_kept_iff_claims_distinct`: which settings keep their families, by what the file says.
-/

namespace SurfaceCoverage

namespace Registry

variable {d : Files.Disk} {table : Json} {families : List Family}

/-! ### The last claim -/

/-- The mapping that a family gives: its entries of the table, joined with the registrations that
its pattern finds in its generated code. -/
def Maps (d : Files.Disk) (table : Json) (f : Family) (m : ClassMapping) : Prop :=
  ∃ es text rs, entries table f.entries = .ok es
    ∧ (generatedText d f).result = .ok text
    ∧ registrations f.pattern text = .ok rs
    ∧ join f.normalization es rs = .ok m

theorem maps_iff {f : Family} {m : ClassMapping} :
    Maps d table f m ↔ (resolveFamily d table f).result = .ok m :=
  resolveFamily_eq_ok_iff.symm

theorem Maps.unique {f : Family} {m m' : ClassMapping} (h : Maps d table f m)
    (h' : Maps d table f m') : m = m' :=
  Except.ok.inj ((maps_iff.1 h).symm.trans (maps_iff.1 h'))

/-- The family claims the category, and no later one does. -/
def LastClaim (families : List Family) (category : String) (f : Family) : Prop :=
  ∃ before after, families = before ++ f :: after ∧ f.category = category
    ∧ ∀ g ∈ after, g.category ≠ category

theorem lastClaim_cons_iff {category : String} {f g : Family} :
    LastClaim (f :: families) category g ↔
      LastClaim families category g
        ∨ (g = f ∧ f.category = category ∧ ∀ h ∈ families, h.category ≠ category) := by
  constructor
  · rintro ⟨before, after, hsplit, hg, hlast⟩
    cases before with
    | nil =>
      obtain ⟨rfl, rfl⟩ := List.cons.inj hsplit
      exact Or.inr ⟨rfl, hg, hlast⟩
    | cons b before =>
      obtain ⟨rfl, rfl⟩ := List.cons.inj hsplit
      exact Or.inl ⟨before, after, rfl, hg, hlast⟩
  · rintro (⟨before, after, rfl, hg, hlast⟩ | ⟨rfl, hf, hnone⟩)
    · exact ⟨f :: before, after, rfl, hg, hlast⟩
    · exact ⟨[], families, rfl, hf, hnone⟩

/-- A category has the mapping of the last family that claims it, and else the one that it had. -/
theorem get?_resolveAll_iff {known mappings : OrderedMap String ClassMapping}
    (h : (resolveAll d table known families).result = .ok mappings) (category : String)
    (m : ClassMapping) :
    mappings.get? category = some m ↔
      (∃ f, LastClaim families category f ∧ Maps d table f m)
        ∨ ((∀ f ∈ families, f.category ≠ category) ∧ known.get? category = some m) := by
  induction families generalizing known with
  | nil =>
    cases h
    constructor
    · exact fun hget => Or.inr ⟨List.forall_mem_nil _, hget⟩
    · rintro (⟨f, ⟨before, after, hsplit, _⟩, _⟩ | ⟨_, hget⟩)
      · cases before <;> cases hsplit
      · exact hget
  | cons f rest ih =>
    rw [resolveAll, Log.Step.result_andThen] at h
    cases hfamily : (resolveFamily d table f).result with
    | error fault =>
      rw [hfamily] at h
      cases h
    | ok mf =>
      rw [hfamily] at h
      have hf : Maps d table f mf := maps_iff.2 hfamily
      rw [ih h, OrderedMap.get?_insert]
      simp only [lastClaim_cons_iff, List.forall_mem_cons]
      constructor
      · rintro (⟨g, hg, hm⟩ | ⟨hnone, hget⟩)
        · exact Or.inl ⟨g, Or.inl hg, hm⟩
        · by_cases hcategory : f.category = category
          · rw [if_pos hcategory] at hget
            cases hget
            exact Or.inl ⟨f, Or.inr ⟨rfl, hcategory, hnone⟩, hf⟩
          · rw [if_neg hcategory] at hget
            exact Or.inr ⟨⟨hcategory, hnone⟩, hget⟩
      · rintro (⟨g, hg | ⟨rfl, hcategory, hnone⟩, hm⟩ | ⟨⟨hcategory, hnone⟩, hget⟩)
        · exact Or.inl ⟨g, hg, hm⟩
        · rw [if_pos hcategory, hf.unique hm]
          exact Or.inr ⟨hnone, rfl⟩
        · rw [if_neg hcategory]
          exact Or.inr ⟨hnone, hget⟩

theorem maps_of_resolveAll {known mappings : OrderedMap String ClassMapping}
    (h : (resolveAll d table known families).result = .ok mappings) :
    ∀ f ∈ families, ∃ m, Maps d table f m := by
  induction families generalizing known with
  | nil => exact fun f hf => by cases hf
  | cons f rest ih =>
    rw [resolveAll, Log.Step.result_andThen] at h
    cases hfamily : (resolveFamily d table f).result with
    | error fault =>
      rw [hfamily] at h
      cases h
    | ok m =>
      rw [hfamily] at h
      exact List.forall_mem_cons.2 ⟨⟨m, maps_iff.2 hfamily⟩, ih h⟩

/-! ### Families that are kept apart -/

/-- The categories of families are distinct, and each has the mapping of its family. -/
def KeepsFamilies (d : Files.Disk) (table : Json) (families : List Family)
    (mappings : OrderedMap String ClassMapping) : Prop :=
  (families.map Family.category).Nodup
    ∧ ∀ f ∈ families, ∃ m, Maps d table f m ∧ mappings.get? f.category = some m

/-- The name of a family and the category that it claims. -/
def Family.claim (f : Family) : String × String :=
  (f.name, f.category)

/-- The name of a family and the category that it claims, as they are written: without a category of
its own it claims that of its name. -/
def FamilyFields.claim (f : FamilyFields) : Except Yaml.WriteFault (String × String) := do
  let name ← f.name
  let category ← f.category
  return (name, (present category).getD name)

theorem lastClaim_of_mem (hnodup : (families.map Family.category).Nodup) {f : Family}
    (hf : f ∈ families) :
    LastClaim families f.category f := by
  obtain ⟨before, after, rfl⟩ := List.append_of_mem hf
  rw [List.map_append, List.map_cons, List.nodup_append] at hnodup
  refine ⟨before, after, rfl, rfl, ?_⟩
  rintro g hg hcategory
  exact (List.nodup_cons.1 hnodup.2.1).1 (List.mem_map.2 ⟨g, hg, hcategory⟩)

/-- The resolver only accepts families of one category if they have one name. -/
theorem nodup_categories_iff {r : Resolver} :
    (r.families.map Family.category).Nodup ↔ (r.families.map Family.claim).Nodup := by
  constructor
  · intro hcategories
    have hmap : (r.families.map Family.claim).map Prod.snd = r.families.map Family.category := by
      rw [List.map_map]
      rfl
    rw [← hmap] at hcategories
    exact List.Nodup.of_map Prod.snd hcategories
  · intro hclaims
    rw [List.Nodup, List.pairwise_map] at hclaims ⊢
    refine hclaims.imp_of_mem ?_
    intro f g hf hg hne hcategory
    exact hne (Prod.ext (r.name_eq_of_category_eq hf hg hcategory) hcategory)

theorem keepsFamilies_iff_nodup_claims {r : Resolver}
    {mappings : OrderedMap String ClassMapping}
    (h : (r.resolve d table).result = .ok mappings) :
    KeepsFamilies d table r.families mappings ↔ (r.families.map Family.claim).Nodup := by
  rw [← nodup_categories_iff]
  constructor
  · exact fun hkept => hkept.1
  · intro hnodup
    refine ⟨hnodup, fun f hf => ?_⟩
    obtain ⟨m, hm⟩ := maps_of_resolveAll h f hf
    exact ⟨m, hm, (get?_resolveAll_iff h _ _).2 (Or.inl ⟨f, lastClaim_of_mem hnodup hf, hm⟩)⟩

/-- What is put under a category comes from the last family that claims it. -/
theorem Resolver.get?_resolve_iff {r : Resolver} {mappings : OrderedMap String ClassMapping}
    (h : (r.resolve d table).result = .ok mappings) (category : String) (m : ClassMapping) :
    mappings.get? category = some m ↔
      ∃ f, LastClaim r.families category f ∧ Maps d table f m := by
  rw [get?_resolveAll_iff h, or_iff_left]
  rintro ⟨_, hempty⟩
  cases hempty

theorem claim_of_ofFields {dialect : Pattern.Dialect} {root : Files.Path} {fields : FamilyFields}
    {f : Family} (h : Family.ofFields dialect root fields = .ok f) :
    fields.claim = .ok f.claim := by
  have hgives := gives_of_ofFields h
  obtain ⟨category, hwritten, hcategory⟩ := hgives.category
  rw [FamilyFields.claim, hgives.name, hwritten, Family.claim, hcategory]
  rfl

end Registry

/-! ### Families in a file with settings -/

namespace Settings

open Registry

theorem readFamilies_cons_eq_ok_iff {dialect : Pattern.Dialect} {root : Files.Path}
    {f : FamilyFields} {rest : List FamilyFields} {families : List Family} :
    readFamilies dialect root (f :: rest) = .ok families ↔
      ∃ family others, Family.ofFields dialect root f = .ok family
        ∧ readFamilies dialect root rest = .ok others ∧ families = family :: others := by
  rw [readFamilies, bind_eq_ok_iff]
  constructor
  · rintro ⟨family, hfamily, h⟩
    obtain ⟨others, hothers, h⟩ := bind_eq_ok_iff.1 h
    cases h
    exact ⟨family, others, hfamily, hothers, rfl⟩
  · rintro ⟨family, others, hfamily, hothers, rfl⟩
    exact ⟨family, hfamily, bind_eq_ok_iff.2 ⟨others, hothers, rfl⟩⟩

theorem map_claim_of_readFamilies {dialect : Pattern.Dialect} {root : Files.Path}
    {fields : List FamilyFields} {families : List Family}
    (h : readFamilies dialect root fields = .ok families) :
    fields.map FamilyFields.claim = (families.map Family.claim).map .ok := by
  induction fields generalizing families with
  | nil =>
    cases h
    rfl
  | cons f rest ih =>
    obtain ⟨family, others, hfamily, hothers, rfl⟩ := readFamilies_cons_eq_ok_iff.1 h
    rw [List.map_cons, List.map_cons, List.map_cons, claim_of_ofFields hfamily, ih hothers]

/-- What is written for accepted families tells their claims apart exactly as the families do. -/
theorem nodup_claims_of_readFamilies {dialect : Pattern.Dialect} {root : Files.Path}
    {fields : List FamilyFields} {families : List Family}
    (h : readFamilies dialect root fields = .ok families) :
    (fields.map FamilyFields.claim).Nodup ↔ (families.map Family.claim).Nodup := by
  rw [map_claim_of_readFamilies h]
  exact List.nodup_map_iff fun _ _ => Except.ok.inj

/-- The document that a path to settings leads to; without a file it is an empty mapping. -/
def documentAt? (r : Runtime) (d : Files.Disk) (p : Files.Path) : Option Yaml.Value :=
  match fileAt d p with
  | .error _ => none
  | .ok file =>
      match d.seesAnything file with
      | .error _ => none
      | .ok false => some (.map [])
      | .ok true =>
          match d.readText file with
          | .error _ => none
          | .ok text => (document r file.name text).toOption

/-- The families as they are written in a section, or the standard ones. -/
def familiesIn (depth : Nat) (fields : Fields) : List FamilyFields :=
  match Yaml.field? "families" fields with
  | none => standardFamilies
  | some families => (fieldsOf families).map fun e => familyFields depth e.1 e.2

/-- The families of a document as they are written, or the standard ones. -/
def familiesWritten (r : Runtime) (v : Yaml.Value) : List FamilyFields :=
  familiesIn r.depth (sectionOf "registry" (fieldsOf v))

theorem readFamilies_of_standard {dialect : Pattern.Dialect} {root : Files.Path} {s : Settings}
    (h : standard dialect root = .ok s) :
    readFamilies dialect s.root standardFamilies = .ok s.families := by
  unfold standard at h
  cases hfamilies : readFamilies dialect root standardFamilies with
  | error e =>
    rw [hfamilies] at h
    cases h
  | ok families =>
    rw [hfamilies] at h
    cases h
    exact hfamilies

/-- The registry section changes nothing else. -/
theorem eq_of_registryOf {r : Runtime} {s s' : Settings} {fields : Fields}
    (h : registryOf r s fields = .ok s') :
    s' = { s with classes := s'.classes, families := s'.families } := by
  obtain ⟨classes, -, h⟩ := bind_eq_ok_iff.1 h
  obtain ⟨families, -, h⟩ := bind_eq_ok_iff.1 h
  cases h
  rfl

/-- The section about methods changes nothing else. -/
theorem eq_of_methodsOf {r : Runtime} {s s' : Settings} {fields : Fields}
    (h : methodsOf r s fields = .ok s') :
    s' = { s with
      tables := s'.tables, categories := s'.categories, defaultTable := s'.defaultTable } := by
  obtain ⟨tables, -, h⟩ := bind_eq_ok_iff.1 h
  obtain ⟨categories, -, h⟩ := bind_eq_ok_iff.1 h
  obtain ⟨defaultTable, -, h⟩ := bind_eq_ok_iff.1 h
  cases h
  rfl

/-- The section about the reports changes nothing else. -/
theorem eq_of_outputOf {s s' : Settings} {fields : Fields} (h : outputOf s fields = .ok s') :
    s' = { s with output := s'.output } := by
  obtain ⟨directory, -, h⟩ := bind_eq_ok_iff.1 h
  cases h
  rfl

/-- A document is accepted when its sections are, one after the other. -/
theorem overlay_eq_ok_iff {r : Runtime} {s s' : Settings} {fields : Fields} :
    overlay r s fields = .ok s' ↔
      ∃ reference target s₁ s₂,
        sideField s.root "reference" s.reference fields = .ok reference
        ∧ sideField s.root "target" s.target fields = .ok target
        ∧ registryOf r { s with reference := reference, target := target }
          (sectionOf "registry" fields) = .ok s₁
        ∧ methodsOf r s₁ (sectionOf "methods" fields) = .ok s₂
        ∧ outputOf s₂ (sectionOf "output" fields) = .ok s' := by
  constructor
  · intro h
    obtain ⟨reference, hreference, h⟩ := bind_eq_ok_iff.1 h
    obtain ⟨target, htarget, h⟩ := bind_eq_ok_iff.1 h
    obtain ⟨s₁, hregistry, h⟩ := bind_eq_ok_iff.1 h
    obtain ⟨s₂, hmethods, h⟩ := bind_eq_ok_iff.1 h
    exact ⟨reference, target, s₁, s₂, hreference, htarget, hregistry, hmethods, h⟩
  · rintro ⟨reference, target, s₁, s₂, hreference, htarget, hregistry, hmethods, h⟩
    exact bind_eq_ok_iff.2 ⟨reference, hreference, bind_eq_ok_iff.2 ⟨target, htarget,
      bind_eq_ok_iff.2 ⟨s₁, hregistry, bind_eq_ok_iff.2 ⟨s₂, hmethods, h⟩⟩⟩⟩

theorem readFamilies_of_registryOf {r : Runtime} {s s' : Settings} {fields : Fields}
    (hs : readFamilies r.dialect s.root standardFamilies = .ok s.families)
    (h : registryOf r s fields = .ok s') :
    readFamilies r.dialect s'.root (familiesIn r.depth fields) = .ok s'.families := by
  obtain ⟨classes, -, h⟩ := bind_eq_ok_iff.1 h
  obtain ⟨families, hfamilies, h⟩ := bind_eq_ok_iff.1 h
  cases h
  unfold familiesField at hfamilies
  unfold familiesIn
  cases hfield : Yaml.field? "families" fields with
  | none =>
    rw [hfield] at hfamilies
    cases hfamilies
    exact hs
  | some v =>
    rw [hfield] at hfamilies
    simp only at hfamilies
    split at hfamilies
    · exact mapError_eq_ok_iff.1 hfamilies
    · cases hfamilies

theorem readFamilies_of_overlay {r : Runtime} {s s' : Settings} {v : Yaml.Value}
    (hs : readFamilies r.dialect s.root standardFamilies = .ok s.families)
    (h : overlay r s (fieldsOf v) = .ok s') :
    readFamilies r.dialect s'.root (familiesWritten r v) = .ok s'.families := by
  obtain ⟨reference, target, s₁, s₂, -, -, hregistry, hmethods, houtput⟩ := overlay_eq_ok_iff.1 h
  have hread :=
    readFamilies_of_registryOf (s := { s with reference := reference, target := target })
      hs hregistry
  rw [eq_of_outputOf houtput, eq_of_methodsOf hmethods]
  exact hread

theorem overFile_eq_ok_iff {r : Runtime} {d : Files.Disk} {file : Files.Path}
    {before s : Settings} :
    overFile r d file before = .ok s ↔
      ∃ text, d.readText file = .ok text ∧ ∃ v, document r file.name text = .ok v
        ∧ isMapping v = true ∧ overlay r before (fieldsOf v) = .ok s := by
  unfold overFile
  rcases htext : d.readText file with (e | e) | text
  · simp
  · simp
  · simp only [bind_eq_ok_iff, Except.ok.injEq, exists_eq_left']
    refine exists_congr fun v => and_congr_right fun _ => ?_
    by_cases hmapping : isMapping v = true
    · rw [if_pos hmapping, and_iff_right hmapping]
    · rw [if_neg hmapping]
      exact iff_of_false (fun h => by cases h) fun h => hmapping h.1

/-- A file with settings is accepted exactly if it can be reached and is accepted over the settings
that stand without it, or if it is not there. -/
theorem ofFile_eq_ok_iff {r : Runtime} {d : Files.Disk} {p : Files.Path} {root : Option Files.Path}
    {s : Settings} :
    ofFile r d p root = .ok s ↔
      ∃ file, fileAt d p = .ok file ∧ ∃ start, rootOf d file root = .ok start
        ∧ ∃ before, standard r.dialect start = .ok before
          ∧ ∃ there, d.seesAnything file = .ok there
            ∧ (if there then overFile r d file before else .ok before) = .ok s := by
  simp only [ofFile, bind_eq_ok_iff, mapError_eq_ok_iff]
  rfl

/-- A file with settings that is accepted leaves the families that are written in it. -/
theorem readFamilies_of_ofFile {r : Runtime} {d : Files.Disk} {p : Files.Path}
    {root : Option Files.Path} {s : Settings} (h : ofFile r d p root = .ok s) :
    ∃ v, documentAt? r d p = some v
      ∧ readFamilies r.dialect s.root (familiesWritten r v) = .ok s.families := by
  obtain ⟨file, hfile, start, -, before, hstandard, there, hthere, hover⟩ := ofFile_eq_ok_iff.1 h
  have hbefore := readFamilies_of_standard hstandard
  unfold documentAt?
  rw [hfile]
  simp only [hthere]
  cases there with
  | false =>
    cases hover
    exact ⟨.map [], rfl, hbefore⟩
  | true =>
    obtain ⟨text, htext, v, hdocument, -, hoverlay⟩ := overFile_eq_ok_iff.1 hover
    refine ⟨v, ?_, readFamilies_of_overlay hbefore hoverlay⟩
    simp only [htext, hdocument]
    rfl

/-- Every family of accepted settings has its mapping kept, under a category of its own, exactly
when no two families are written with one name and one category; the name is the key only where
there is no other.  In any case a category has the mapping of the last family that claims it. -/
theorem families_kept_iff_claims_distinct {runtime : Runtime} {d : Files.Disk} {p : Files.Path}
    {root : Option Files.Path} {s : Settings} (hs : ofFile runtime d p root = .ok s) {r : Resolver}
    (hr : Resolver.ofFamilies s.families = .ok r) {table : Json}
    {mappings : OrderedMap String ClassMapping}
    (hmappings : (r.resolve d table).result = .ok mappings) :
    ∃ v, documentAt? runtime d p = some v
      ∧ (KeepsFamilies d table s.families mappings ↔
          ((familiesWritten runtime v).map FamilyFields.claim).Nodup)
      ∧ ∀ category m, mappings.get? category = some m ↔
          ∃ f, LastClaim s.families category f ∧ Maps d table f m := by
  obtain ⟨v, hv, hread⟩ := readFamilies_of_ofFile hs
  have hfamilies := Resolver.families_of_ofFamilies hr
  have hkept := keepsFamilies_iff_nodup_claims hmappings
  have hlast := Resolver.get?_resolve_iff hmappings
  rw [hfamilies] at hkept
  rw [hfamilies] at hlast
  rw [← nodup_claims_of_readFamilies hread] at hkept
  exact ⟨v, hv, hkept, hlast⟩

/-- A disk with nothing on it. -/
def bareDisk : Files.Disk :=
  .unguarded (.directory [])

/-- A registry table for the standard families. -/
def bareTable : Json :=
  .object [("blocks", .list []), ("items", .list [])]

/-- The standard families are kept. -/
theorem families_kept_of_bareDisk :
    ∃ s r mappings,
      ofFile .usual bareDisk (.ofString "/") none = .ok s
      ∧ Resolver.ofFamilies s.families = .ok r
      ∧ (r.resolve bareDisk bareTable).result = .ok mappings
      ∧ s.families.map Family.claim = [("block", "block"), ("item", "item")]
      ∧ KeepsFamilies bareDisk bareTable s.families mappings := by
  have hrun :
      ((ofFile .usual bareDisk (.ofString "/") none).toOption.bind fun s =>
        (Resolver.ofFamilies s.families).toOption.bind fun r =>
          (r.resolve bareDisk bareTable).result.toOption.map fun _ =>
            s.families.map Family.claim) = some [("block", "block"), ("item", "item")] := by
    decide +kernel
  obtain ⟨s, hs, hrun⟩ := Option.bind_eq_some_iff.1 hrun
  obtain ⟨r, hr, hrun⟩ := Option.bind_eq_some_iff.1 hrun
  obtain ⟨mappings, hmappings, hclaims⟩ := Option.map_eq_some_iff.1 hrun
  have hs := eq_ok_of_toOption hs
  have hr := eq_ok_of_toOption hr
  have hmappings := eq_ok_of_toOption hmappings
  obtain ⟨v, hv, hkept, _⟩ := families_kept_iff_claims_distinct hs hr hmappings
  have hfile : fileAt bareDisk (.ofString "/") = .ok ⟨.root, [fileName]⟩ :=
    eq_ok_of_toOption (by decide +kernel)
  have hdocument : documentAt? .usual bareDisk (.ofString "/") = some (.map []) := by
    rw [documentAt?, hfile]
    rfl
  cases hdocument.symm.trans hv
  exact ⟨s, r, mappings, hs, hr, hmappings, hclaims, hkept.2 (by decide)⟩

/-- Settings with two families of one name, and so of one category. -/
def twinText : String :=
  "registry:\n families:\n" ++
    "  a:\n   name: x\n   entries: e\n   generated: g\n   pattern: (?P<id>.)(?P<type>.)\n" ++
    "  b:\n   name: x\n   entries: f\n   generated: g\n   pattern: (?P<id>.)(?P<type>.)\n"

/-- A disk with these settings, and with generated code. -/
def twinDisk : Files.Disk :=
  .unguarded (.directory [("g", .file "Oo".toUTF8), ("s", .file twinText.toUTF8)])

/-- A registry table in which only the first of both families has an entry. -/
def twinTable : Json :=
  .object
    [("e", .list [.object [("name", .text "O"), ("class", .text "Ore")]]), ("f", .list [])]

/-- Both families are accepted, and the mapping of the first one is lost. -/
theorem family_lost_of_twins :
    ∃ s r mappings f m,
      ofFile .usual twinDisk (.ofString "/s") none = .ok s
      ∧ Resolver.ofFamilies s.families = .ok r
      ∧ (r.resolve twinDisk twinTable).result = .ok mappings
      ∧ f ∈ s.families
      ∧ Maps twinDisk twinTable f m
      ∧ m.entries.toList = [("Ore", "o")]
      ∧ (mappings.get? f.category).map (fun kept => kept.entries.toList) = some []
      ∧ ¬ KeepsFamilies twinDisk twinTable s.families mappings := by
  have hrun :
      ((ofFile .usual twinDisk (.ofString "/s") none).toOption.bind fun s =>
        (Resolver.ofFamilies s.families).toOption.bind fun r =>
          (r.resolve twinDisk twinTable).result.toOption.bind fun mappings =>
            s.families.head?.bind fun f =>
              (resolveFamily twinDisk twinTable f).result.toOption.map fun m =>
                (s.families.map Family.claim, m.entries.toList,
                  (mappings.get? f.category).map fun kept => kept.entries.toList)) =
        some ([("x", "x"), ("x", "x")], [("Ore", "o")], some []) := by
    decide +kernel
  obtain ⟨s, hs, hrun⟩ := Option.bind_eq_some_iff.1 hrun
  obtain ⟨r, hr, hrun⟩ := Option.bind_eq_some_iff.1 hrun
  obtain ⟨mappings, hmappings, hrun⟩ := Option.bind_eq_some_iff.1 hrun
  obtain ⟨f, hf, hrun⟩ := Option.bind_eq_some_iff.1 hrun
  obtain ⟨m, hm, hfound⟩ := Option.map_eq_some_iff.1 hrun
  simp only [Prod.mk.injEq] at hfound
  obtain ⟨hclaims, hentries, hkept⟩ := hfound
  refine ⟨s, r, mappings, f, m, eq_ok_of_toOption hs, eq_ok_of_toOption hr,
    eq_ok_of_toOption hmappings, List.mem_of_mem_head? hf, maps_iff.2 (eq_ok_of_toOption hm),
    hentries, hkept, ?_⟩
  intro hkeeps
  have hcategories : s.families.map Family.category = ["x", "x"] := by
    have hsnd := congrArg (List.map Prod.snd) hclaims
    rwa [List.map_map] at hsnd
  rw [KeepsFamilies, hcategories] at hkeeps
  exact absurd hkeeps.1 (by decide)

end Settings

end SurfaceCoverage
