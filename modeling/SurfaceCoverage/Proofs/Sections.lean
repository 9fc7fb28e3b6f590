import SurfaceCoverage.Failure
import SurfaceCoverage.Proofs.Emission
import SurfaceCoverage.Proofs.Families

/-!
# Sections that are no mappings

A section of a file with settings should be a mapping.  The two sides are refused when they are
not.  The other sections are read field by field, and what is no mapping has no fields: a text or a
list in their place counts as no section at all, and the defaults stay without a word.

**Results.**
* `exists_standard`: the settings that stand without a file are always accepted.
* `ofFile_eq_overFile`: a file is read over these settings.
* `exists_refusal_of_malformed_side`: a side that is no mapping is refused.
* `overlay_without_of_malformed`: any other section that is no mapping might as well be left out.
* `malformed_refused_iff_side`: both together, for a file with settings.
-/

namespace SurfaceCoverage

namespace Registry

/-- A pattern with both groups is accepted. -/
theorem patternOf_eq_ok {d : Pattern.Dialect} {text : String} {p : Pattern.Named} (name : String)
    (h : Pattern.Named.ofText d text = .ok p) (hid : (p.number? idGroup).isSome = true)
    (htype : (p.number? typeGroup).isSome = true) :
    patternOf d name text = .ok ⟨p, h, hid, htype⟩ := by
  unfold patternOf
  split
  · next fault hfault => cases hfault.symm.trans h
  · next named hnamed =>
    cases hnamed.symm.trans h
    rw [dif_pos hid, dif_pos htype]

/-- Nothing is missing where no setting is empty. -/
theorem needsOf_eq_ok (name : String) {entries generated pattern : String} (hentries : entries ≠ "")
    (hgenerated : generated ≠ "") (hpattern : pattern ≠ "") :
    needsOf name (some entries) (some generated) (some pattern) =
      .ok ⟨entries, generated, pattern⟩ := by
  simp [needsOf, present, hentries, hgenerated, hpattern]

/-- A normalization is read from its own text. -/
theorem normalizationOf_text (name : String) (n : Normalization) :
    normalizationOf name (some n.text) = .ok n := by
  have hword :
      Normalization.ofText? (Text.lower ((present (some n.text)).getD Normalization.none.text)) =
        some n := by
    cases n <;> decide +kernel
  rw [normalizationOf, hword]

/-- A standard family is accepted wherever the project lies, if its pattern is. -/
theorem exists_standardFamily {d : Pattern.Dialect} {name pattern : String} (entries file : String)
    (n : Normalization) (root : Files.Path) {p : FamilyPattern d pattern}
    (hneeds : needsOf name (some entries)
      (some (Settings.targetRoot ++ "/src/behavior/generated/" ++ file)) (some pattern) =
        .ok ⟨entries, Settings.targetRoot ++ "/src/behavior/generated/" ++ file, pattern⟩)
    (hpattern : patternOf d name pattern = .ok p) :
    ∃ f, Family.ofFields d root (Settings.standardFamily name entries file pattern n) = .ok f := by
  exact ⟨_, bind_eq_ok_iff.2 ⟨name, rfl, bind_eq_ok_iff.2 ⟨some entries, rfl,
    bind_eq_ok_iff.2 ⟨_, rfl, bind_eq_ok_iff.2 ⟨some pattern, rfl,
      bind_eq_ok_iff.2 ⟨_, hneeds, bind_eq_ok_iff.2 ⟨p, hpattern,
        bind_eq_ok_iff.2 ⟨some n.text, rfl, bind_eq_ok_iff.2 ⟨n, normalizationOf_text name n,
          bind_eq_ok_iff.2 ⟨some name, rfl, rfl⟩⟩⟩⟩⟩⟩⟩⟩⟩⟩

end Registry

namespace Settings

open Registry

/-- The standard families are accepted, wherever the project lies. -/
theorem exists_standard (d : Pattern.Dialect) (root : Files.Path) :
    ∃ s, standard d root = .ok s := by
  obtain ⟨block, hblock⟩ := exists_standardFamily "blocks" "blocks.rs" Normalization.lower root
    (needsOf_eq_ok _ (by decide) (by decide +kernel) (by decide +kernel))
    (patternOf_eq_ok Category.block (blockPattern_reads d) rfl rfl)
  obtain ⟨item, hitem⟩ := exists_standardFamily "items" "items.rs" Normalization.none root
    (needsOf_eq_ok _ (by decide) (by decide +kernel) (by decide +kernel))
    (patternOf_eq_ok Category.item (itemPattern_reads d) rfl rfl)
  have hfamilies : readFamilies d root standardFamilies = .ok [block, item] :=
    readFamilies_cons_eq_ok_iff.2 ⟨block, [item], hblock,
      readFamilies_cons_eq_ok_iff.2 ⟨item, [], hitem, rfl, rfl⟩, rfl⟩
  rw [standard, hfamilies]
  exact ⟨_, rfl⟩

/-- The file that a path to settings leads to holds a mapping with the given fields, and the paths
in it start from the given directory. -/
def HoldsFields (r : Runtime) (d : Files.Disk) (p : Files.Path) (root : Option Files.Path)
    (start : Files.Path) (fields : Fields) : Prop :=
  ∃ file text v, fileAt d p = .ok file ∧ rootOf d file root = .ok start
    ∧ d.seesAnything file = .ok true ∧ d.readText file = .ok text
    ∧ document r file.name text = .ok v ∧ isMapping v = true ∧ fieldsOf v = fields

section Reading

variable {r : Runtime} {d : Files.Disk} {p file start : Files.Path} {root : Option Files.Path}

/-- The settings that stand without a file, and the file over them if it is there. -/
theorem ofFile_eq_overFile {before : Settings} (hfile : fileAt d p = .ok file)
    (hstart : rootOf d file root = .ok start) (hbefore : standard r.dialect start = .ok before)
    {there : Bool} (hthere : d.seesAnything file = .ok there) :
    ofFile r d p root = if there then overFile r d file before else .ok before := by
  rw [ofFile, hfile]
  simp only [mapError_ok, bind_ok, hstart]
  -- from here on nothing computes the standard families
  rw [hbefore]
  simp only [hthere]
  rfl

/-- Where the look at the file fails, so does reading the settings. -/
theorem ofFile_of_unseen (hfile : fileAt d p = .ok file) (hstart : rootOf d file root = .ok start)
    {e : Files.FileError} (h : d.seesAnything file = .error e) :
    ofFile r d p root = .error (.badPath (.file e)) := by
  obtain ⟨before, hbefore⟩ := exists_standard r.dialect start
  rw [ofFile, hfile]
  simp only [mapError_ok, bind_ok, hstart]
  rw [hbefore]
  simp only [h]
  rfl

/-- The settings in a file with fields are these over the settings without it. -/
theorem ofFile_of_holdsFields {fields : Fields} (h : HoldsFields r d p root start fields) :
    ∃ before, standard r.dialect start = .ok before
      ∧ ofFile r d p root = overlay r before fields := by
  obtain ⟨file, text, v, hfile, hroot, hexists, htext, hdocument, hmapping, rfl⟩ := h
  obtain ⟨before, hbefore⟩ := exists_standard r.dialect start
  refine ⟨before, hbefore, (ofFile_eq_overFile hfile hroot hbefore hexists).trans ?_⟩
  simp [overFile, htext, hdocument, hmapping]

end Reading

/-! ### Fields and sections -/

/-- Only a text is the same key as a text. -/
theorem sameKey_text_iff {v : Yaml.Value} {key : String} :
    v.sameKey (.text key) = true ↔ v = .text key := by
  cases v <;> simp [Yaml.Value.sameKey, Yaml.Value.whole?]
  split <;> simp_all

/-- The fields other than those under one key. -/
def without (key : String) (fields : Fields) : Fields :=
  fields.filter fun e => !e.1.sameKey (.text key)

/-- What is left out is no field any more. -/
theorem field?_without_self (key : String) (fields : Fields) :
    Yaml.field? key (without key fields) = none := by
  rw [Yaml.field?, Option.map_eq_none_iff, List.find?_eq_none]
  intro e he
  have hne := (List.mem_filter.1 he).2
  simpa using hne

/-- Leaving out a field changes no other one. -/
theorem field?_without_of_ne {key other : String} (h : other ≠ key) (fields : Fields) :
    Yaml.field? other (without key fields) = Yaml.field? other fields := by
  unfold Yaml.field? without
  rw [List.find?_filter]
  congr 2
  funext e
  by_cases hother : e.1.sameKey (.text other) = true
  · have hkey : e.1.sameKey (.text key) = false := by
      rw [sameKey_text_iff.1 hother]
      simpa using h
    simp [hkey]
  · simp [hother]

/-- The section is there, and it is neither nothing nor a mapping. -/
def Malformed (fields : Fields) (name : String) : Prop :=
  ∃ v, Yaml.field? name fields = some v ∧ v ≠ .null ∧ isMapping v = false

/-- A section that is no mapping has no fields. -/
theorem sectionOf_of_malformed {fields : Fields} {name : String} (h : Malformed fields name) :
    sectionOf name fields = [] := by
  obtain ⟨v, hv, _, hmapping⟩ := h
  rw [sectionOf, hv]
  exact fieldsOf_not_map v hmapping

/-- Leaving out a section that is no mapping changes no section. -/
theorem sectionOf_without_of_malformed {fields : Fields} {name : String}
    (h : Malformed fields name) (other : String) :
    sectionOf other (without name fields) = sectionOf other fields := by
  by_cases hother : other = name
  · subst hother
    rw [sectionOf_of_malformed h, sectionOf, field?_without_self]
    rfl
  · rw [sectionOf, field?_without_of_ne hother, sectionOf]

/-! ### The sides -/

/-- Settings are not in order, or a number in them has too many digits. -/
def IsOrdinary (e : ReadError) : Prop :=
  e.kind = .refusal ∨ ∃ fault, e = .unwritable fault

/-- A text in a field fails only where it cannot be written out. -/
theorem isOrdinary_of_presentField? {key : String} {fields : Fields} {e : ReadError}
    (h : presentField? key fields = .error e) :
    IsOrdinary e := by
  obtain ⟨fault, -, rfl⟩ := mapError_eq_error_iff.1 h
  exact Or.inr ⟨fault, rfl⟩

theorem isOrdinary_of_sourceOf {root : Files.Path} {side : String} {index : Nat} {v : Yaml.Value}
    {e : ReadError} (h : sourceOf root side index v = .error e) :
    IsOrdinary e := by
  rcases bind_eq_error_iff.1 h with h | ⟨path, -, h⟩
  · exact isOrdinary_of_presentField? h
  rcases bind_eq_error_iff.1 h with h | ⟨category, -, h⟩
  · exact isOrdinary_of_presentField? h
  split at h
  · cases h
  · cases h
    exact Or.inl rfl

/-- The first source root that is wrong decides what is wrong with all of them. -/
theorem isOrdinary_of_sourcesFrom {root : Files.Path} {side : String} {index : Nat}
    {items : List Yaml.Value} {e : ReadError} (h : sourcesFrom root side index items = .error e) :
    IsOrdinary e := by
  induction items generalizing index with
  | nil => cases h
  | cons v rest ih =>
    rw [sourcesFrom] at h
    rcases bind_eq_error_iff.1 h with h | ⟨source, -, h⟩
    · exact isOrdinary_of_sourceOf h
    rcases bind_eq_error_iff.1 h with h | ⟨sources, -, h⟩
    · exact ih h
    · cases h

theorem isOrdinary_of_sourcesField {root : Files.Path} {side : String} {before : List SourceRoot}
    {fields : Fields} {e : ReadError} (h : sourcesField root side before fields = .error e) :
    IsOrdinary e := by
  unfold sourcesField at h
  split at h
  · cases h
  · exact isOrdinary_of_sourcesFrom h
  · cases h
    exact Or.inl rfl

/-- Whatever is wrong with a side, the settings are refused for it, unless a number has too many
digits. -/
theorem isOrdinary_of_sideOf {root : Files.Path} {name : String} {before : Side}
    {v : Yaml.Value} {e : ReadError} (h : sideOf root name before v = .error e) :
    IsOrdinary e := by
  unfold sideOf at h
  split at h
  · cases h
    exact Or.inl rfl
  rcases bind_eq_error_iff.1 h with h | ⟨grammar, -, h⟩
  · exact isOrdinary_of_presentField? h
  rcases bind_eq_error_iff.1 h with h | ⟨sources, -, h⟩
  · exact isOrdinary_of_sourcesField h
  · cases h

theorem isOrdinary_of_sideField {root : Files.Path} {name : String} {before : Side}
    {fields : Fields} {e : ReadError} (h : sideField root name before fields = .error e) :
    IsOrdinary e := by
  unfold sideField at h
  split at h
  · exact isOrdinary_of_sideOf h
  · cases h

/-- A side that is no mapping is refused. -/
theorem sideField_of_malformed {fields : Fields} {name : String} (h : Malformed fields name)
    (root : Files.Path) (before : Side) :
    sideField root name before fields = .error (.badSide name) := by
  obtain ⟨v, hv, _, hmapping⟩ := h
  simp [sideField, hv, sideOf, fieldsOf_not_map v hmapping]

/-- The settings of the reference have a number with too many digits, so that nothing behind them is
looked at. -/
def StopsAtReference (s : Settings) (fields : Fields) : Prop :=
  ∃ fault, sideField s.root "reference" s.reference fields = .error (.unwritable fault)

/-- Settings that stop at the reference are not accepted. -/
theorem overlay_of_stopsAtReference {s : Settings} {fields : Fields} (h : StopsAtReference s fields)
    (r : Runtime) :
    ∃ fault, overlay r s fields = .error (.unwritable fault) := by
  obtain ⟨fault, h⟩ := h
  exact ⟨fault, bind_eq_error_iff.2 (Or.inl h)⟩

theorem not_refused_of_stopsAtReference {s : Settings} {fields : Fields}
    (h : StopsAtReference s fields) (r : Runtime) :
    ¬ ∃ e, overlay r s fields = .error e ∧ e.kind = .refusal := by
  rintro ⟨e, he, hkind⟩
  obtain ⟨fault, hfault⟩ := overlay_of_stopsAtReference h r
  cases hfault.symm.trans he
  cases fault <;> cases hkind

theorem not_stopsAtReference_of_no_field {s : Settings} {fields : Fields}
    (h : Yaml.field? "reference" fields = none) :
    ¬ StopsAtReference s fields := by
  rintro ⟨fault, hfault⟩
  rw [sideField, h] at hfault
  cases hfault

/-- A reference that is no mapping is refused, not stopped at. -/
theorem not_stopsAtReference_of_malformed {s : Settings} {fields : Fields}
    (h : Malformed fields "reference") :
    ¬ StopsAtReference s fields := by
  rintro ⟨fault, hfault⟩
  cases (sideField_of_malformed h _ _).symm.trans hfault

/-- Whether settings stop at the reference depends on that section alone. -/
theorem stopsAtReference_without {s : Settings} {fields : Fields} {name : String}
    (hname : "reference" ≠ name) (h : StopsAtReference s fields) :
    StopsAtReference s (without name fields) := by
  obtain ⟨fault, hfault⟩ := h
  refine ⟨fault, ?_⟩
  rwa [sideField, field?_without_of_ne hname]

/-- A side that is no mapping is never accepted, and the settings are refused for it unless those of
the reference have a number with too many digits. -/
theorem exists_refusal_of_malformed_side {fields : Fields} {name : String}
    (hname : name ∈ ["reference", "target"]) (h : Malformed fields name) (r : Runtime)
    (s : Settings) (hstops : ¬ StopsAtReference s fields) :
    ∃ e, overlay r s fields = .error e ∧ e.kind = .refusal := by
  rcases List.mem_pair.1 hname with rfl | rfl
  · exact ⟨_, bind_eq_error_iff.2 (Or.inl (sideField_of_malformed h _ _)), rfl⟩
  · cases hreference : sideField s.root "reference" s.reference fields with
    | error e =>
      refine ⟨e, bind_eq_error_iff.2 (Or.inl hreference), ?_⟩
      rcases isOrdinary_of_sideField hreference with hkind | ⟨fault, rfl⟩
      · exact hkind
      · exact absurd ⟨fault, hreference⟩ hstops
    | ok reference =>
      exact ⟨_, bind_eq_error_iff.2 (Or.inr ⟨reference, hreference,
        bind_eq_error_iff.2 (Or.inl (sideField_of_malformed h _ _))⟩), rfl⟩

/-! ### The other sections -/

/-- A document is told by its sides and by the fields of its other sections. -/
theorem overlay_congr {r : Runtime} {s : Settings} {fields fields' : Fields}
    (hreference : Yaml.field? "reference" fields = Yaml.field? "reference" fields')
    (htarget : Yaml.field? "target" fields = Yaml.field? "target" fields')
    (hsections : ∀ name, sectionOf name fields = sectionOf name fields') :
    overlay r s fields = overlay r s fields' := by
  unfold overlay sideField
  rw [hreference, htarget, hsections "registry", hsections "methods", hsections "output"]

/-- A section other than the sides that is no mapping might as well be left out. -/
theorem overlay_without_of_malformed {fields : Fields} {name : String}
    (hreference : name ≠ "reference") (htarget : name ≠ "target") (h : Malformed fields name)
    (r : Runtime) (s : Settings) :
    overlay r s fields = overlay r s (without name fields) := by
  refine overlay_congr ?_ ?_ fun other => (sectionOf_without_of_malformed h other).symm
  · exact (field?_without_of_ne hreference.symm fields).symm
  · exact (field?_without_of_ne htarget.symm fields).symm

/-- What a section that is no mapping would have set is as before. -/
structure KeepsMalformed (before after : Settings) (fields : Fields) : Prop where
  registry : Malformed fields "registry" →
    after.classes = before.classes ∧ after.families = before.families
  methods : Malformed fields "methods" →
    after.tables = before.tables ∧ after.categories = before.categories
      ∧ after.defaultTable = before.defaultTable
  output : Malformed fields "output" → after.output = before.output

/-- Settings that are accepted are as before where a section is no mapping. -/
theorem keepsMalformed_of_overlay {r : Runtime} {s s' : Settings} {fields : Fields}
    (h : overlay r s fields = .ok s') :
    KeepsMalformed s s' fields := by
  obtain ⟨reference, target, s₁, s₂, -, -, hregistry, hmethods, houtput⟩ := overlay_eq_ok_iff.1 h
  have hframe₁ := eq_of_registryOf hregistry
  have hframe₂ := eq_of_methodsOf hmethods
  have hframe₃ := eq_of_outputOf houtput
  constructor
  · intro hmalformed
    rw [sectionOf_of_malformed hmalformed] at hregistry
    cases hregistry
    rw [hframe₃, hframe₂]
    exact ⟨rfl, rfl⟩
  · intro hmalformed
    rw [sectionOf_of_malformed hmalformed] at hmethods
    cases hmethods
    rw [hframe₃, hframe₁]
    exact ⟨rfl, rfl, rfl⟩
  · intro hmalformed
    rw [sectionOf_of_malformed hmalformed] at houtput
    cases houtput
    rw [hframe₂, hframe₁]
    rfl

/-- Of a file with a section that is neither nothing nor a mapping, the settings are refused exactly
if the section is a side, or if they are refused without this section.  The one exception is a
number with too many digits in the settings of the reference, at which reading stops first; even so,
settings with such a side are never accepted.  If settings are accepted, all that such sections
would have set is the default. -/
theorem malformed_refused_iff_side {r : Runtime} {d : Files.Disk} {p : Files.Path}
    {root : Option Files.Path} {start : Files.Path} {fields : Fields}
    (h : HoldsFields r d p root start fields) :
    ∃ before, standard r.dialect start = .ok before
      ∧ (∀ name ∈ ["reference", "target", "registry", "methods", "output"],
          Malformed fields name →
          ((∃ e, ofFile r d p root = .error e ∧ e.kind = .refusal) ↔
            (name ∈ ["reference", "target"] ∧ ¬ StopsAtReference before fields)
              ∨ ∃ e, overlay r before (without name fields) = .error e ∧ e.kind = .refusal))
      ∧ (∀ name ∈ ["reference", "target"], Malformed fields name →
          ∃ e, ofFile r d p root = .error e)
      ∧ ∀ s, ofFile r d p root = .ok s → KeepsMalformed before s fields := by
  obtain ⟨before, hbefore, hoverlay⟩ := ofFile_of_holdsFields h
  rw [hoverlay]
  refine ⟨before, hbefore, fun name _ hmalformed => ?_, fun name hname hmalformed => ?_,
    fun s hs => keepsMalformed_of_overlay hs⟩
  · by_cases hside : name ∈ ["reference", "target"]
    · by_cases hstops : StopsAtReference before fields
      · have hne : "reference" ≠ name := by
          rintro rfl
          exact not_stopsAtReference_of_malformed hmalformed hstops
        refine iff_of_false (not_refused_of_stopsAtReference hstops r) ?_
        rintro (⟨-, hno⟩ | hwithout)
        · exact hno hstops
        · exact not_refused_of_stopsAtReference (stopsAtReference_without hne hstops) r hwithout
      · exact iff_of_true (exists_refusal_of_malformed_side hside hmalformed r before hstops)
          (Or.inl ⟨hside, hstops⟩)
    · have hne := hside
      rw [List.mem_pair, not_or] at hne
      rw [overlay_without_of_malformed hne.1 hne.2 hmalformed]
      exact (or_iff_right fun h => hside h.1).symm
  · by_cases hstops : StopsAtReference before fields
    · obtain ⟨fault, he⟩ := overlay_of_stopsAtReference hstops r
      exact ⟨_, he⟩
    · obtain ⟨e, he, -⟩ := exists_refusal_of_malformed_side hname hmalformed r before hstops
      exact ⟨e, he⟩

/-- Without a side, and with no mapping in any other section, the settings of a file are those that
stand without a file. -/
theorem ofFile_of_nothing_read {r : Runtime} {d : Files.Disk} {p : Files.Path}
    {root : Option Files.Path} {start : Files.Path} {fields : Fields}
    (h : HoldsFields r d p root start fields)
    (hsides : ∀ name ∈ ["reference", "target"], Yaml.field? name fields = none)
    (hsections : ∀ name ∈ ["registry", "methods", "output"], Malformed fields name) :
    ∃ before, standard r.dialect start = .ok before ∧ ofFile r d p root = .ok before := by
  obtain ⟨before, hbefore, hoverlay⟩ := ofFile_of_holdsFields h
  refine ⟨before, hbefore, hoverlay.trans ?_⟩
  rw [overlay_eq_ok_iff]
  refine ⟨before.reference, before.target, before, before, ?_, ?_, ?_, ?_, ?_⟩
  · rw [sideField, hsides "reference" (by decide)]
  · rw [sideField, hsides "target" (by decide)]
  · rw [sectionOf_of_malformed (hsections "registry" (by decide))]
    rfl
  · rw [sectionOf_of_malformed (hsections "methods" (by decide))]
    rfl
  · rw [sectionOf_of_malformed (hsections "output" (by decide))]
    rfl

/-- A disk with two files with settings: in one, a side is no mapping; in the other, none of the
sections is one. -/
def scribbledDisk : Files.Disk :=
  .unguarded (.directory
    [("side", .file "target: here\n".toUTF8),
      ("rest", .file "registry: 1\nmethods: [a]\noutput: here\n".toUTF8)])

/-- For each section, whether its value is empty, and whether it is a mapping. -/
def sectionKinds (v : Yaml.Value) : List (Option (Bool × Bool)) :=
  ["reference", "target", "registry", "methods", "output"].map fun name =>
    (Yaml.field? name (fieldsOf v)).map fun w => (w.isEmpty, isMapping w)

theorem malformed_of_kind {v : Yaml.Value} {name : String}
    (h : ((Yaml.field? name (fieldsOf v)).map fun w => (w.isEmpty, isMapping w)) =
      some (false, false)) :
    Malformed (fieldsOf v) name := by
  obtain ⟨w, hw, hkind⟩ := Option.map_eq_some_iff.1 h
  obtain ⟨hempty, hmapping⟩ := Prod.mk.inj hkind
  refine ⟨w, hw, ?_, hmapping⟩
  rintro rfl
  cases hempty

/-- A file of the root directory, read step by step. -/
theorem holdsFields_of_steps {r : Runtime} {d : Files.Disk} {name : String}
    {file start : Files.Path} {kinds : List (Option (Bool × Bool))}
    (hfile : (fileAt d (.ofString name)).toOption = some file)
    (hroot : (rootOf d file none).toOption = some start)
    (hexists : (d.seesAnything file).toOption = some true)
    (hdocument : ((d.readText file).toOption.bind fun text =>
      (document r file.name text).toOption.map fun v => (isMapping v, sectionKinds v)) =
        some (true, kinds)) :
    ∃ v, HoldsFields r d (.ofString name) none start (fieldsOf v) ∧ sectionKinds v = kinds := by
  obtain ⟨text, htext, hdocument⟩ := Option.bind_eq_some_iff.1 hdocument
  obtain ⟨v, hv, hkinds⟩ := Option.map_eq_some_iff.1 hdocument
  obtain ⟨hmapping, hkinds⟩ := Prod.mk.inj hkinds
  exact ⟨v, ⟨_, text, v, eq_ok_of_toOption hfile, eq_ok_of_toOption hroot,
    eq_ok_of_toOption hexists, eq_ok_of_toOption htext, eq_ok_of_toOption hv, hmapping, rfl⟩,
    hkinds⟩

theorem exists_holdsFields_side :
    ∃ v, HoldsFields .usual scribbledDisk (.ofString "side") none ⟨.root, []⟩ (fieldsOf v)
      ∧ sectionKinds v = [none, some (false, false), none, none, none] :=
  holdsFields_of_steps (show _ = some ⟨.root, ["side"]⟩ by decide +kernel) (by decide +kernel)
    (by decide +kernel) (by decide +kernel)

theorem exists_holdsFields_rest :
    ∃ v, HoldsFields .usual scribbledDisk (.ofString "rest") none ⟨.root, []⟩ (fieldsOf v)
      ∧ sectionKinds v =
        [none, none, some (false, false), some (false, false), some (false, false)] :=
  holdsFields_of_steps (show _ = some ⟨.root, ["rest"]⟩ by decide +kernel) (by decide +kernel)
    (by decide +kernel) (by decide +kernel)

/-- The second file has neither side, and no mapping in any other section. -/
theorem nothing_read_of_rest :
    ∃ fields, HoldsFields .usual scribbledDisk (.ofString "rest") none ⟨.root, []⟩ fields
      ∧ (∀ name ∈ ["reference", "target"], Yaml.field? name fields = none)
      ∧ ∀ name ∈ ["registry", "methods", "output"], Malformed fields name := by
  obtain ⟨v, hholds, hkinds⟩ := exists_holdsFields_rest
  simp only [sectionKinds, List.map_cons, List.map_nil, List.cons.injEq,
    Option.map_eq_none_iff] at hkinds
  obtain ⟨hreference, htarget, hregistry, hmethods, houtput, -⟩ := hkinds
  refine ⟨_, hholds, ?_, ?_⟩
  all_goals simp only [List.forall_mem_cons, List.not_mem_nil, false_imp_iff, implies_true,
    and_true]
  · exact ⟨hreference, htarget⟩
  · exact ⟨malformed_of_kind hregistry, malformed_of_kind hmethods, malformed_of_kind houtput⟩

/-- Three sections that are no mappings, and the settings are those that stand without a file. -/
theorem ignored_of_scribbledDisk :
    ∃ before fields, HoldsFields .usual scribbledDisk (.ofString "rest") none ⟨.root, []⟩ fields
      ∧ (∀ name ∈ ["registry", "methods", "output"], Malformed fields name)
      ∧ standard Runtime.usual.dialect ⟨.root, []⟩ = .ok before
      ∧ ofFile .usual scribbledDisk (.ofString "rest") none = .ok before := by
  obtain ⟨fields, hholds, hsides, hsections⟩ := nothing_read_of_rest
  obtain ⟨before, hbefore, hs⟩ := ofFile_of_nothing_read hholds hsides hsections
  exact ⟨before, fields, hholds, hsections, hbefore, hs⟩

/-- The side is refused, and the output section is not. -/
theorem refused_of_scribbledDisk :
    (∃ fields e, HoldsFields .usual scribbledDisk (.ofString "side") none ⟨.root, []⟩ fields
      ∧ Malformed fields "target"
      ∧ ofFile .usual scribbledDisk (.ofString "side") none = .error e ∧ e.kind = .refusal)
    ∧ ∃ before fields s, HoldsFields .usual scribbledDisk (.ofString "rest") none ⟨.root, []⟩ fields
      ∧ Malformed fields "output"
      ∧ ofFile .usual scribbledDisk (.ofString "rest") none = .ok s
      ∧ standard Runtime.usual.dialect ⟨.root, []⟩ = .ok before ∧ s.output = before.output := by
  constructor
  · obtain ⟨v, hholds, hkinds⟩ := exists_holdsFields_side
    simp only [sectionKinds, List.map_cons, List.cons.injEq, Option.map_eq_none_iff] at hkinds
    have htarget : Malformed (fieldsOf v) "target" := malformed_of_kind hkinds.2.1
    obtain ⟨_, _, hiff, _⟩ := malformed_refused_iff_side hholds
    obtain ⟨e, he, hkind⟩ := (hiff "target" (by decide) htarget).2
      (Or.inl ⟨by decide, not_stopsAtReference_of_no_field hkinds.1⟩)
    exact ⟨_, e, hholds, htarget, he, hkind⟩
  · obtain ⟨fields, hholds, hsides, hsections⟩ := nothing_read_of_rest
    obtain ⟨s, _, hs⟩ := ofFile_of_nothing_read hholds hsides hsections
    obtain ⟨before, hbefore, _, _, hkeeps⟩ := malformed_refused_iff_side hholds
    have houtput := hsections "output" (by decide)
    exact ⟨before, fields, s, hholds, houtput, hs, hbefore, (hkeeps s hs).output houtput⟩

end Settings

end SurfaceCoverage
