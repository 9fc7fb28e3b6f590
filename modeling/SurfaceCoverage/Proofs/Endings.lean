import SurfaceCoverage.CommandLine.Execution
import SurfaceCoverage.Proofs.Reporting
import SurfaceCoverage.Proofs.Sections

/-!
# How commands end

A command ends cleanly if it succeeds, or if it reports its failure under its name and ends with the
code 1.  The analysis of a project reports whatever fails; all that can break it is a report that
was written and whose path cannot be shown.  The list of gaps reports refusals only; what else can
go wrong with the settings or the tables breaks the run.

**Results.**
* `Settings.unexpected_iff`, `MethodTables.unexpected_iff`: the ways to fail that are no refusals.
* `analyzes_execute`: how the analysis ends.
* `listsGaps_execute`: how the list of gaps ends, by what the settings and the tables give.
* `gaps_ends_cleanly_iff`: when the commands end cleanly.
* `ofWords_gapsWords`: the usual words for the list of gaps.
-/

namespace SurfaceCoverage

/-! ### Texts and paths -/

/-- Only a text that is no document is refused, not one with a value that does not exist. -/
theorem Yaml.Error.kind_ne_refusal_iff {e : Yaml.Error} :
    e.kind ≠ .refusal ↔ e.isFormat = false := by
  cases e with
  | malformed fault =>
    cases fault <;> simp [kind, isFormat]
    split <;> simp
  | value fault => cases fault <;> simp [kind, isFormat]
  | broken message => simp [kind, isFormat]

theorem Yaml.WriteFault.kind_ne_refusal (fault : Yaml.WriteFault) :
    fault.kind ≠ .refusal := by
  cases fault <;> simp [kind]

theorem Files.FileError.kind_ne_refusal (e : Files.FileError) :
    e.kind ≠ .refusal := by
  unfold kind
  split <;> simp

theorem Files.PathError.kind_ne_refusal (e : Files.PathError) :
    e.kind ≠ .refusal := by
  cases e with
  | file e => exact e.kind_ne_refusal
  | _ => simp [kind]

/-- A file that cannot be opened is refused, unless no path may be its text. -/
theorem Files.FileError.kindOfReading_ne_refusal_iff {e : Files.FileError} :
    e.kindOfReading ≠ .refusal ↔ e.cause.isUnfit = true := by
  unfold kindOfReading
  split <;> simp_all

theorem Files.Disk.read_of_readText {d : Files.Disk} {p : Files.Path} {e : Files.FileError}
    (h : d.readText p = .error (.file e)) :
    d.read p = .error e := by
  unfold readText at h
  split at h
  · next hread =>
    cases h
    exact hread
  · split at h <;> cases h

/-- Reading a file that has been seen does not fail for its text. -/
theorem Files.Disk.isUnfit_of_seen {d : Files.Disk} {p : Files.Path} {e : Files.FileError}
    (hseen : d.seesAnything p = .ok true) (h : d.readText p = .error (.file e)) :
    e.cause.isUnfit = false := by
  cases hunfit : d.unfit? p with
  | none => exact isUnfit_of_read hunfit (read_of_readText h)
  | some reason =>
    have hnode : d.node p = .error (.unfit reason) := by
      rw [node, place, hunfit]
    rw [seesAnything, look, hnode] at hseen
    cases hseen

/-! ### Settings -/

namespace Settings

/-- A family is not refused: what is written cannot be written out, or its pattern is well-formed,
but its bounds, its flags or its nesting go too far. -/
def IsBreakdown (e : Registry.FamilyError) : Prop :=
  (∃ fault, e = .unwritable fault)
    ∨ ∃ name fault, e = .badPattern name fault
      ∧ (fault = .hugeBound ∨ fault = .opposedFlags ∨ fault = .tooDeep)

/-- The failures over families that are no refusals. -/
theorem kind_family_ne_refusal_iff {e : Registry.FamilyError} :
    e.kind ≠ .refusal ↔ IsBreakdown e := by
  cases e with
  | unwritable fault =>
    exact iff_of_true fault.kind_ne_refusal (Or.inl ⟨fault, rfl⟩)
  | badPattern name fault => cases fault <;> simp [Registry.FamilyError.kind, IsBreakdown]
  | _ => simp [Registry.FamilyError.kind, IsBreakdown]

/-- The ways to fail over settings that are no refusals. -/
inductive Unexpected (r : Runtime) (d : Files.Disk) (p : Files.Path) (root : Option Files.Path) :
    ReadError → Prop
  | file {e} (h : fileAt d p = .error e) : Unexpected r d p root (.badPath e)
  | start {file e} (hfile : fileAt d p = .ok file) (h : rootOf d file root = .error e) :
      Unexpected r d p root (.badPath e)
  | sight {file start e} (hfile : fileAt d p = .ok file) (hstart : rootOf d file root = .ok start)
      (h : d.seesAnything file = .error e) :
      Unexpected r d p root (.badPath (.file e))
  | value {file start text e} (hfile : fileAt d p = .ok file)
      (hstart : rootOf d file root = .ok start) (hseen : d.seesAnything file = .ok true)
      (htext : d.readText file = .ok text) (hblank : Text.trim text ≠ "")
      (h : r.readYaml text = .error e) (hvalue : e.isFormat = false) :
      Unexpected r d p root (.yaml file.name e)
  | unwritable {start fields before fault} (hholds : HoldsFields r d p root start fields)
      (hbefore : standard r.dialect start = .ok before)
      (h : overlay r before fields = .error (.unwritable fault)) :
      Unexpected r d p root (.unwritable fault)
  | family {start fields before e} (hholds : HoldsFields r d p root start fields)
      (hbefore : standard r.dialect start = .ok before)
      (h : overlay r before fields = .error (.family e)) (hfamily : IsBreakdown e) :
      Unexpected r d p root (.family e)

theorem isOrdinary_of_pathField {root : Files.Path} {key : String} {before : Option Files.Path}
    {fields : Fields} {e : ReadError} (h : pathField root key before fields = .error e) :
    IsOrdinary e := by
  rcases bind_eq_error_iff.1 h with h | ⟨path, -, h⟩
  · exact isOrdinary_of_presentField? h
  · split at h <;> cases h

theorem isOrdinary_of_routesField {r : Runtime} {before : OrderedMap String String}
    {fields : Fields} {e : ReadError} (h : routesField r before fields = .error e) :
    IsOrdinary e := by
  unfold routesField at h
  split at h
  · cases h
  split at h
  · obtain ⟨fault, -, rfl⟩ := mapError_eq_error_iff.1 h
    exact Or.inr ⟨fault, rfl⟩
  · cases h
    exact Or.inl rfl

theorem isOrdinary_of_defaultField {before : Option String} {fields : Fields} {e : ReadError}
    (h : defaultField before fields = .error e) :
    IsOrdinary e := by
  unfold defaultField at h
  split at h
  · cases h
  · obtain ⟨fault, -, rfl⟩ := mapError_eq_error_iff.1 h
    exact Or.inr ⟨fault, rfl⟩

/-- Whatever is wrong with the section about methods. -/
theorem isOrdinary_of_methodsOf {r : Runtime} {s : Settings} {fields : Fields} {e : ReadError}
    (h : methodsOf r s fields = .error e) :
    IsOrdinary e := by
  rcases bind_eq_error_iff.1 h with h | ⟨tables, -, h⟩
  · exact isOrdinary_of_pathField h
  rcases bind_eq_error_iff.1 h with h | ⟨categories, -, h⟩
  · exact isOrdinary_of_routesField h
  rcases bind_eq_error_iff.1 h with h | ⟨defaultTable, -, h⟩
  · exact isOrdinary_of_defaultField h
  · cases h

/-- Whatever is wrong with the section about the reports. -/
theorem isOrdinary_of_outputOf {s : Settings} {fields : Fields} {e : ReadError}
    (h : outputOf s fields = .error e) :
    IsOrdinary e := by
  rcases bind_eq_error_iff.1 h with h | ⟨directory, -, h⟩
  · exact isOrdinary_of_pathField h
  · cases h

theorem familiesField_error_cases {r : Runtime} {root : Files.Path}
    {before : List Registry.Family} {fields : Fields} {e : ReadError}
    (h : familiesField r root before fields = .error e) :
    IsOrdinary e ∨ ∃ family, e = .family family := by
  unfold familiesField at h
  split at h
  · cases h
  split at h
  · obtain ⟨family, -, rfl⟩ := mapError_eq_error_iff.1 h
    exact Or.inr ⟨family, rfl⟩
  · cases h
    exact Or.inl (Or.inl rfl)

/-- Whatever is wrong with the registry section. -/
theorem registryOf_error_cases {r : Runtime} {s : Settings} {fields : Fields} {e : ReadError}
    (h : registryOf r s fields = .error e) :
    IsOrdinary e ∨ ∃ family, e = .family family := by
  rcases bind_eq_error_iff.1 h with h | ⟨classes, -, h⟩
  · exact Or.inl (isOrdinary_of_pathField h)
  rcases bind_eq_error_iff.1 h with h | ⟨families, -, h⟩
  · exact familiesField_error_cases h
  · cases h

/-- A document whose text can be read is refused, but for values that cannot be written out and for
the families. -/
theorem overlay_error_cases {r : Runtime} {s : Settings} {fields : Fields} {e : ReadError}
    (h : overlay r s fields = .error e) :
    IsOrdinary e ∨ ∃ family, e = .family family := by
  rcases bind_eq_error_iff.1 h with h | ⟨reference, -, h⟩
  · exact Or.inl (isOrdinary_of_sideField h)
  rcases bind_eq_error_iff.1 h with h | ⟨target, -, h⟩
  · exact Or.inl (isOrdinary_of_sideField h)
  rcases bind_eq_error_iff.1 h with h | ⟨s₁, -, h⟩
  · exact registryOf_error_cases h
  rcases bind_eq_error_iff.1 h with h | ⟨s₂, -, h⟩
  · exact Or.inl (isOrdinary_of_methodsOf h)
  · exact Or.inl (isOrdinary_of_outputOf h)

/-- A text that is not blank fails as its reader does. -/
theorem document_eq_error_iff {r : Runtime} {file text : String} {e : ReadError} :
    document r file text = .error e ↔
      Text.trim text ≠ "" ∧ ∃ e', r.readYaml text = .error e' ∧ e = .yaml file e' := by
  unfold document
  by_cases hblank : Text.trim text = ""
  · simp [hblank]
  · rw [if_neg hblank]
    split
    · next e' h => simp [h, hblank, eq_comm]
    · next h => simp [h]
    · next v _ h => simp [h]

section Reading

variable {r : Runtime} {d : Files.Disk} {p file start : Files.Path} {root : Option Files.Path}
  {e : ReadError}

/-- Reading a file that is there goes wrong otherwise than by a refusal. -/
theorem unexpected_of_overFile {before : Settings} (hfile : fileAt d p = .ok file)
    (hstart : rootOf d file root = .ok start) (hseen : d.seesAnything file = .ok true)
    (hbefore : standard r.dialect start = .ok before)
    (h : overFile r d file before = .error e) (hkind : e.kind ≠ .refusal) :
    Unexpected r d p root e := by
  unfold overFile at h
  split at h
  · next e' htext =>
    cases h
    -- a file that has been seen has a text that a path may be, so this is a refusal
    have hcause := Files.FileError.kindOfReading_ne_refusal_iff.1 hkind
    cases (Files.Disk.isUnfit_of_seen hseen htext).symm.trans hcause
  · cases h
    exact absurd rfl hkind
  · next text htext =>
    rcases bind_eq_error_iff.1 h with hdocument | ⟨v, hdocument, h⟩
    · obtain ⟨hblank, e', hread, rfl⟩ := document_eq_error_iff.1 hdocument
      exact .value hfile hstart hseen htext hblank hread (Yaml.Error.kind_ne_refusal_iff.1 hkind)
    · split at h
      · next hmapping =>
        have hholds : HoldsFields r d p root start (fieldsOf v) :=
          ⟨file, text, v, hfile, hstart, hseen, htext, hdocument, hmapping, rfl⟩
        rcases overlay_error_cases h with (hrefusal | ⟨fault, rfl⟩) | ⟨family, rfl⟩
        · exact absurd hrefusal hkind
        · exact .unwritable hholds hbefore h
        · exact .family hholds hbefore h (kind_family_ne_refusal_iff.1 hkind)
      · cases h
        exact absurd rfl hkind

/-- A failure over settings that is no refusal has one of the listed causes. -/
theorem unexpected_of_ofFile (h : ofFile r d p root = .error e) (hkind : e.kind ≠ .refusal) :
    Unexpected r d p root e := by
  cases hfile : fileAt d p with
  | error e' =>
    rw [ofFile, hfile] at h
    cases h
    exact .file hfile
  | ok file =>
    cases hstart : rootOf d file root with
    | error e' =>
      simp only [ofFile, hfile, mapError_ok, bind_ok, hstart] at h
      cases h
      exact .start hfile hstart
    | ok start =>
      obtain ⟨before, hbefore⟩ := exists_standard r.dialect start
      cases hseen : d.seesAnything file with
      | error e' =>
        cases (ofFile_of_unseen hfile hstart hseen).symm.trans h
        exact .sight hfile hstart hseen
      | ok there =>
        rw [ofFile_eq_overFile hfile hstart hbefore hseen] at h
        cases there with
        | false => cases h
        | true => exact unexpected_of_overFile hfile hstart hseen hbefore h hkind

/-- The errors of a file with settings that are no refusals. -/
theorem unexpected_iff :
    Unexpected r d p root e ↔ ofFile r d p root = .error e ∧ e.kind ≠ .refusal := by
  refine ⟨fun h => ?_, fun ⟨h, hkind⟩ => unexpected_of_ofFile h hkind⟩
  cases h with
  | @file e h =>
    refine ⟨?_, Files.PathError.kind_ne_refusal e⟩
    rw [ofFile, h]
    rfl
  | @start file e hfile h =>
    refine ⟨?_, Files.PathError.kind_ne_refusal e⟩
    simp only [ofFile, hfile, mapError_ok, bind_ok, h]
    rfl
  | @sight file start e hfile hstart h =>
    exact ⟨ofFile_of_unseen hfile hstart h, e.kind_ne_refusal⟩
  | @value file start text e hfile hstart hseen htext hblank h hvalue =>
    have hdocument : document r file.name text = .error (.yaml file.name e) :=
      document_eq_error_iff.2 ⟨hblank, e, h, rfl⟩
    obtain ⟨before, hbefore⟩ := exists_standard r.dialect start
    refine ⟨?_, Yaml.Error.kind_ne_refusal_iff.2 hvalue⟩
    rw [ofFile_eq_overFile hfile hstart hbefore hseen, if_pos rfl]
    simp only [overFile, htext, hdocument]
    rfl
  | @unwritable start fields before fault hholds hbefore h =>
    obtain ⟨before', hbefore', hoverlay⟩ := ofFile_of_holdsFields hholds
    obtain rfl := Except.ok.inj (hbefore.symm.trans hbefore')
    exact ⟨hoverlay.trans h, fault.kind_ne_refusal⟩
  | family hholds hbefore h hfamily =>
    obtain ⟨before', hbefore', hoverlay⟩ := ofFile_of_holdsFields hholds
    obtain rfl := Except.ok.inj (hbefore.symm.trans hbefore')
    exact ⟨hoverlay.trans h, kind_family_ne_refusal_iff.2 hfamily⟩

end Reading

end Settings

/-! ### Method tables -/

namespace MethodTables

/-- The name of a table or a key in it cannot be written out. -/
def IsUnwritable (e : ReadError) : Prop :=
  ∃ fault, e = .unwritable fault ∨ e = .table (.unwritable fault)

theorem IsUnwritable.kind_ne_refusal {e : ReadError} (h : IsUnwritable e) :
    e.kind ≠ .refusal := by
  obtain ⟨fault, rfl | rfl⟩ := h <;> exact fault.kind_ne_refusal

/-- The ways to fail over a file with tables that are no refusals. -/
inductive Unexpected (r : Runtime) (d : Files.Disk) (p : Files.Path) : ReadError → Prop
  | path {e} (h : d.readText p = .error (.file e)) (hcause : e.cause.isUnfit = true) :
      Unexpected r d p (.unreadable p.text e)
  | value {text e} (htext : d.readText p = .ok text) (h : r.readYaml text = .error e)
      (hvalue : e.isFormat = false) :
      Unexpected r d p (.yaml p.text e)
  | unwritable {text v e} (htext : d.readText p = .ok text) (hread : r.readYaml text = .ok v)
      (h : ofValue r.depth p.text v = .error e) (hunwritable : IsUnwritable e) :
      Unexpected r d p e

/-- A table is refused, or something in it cannot be written out. -/
theorem table_error_cases (e : TableError) :
    (ReadError.table e).kind = .refusal ∨ IsUnwritable (.table e) := by
  cases e with
  | unwritable fault => exact Or.inr ⟨fault, Or.inr rfl⟩
  | keyNotName table key => exact Or.inl rfl
  | badCounterpart table method => exact Or.inl rfl
  | unknownTables names => exact Or.inl rfl

/-- Whatever is wrong with a table. -/
theorem tableOf_error_cases {depth : Nat} {origin : String} {name content : Yaml.Value}
    {e : ReadError} (h : tableOf depth origin name content = .error e) :
    e.kind = .refusal ∨ IsUnwritable e := by
  rcases bind_eq_error_iff.1 h with h | ⟨shown, -, h⟩
  · obtain ⟨fault, -, rfl⟩ := mapError_eq_error_iff.1 h
    exact Or.inr ⟨fault, Or.inl rfl⟩
  · split at h
    · obtain ⟨e', -, rfl⟩ := mapError_eq_error_iff.1 h
      exact table_error_cases e'
    · obtain ⟨e', -, rfl⟩ := mapError_eq_error_iff.1 h
      exact table_error_cases e'
    · cases h
      exact Or.inl rfl

/-- The first table that is wrong decides what is wrong with all of them. -/
theorem tablesOf_error_cases {depth : Nat} {origin : String}
    {entries : List (Yaml.Value × Yaml.Value)} {e : ReadError}
    (h : tablesOf depth origin entries = .error e) :
    e.kind = .refusal ∨ IsUnwritable e := by
  induction entries with
  | nil => cases h
  | cons entry rest ih =>
    rw [tablesOf] at h
    rcases bind_eq_error_iff.1 h with h | ⟨table, -, h⟩
    · exact tableOf_error_cases h
    rcases bind_eq_error_iff.1 h with h | ⟨tables, -, h⟩
    · exact ih h
    · cases h

/-- A document whose text can be read is refused or gives tables, but for what cannot be written
out. -/
theorem ofValue_error_cases {depth : Nat} {origin : String} {v : Yaml.Value} {e : ReadError}
    (h : ofValue depth origin v = .error e) :
    e.kind = .refusal ∨ IsUnwritable e := by
  unfold ofValue at h
  split at h
  · next entries _ =>
    cases hentries : tablesOf depth origin entries with
    | error e' =>
      rw [hentries] at h
      cases h
      exact tablesOf_error_cases hentries
    | ok tables =>
      rw [hentries] at h
      cases h
  · split at h
    · cases h
    · cases h
      exact Or.inl rfl

/-- The errors of a file with tables that are no refusals. -/
theorem unexpected_iff {r : Runtime} {d : Files.Disk} {p : Files.Path} {e : ReadError} :
    Unexpected r d p e ↔ ofFile r d p = .error e ∧ e.kind ≠ .refusal := by
  constructor
  · intro h
    cases h with
    | path h hcause =>
      exact ⟨by rw [ofFile, h], Files.FileError.kindOfReading_ne_refusal_iff.2 hcause⟩
    | value htext h hvalue =>
      exact ⟨by simp only [ofFile, htext, ofText, h], Yaml.Error.kind_ne_refusal_iff.2 hvalue⟩
    | unwritable htext hread h hunwritable =>
      exact ⟨by simp only [ofFile, htext, ofText, hread, h], hunwritable.kind_ne_refusal⟩
  · rintro ⟨h, hkind⟩
    rw [ofFile] at h
    split at h
    · next e' htext =>
      cases h
      exact .path htext (Files.FileError.kindOfReading_ne_refusal_iff.1 hkind)
    · cases h
      exact absurd rfl hkind
    · next text htext =>
      rw [ofText] at h
      split at h
      · next e' hread =>
        cases h
        exact .value htext hread (Yaml.Error.kind_ne_refusal_iff.1 hkind)
      · next v hread =>
        exact .unwritable htext hread h ((ofValue_error_cases h).resolve_left hkind)

end MethodTables

namespace CommandLine

/-! ### The list of gaps -/

/-- The gaps that a project has by its settings and its tables. -/
def gapsIn (r : Runtime) (d : Files.Disk) (project : Files.Path) (file : Option Files.Path) :
    Except AnalysisError (List (String × String)) := do
  let settings ← (Analysis.settingsOf r d project file).mapError .settings
  let tables ← (Analysis.tablesOf r d settings).mapError .tables
  return tables.knownGaps

/-- The ways to fail over the gaps of a project that are no refusals. -/
inductive Unexpected (r : Runtime) (d : Files.Disk) (project : Files.Path)
    (file : Option Files.Path) : AnalysisError → Prop
  | settings {e}
      (h : Settings.Unexpected r d (file.getD project) (file.map fun _ => project) e) :
      Unexpected r d project file (.settings e)
  | tables {s p e} (hsettings : Analysis.settingsOf r d project file = .ok s)
      (hfile : s.tables = some p) (h : MethodTables.Unexpected r d p e) :
      Unexpected r d project file (.tables e)

variable {r : Runtime} {d : Files.Disk} {project : Files.Path} {file : Option Files.Path}
  {e : AnalysisError}

/-- The settings are those of the given file, or of the project. -/
theorem settingsOf_eq (r : Runtime) (d : Files.Disk) (project : Files.Path)
    (file : Option Files.Path) :
    Analysis.settingsOf r d project file =
      Settings.ofFile r d (file.getD project) (file.map fun _ => project) := by
  cases file <;> rfl

/-- The gaps fail with the settings, or with the tables behind them. -/
theorem gapsIn_eq_error_iff :
    gapsIn r d project file = .error e ↔
      (∃ e', Analysis.settingsOf r d project file = .error e' ∧ .settings e' = e)
        ∨ ∃ s e', Analysis.settingsOf r d project file = .ok s
          ∧ Analysis.tablesOf r d s = .error e' ∧ .tables e' = e := by
  unfold gapsIn
  rw [bind_eq_error_iff, mapError_eq_error_iff]
  refine or_congr_right (exists_congr fun s => ?_)
  rw [mapError_eq_ok_iff, bind_eq_error_iff, mapError_eq_error_iff]
  simp [pure, Except.pure]

/-- The check of the routes just refuses. -/
theorem kind_of_checked {tables : TablesByName} {routes : OrderedMap String String}
    {defaultTable : Option String} {e : TableError}
    (h : MethodTables.checked tables routes defaultTable = .error e) :
    (MethodTables.ReadError.table e).kind = .refusal := by
  unfold MethodTables.checked at h
  split at h
  · cases h
  · cases h
    rfl

/-- Of the tables that settings ask for, only a file goes wrong otherwise than by a refusal. -/
theorem tablesOf_unexpected_iff {s : Settings} {e : MethodTables.ReadError} :
    Analysis.tablesOf r d s = .error e ∧ e.kind ≠ .refusal ↔
      ∃ p, s.tables = some p ∧ MethodTables.Unexpected r d p e := by
  -- the routes are checked with and without a file
  have hchecked : ∀ tables : TablesByName,
      ¬ ((MethodTables.checked tables s.categories s.defaultTable).mapError
        MethodTables.ReadError.table = .error e ∧ e.kind ≠ .refusal) := by
    rintro tables ⟨h, hkind⟩
    obtain ⟨e', he', rfl⟩ := mapError_eq_error_iff.1 h
    exact hkind (kind_of_checked he')
  unfold Analysis.tablesOf
  cases htables : s.tables with
  | none => simpa [Except.bind] using hchecked MethodTables.standard
  | some p =>
    have hread : (∃ q, some p = some q ∧ MethodTables.Unexpected r d q e) ↔
        MethodTables.Unexpected r d p e := by
      simp
    rw [hread, MethodTables.unexpected_iff]
    cases hfile : MethodTables.ofFile r d p with
    | error e' => simp [hfile, Except.bind]
    | ok tables => simpa [hfile, Except.bind] using hchecked tables

/-- The failures over the gaps of a project that are no refusals. -/
theorem unexpected_iff :
    Unexpected r d project file e ↔ gapsIn r d project file = .error e ∧ e.kind ≠ .refusal := by
  rw [gapsIn_eq_error_iff]
  constructor
  · intro h
    cases h with
    | settings h =>
      rw [Settings.unexpected_iff, ← settingsOf_eq] at h
      exact ⟨Or.inl ⟨_, h.1, rfl⟩, h.2⟩
    | tables hsettings hfile h =>
      obtain ⟨htables, hkind⟩ := tablesOf_unexpected_iff.2 ⟨_, hfile, h⟩
      exact ⟨Or.inr ⟨_, _, hsettings, htables, rfl⟩, hkind⟩
  · rintro ⟨⟨e', h, rfl⟩ | ⟨s, e', hsettings, h, rfl⟩, hkind⟩
    · refine .settings (Settings.unexpected_iff.2 ⟨?_, hkind⟩)
      rw [← settingsOf_eq]
      exact h
    · obtain ⟨p, hfile, htables⟩ := tablesOf_unexpected_iff.1 ⟨h, hkind⟩
      exact .tables hsettings hfile htables

/-! ### Endings -/

/-- The command succeeds, or it reports a failure under its name and ends with the code 1. -/
def Ending.EndsCleanly (e : Ending) (c : Command) : Prop :=
  (e.result = .ok 0 ∧ e.report = "")
    ∨ e.result = .ok 1 ∧ e.out = ""
      ∧ ∃ message, e.report = "porttrack " ++ c.text ++ " failed: " ++ message

/-- A failure that is reported is a clean ending. -/
theorem endsCleanly_failed (s : Session) (c : Command) (e : AnalysisError) :
    (failed s c e).EndsCleanly c := by
  refine Or.inr ⟨rfl, rfl, e.message ++ "\n" ++
    (if e.kind = .unforeseen then "Run with --verbose for more details.\n" else ""), ?_⟩
  simp [failed, String.append_assoc, toString]

/-- What is passed on is no clean ending. -/
theorem not_endsCleanly_of_error {ending : Ending} {c : Command} {fatal : Fatal}
    (h : ending.result = .error fatal) :
    ¬ ending.EndsCleanly c := by
  rintro (⟨hresult, -⟩ | ⟨hresult, -⟩) <;> cases h.symm.trans hresult

/-- All paths of reports can be shown. -/
def CanShow (d : Files.Disk) (written : List Files.Path) : Prop :=
  ∀ p ∈ written, ∃ shown, shownPath d p = .ok shown

/-- The lines about reports are complete if every path can be shown. -/
theorem snd_writtenText_eq_ok_iff {written : List Files.Path} :
    (writtenText d written).2 = .ok () ↔ CanShow d written := by
  induction written with
  | nil => exact iff_of_true rfl (List.forall_mem_nil _)
  | cons p rest ih =>
    rw [CanShow] at ih ⊢
    rw [List.forall_mem_cons, writtenText]
    cases shownPath d p with
    | error e => simp
    | ok shown => simpa using ih

/-- What comes of an analysis.  If it fails, this is reported; otherwise it ends cleanly exactly if
the paths of all its reports can be shown. -/
structure Analyzes (ran : Except AnalysisError Analysis.Outcome × Session) (ending : Ending) :
    Prop where
  fails : ∀ e, ran.1 = .error e → ending.EndsCleanly .analyze
  returns : ∀ o, ran.1 = .ok o →
    (ending.EndsCleanly .analyze ↔ CanShow ran.2.disk o.written)

theorem analyzes_executeAnalyze (r : Runtime) (s : Session) (plugins : List Plugin)
    (a : Arguments) :
    Analyzes ((Analysis.run r plugins (requestOf a)).run.run s)
      (executeAnalyze r s plugins a) := by
  unfold executeAnalyze
  cases (Analysis.run r plugins (requestOf a)).run.run s with
  | mk result later =>
    cases result with
    | error e => exact ⟨fun _ _ => endsCleanly_failed _ _ _, fun _ h => nomatch h⟩
    | ok o =>
      refine ⟨fun _ h => (nomatch h), fun _ h => ?_⟩
      cases h
      rw [← snd_writtenText_eq_ok_iff]
      simp only
      cases writtenText later.disk o.written with
      | mk text shown =>
        cases shown with
        | error e =>
          have hbroken : ¬ (Ending.mk later (.error (.shown e)) text "").EndsCleanly .analyze :=
            not_endsCleanly_of_error rfl
          exact iff_of_false hbroken (fun h => by cases h)
        | ok _ => exact iff_of_true (Or.inl ⟨rfl, rfl⟩) rfl

/-- Listing the gaps leaves the session as it is. -/
theorem run_gapsOf (r : Runtime) (s : Session) (a : Arguments) :
    (gapsOf r a).run.run s =
      (gapsIn r s.disk (.ofString a.project) (a.settings.map .ofString), s) := by
  unfold gapsOf gapsIn
  rw [Analysis.run_bind, Analysis.run_take]
  simp only [Log.Step.ofResult, Session.logAll_nil]
  cases hsettings : Analysis.settingsOf r s.disk (.ofString a.project)
    (a.settings.map .ofString) with
  | error e => rfl
  | ok settings =>
    simp only
    rw [Analysis.run_bind, Analysis.run_take]
    simp only [Session.logAll_nil]
    cases htables : Analysis.tablesOf r s.disk settings with
    | error e => simp [bind, Except.bind, htables]
    | ok tables => simp [bind, Except.bind, htables]; rfl

/-- What comes of listing the gaps of a project. -/
structure ListsGaps (r : Runtime) (d : Files.Disk) (project : Files.Path)
    (file : Option Files.Path) (ending : Ending) : Prop where
  disk : ending.session.disk = d
  lists : ∀ gaps, gapsIn r d project file = .ok gaps →
    ending.result = .ok 0 ∧ ending.out = gapsText gaps ++ "\n" ∧ ending.report = ""
  refuses : ∀ e, gapsIn r d project file = .error e → e.kind = .refusal →
    ending.result = .ok 1 ∧ ending.out = ""
      ∧ ending.report = "porttrack gaps failed: " ++ e.message ++ "\n"
  breaks : ∀ e, Unexpected r d project file e →
    ending.result = .error (.analysis e) ∧ ending.out = "" ∧ ending.report = ""

theorem listsGaps_executeGaps (r : Runtime) (s : Session) (a : Arguments) :
    ListsGaps r s.disk (.ofString a.project) (a.settings.map .ofString) (executeGaps r s a) := by
  unfold executeGaps
  rw [run_gapsOf]
  constructor
  · cases gapsIn r s.disk (.ofString a.project) (a.settings.map .ofString) with
    | ok gaps => rfl
    | error e =>
      simp only
      split <;> rfl
  · intro gaps hgaps
    rw [hgaps]
    exact ⟨rfl, rfl, rfl⟩
  · intro e he hkind
    rw [he]
    simp [hkind, failed, Command.text, toString, String.append_assoc]
  · intro e he
    obtain ⟨he, hkind⟩ := unexpected_iff.1 he
    rw [he]
    simp [hkind]

/-- The list of gaps ends cleanly unless something other than a refusal comes up. -/
theorem ListsGaps.endsCleanly_iff {ending : Ending} (h : ListsGaps r d project file ending) :
    ending.EndsCleanly .gaps ↔ ∀ e, ¬ Unexpected r d project file e := by
  constructor
  · intro hclean e he
    exact not_endsCleanly_of_error (h.breaks e he).1 hclean
  · intro hexpected
    cases hgaps : gapsIn r d project file with
    | ok gaps =>
      obtain ⟨hresult, -, hreport⟩ := h.lists gaps hgaps
      exact Or.inl ⟨hresult, hreport⟩
    | error e =>
      have hkind : e.kind = .refusal := by
        by_contra hkind
        exact hexpected e (unexpected_iff.2 ⟨hgaps, hkind⟩)
      obtain ⟨hresult, hout, hreport⟩ := h.refuses e hgaps hkind
      exact Or.inr ⟨hresult, hout, _, hreport.trans String.append_assoc⟩

section Commands

variable (r : Runtime) (s : Session) {later : Session} (plugins : List Plugin)
  {words : List String} {a : Arguments} (h : Arguments.ofWords words = .ok a)
  (hconfigure : s.configure a.verbose (a.command = .gaps) (a.logFile.map .ofString) =
    (later, .ok ()))

include h hconfigure

theorem execute_of_configure :
    execute r s plugins words = executeCommand r later plugins a := by
  simp [execute, h, hconfigure]

/-- How the analysis of a project ends, by what its run gives. -/
theorem analyzes_execute (hcommand : a.command = .analyze) :
    Analyzes ((Analysis.run r plugins (requestOf a)).run.run later)
      (execute r s plugins words) := by
  rw [execute_of_configure r s plugins h hconfigure, executeCommand, hcommand]
  exact analyzes_executeAnalyze r later plugins a

/-- How the list of gaps ends, by what the settings and the tables give. -/
theorem listsGaps_execute (hcommand : a.command = .gaps) :
    ListsGaps r later.disk (.ofString a.project) (a.settings.map .ofString)
      (execute r s plugins words) := by
  rw [execute_of_configure r s plugins h hconfigure, executeCommand, hcommand]
  exact listsGaps_executeGaps r later a

end Commands

/-! ### The usual words -/

/-- A word that does not look like an option. -/
def IsOperand (word : String) : Prop :=
  word.toList.head? ≠ some '-'

/-- The words behind the command: a project, and a file with settings. -/
def operandWords (project settings : Option String) : List String :=
  project.toList ++ settings.toList.flatMap fun w => ["--config", w]

/-- A word that does not look like an option is plain, whatever form is asked for. -/
theorem rolesOf_cons_operand (f : Form) {word : String} (h : IsOperand word)
    (rest : List String) :
    rolesOf f (word :: rest) = (rolesOf f rest).map ((word, .plain) :: ·) := by
  have hdashes : word ≠ "--" := by
    rintro rfl
    exact h rfl
  have hplain : roleOf f word = .ok .plain := if_pos h
  rw [rolesOf, if_neg hdashes, hplain]

section Operands

variable {project settings : Option String} (hproject : ∀ w ∈ project, IsOperand w)
  (hsettings : ∀ w ∈ settings, IsOperand w)

include hproject hsettings

/-- The roles of the words behind the command. -/
theorem rolesOf_operandWords (f : Form) {role : Role} (h : roleOf f "--config" = .ok role) :
    rolesOf f (operandWords project settings) =
      .ok (project.toList.map (fun w => (w, .plain)) ++
        settings.toList.flatMap fun w => [("--config", role), (w, .plain)]) := by
  have hconfig : ∀ w, IsOperand w →
      rolesOf f ["--config", w] = .ok [("--config", role), (w, .plain)] := by
    intro w hw
    rw [rolesOf, if_neg (by decide), h]
    simp only
    rw [rolesOf_cons_operand f hw]
    rfl
  cases settings with
  | none =>
    cases project with
    | none => rfl
    | some p => exact rolesOf_cons_operand f (hproject p rfl) []
  | some w =>
    have hw := hconfig w (hsettings w rfl)
    cases project with
    | none => exact hw
    | some p =>
      refine (rolesOf_cons_operand f (hproject p rfl) ["--config", w]).trans ?_
      rw [hw]
      rfl

/-- The words behind the command are read as they are meant. -/
theorem readCommand_operandWords :
    readCommand .gaps (operandWords project settings) =
      .ok ⟨[], settings.toList.map fun w => (.settings, w), none, project, []⟩ := by
  have hconfig : roleOf Command.gaps.form "--config" =
      .ok (.option (.setting .settings) .nothing) := by
    simp [roleOf, Form.effect?, Command.form, gapsForm, sharedOptions]
  rw [readCommand, rolesOf_operandWords hproject hsettings _ hconfig]
  cases project <;> cases settings <;> rfl

/-- A project and a file with settings are read off the words. -/
theorem ofWords_gapsWords :
    Arguments.ofWords ("gaps" :: operandWords project settings) =
      .ok ⟨.gaps, false, none, project.getD ".", settings, none, true⟩ := by
  have hgaps : IsOperand "gaps" := by
    rw [IsOperand]
    decide
  have hunknown : mainForm.effect? "--config" = none := by
    simp [Form.effect?, mainForm, sharedOptions]
  have hconfig : roleOf mainForm "--config" = .ok .unknown := by
    simp only [roleOf, hunknown]
    decide +kernel
  have hoperands := rolesOf_operandWords hproject hsettings mainForm hconfig
  have hroles := rolesOf_cons_operand mainForm hgaps (operandWords project settings)
  rw [hoperands] at hroles
  have hcommand : Command.ofText? "gaps" = some .gaps := Command.ofText?_text .gaps
  rw [Arguments.ofWords, hroles]
  simp only [Except.map, readWords, map_fst_rolesOf mainForm hoperands, hcommand,
    readCommand_operandWords hproject hsettings]
  cases settings <;> rfl

end Operands

/-! ### Two disks -/

/-- A session on a disk with a single file, in its root directory. -/
def sessionWith (name text : String) : Session :=
  .start (.unguarded (.directory [(name, .file text.toUTF8)])) ""

/-- The words for the list of gaps by a file with settings. -/
theorem ofWords_gaps_settings {w : String} (h : IsOperand w) :
    Arguments.ofWords ["gaps", "--config", w] =
      .ok ⟨.gaps, false, none, ".", some w, none, true⟩ :=
  @ofWords_gapsWords none (some w) (fun _ hnone => nomatch hnone)
    fun _ hw => Option.some.inj hw ▸ h

/-- Why something fails. -/
def failure? {ε α : Type} : Except ε α → Option ε
  | .error e => some e
  | .ok _ => none

/-- Settings that fail make the list of gaps fail. -/
theorem exists_gapsIn_eq_error {message : String} {kind : FailureKind}
    (h : (failure? (Analysis.settingsOf r d project file)).map (fun e => (e.message, e.kind)) =
      some (message, kind)) :
    ∃ e, gapsIn r d project file = .error e ∧ e.message = message ∧ e.kind = kind := by
  cases hsettings : Analysis.settingsOf r d project file with
  | error e =>
    rw [hsettings] at h
    obtain ⟨hmessage, hkind⟩ := Prod.mk.inj (Option.some.inj h)
    exact ⟨.settings e, gapsIn_eq_error_iff.2 (Or.inl ⟨e, hsettings, rfl⟩), hmessage, hkind⟩
  | ok settings =>
    rw [hsettings] at h
    cases h

end CommandLine

end SurfaceCoverage
