import SurfaceCoverage.Proofs.Families
import SurfaceCoverage.Proofs.Joining
import SurfaceCoverage.Proofs.Slots

/-!
# What generated code can do to the resolver

Generated code that cannot be read registers nothing, and a registration whose target class is
missing is left unmatched.  A missing identifier is left unmatched as well where identifiers are
compared as they are; where they have to change case it stops the resolver.  So does a text for the
path to generated code that no path may be.

**Results.**
* `join_of_readable`, `join_of_not_readable`: what a missing identifier does to the join.
* `resolveFamily_of_isHarmless`, `resolveFamily_of_not_isHarmless`: how a family is resolved.
* `Settings.resolves_iff_isHarmless`: when the families of a settings file are all resolved.
-/

namespace SurfaceCoverage

namespace Registry

/-! ### Missing identifiers -/

/-- The registrations have the identifiers that they need: none of them is missing, or identifiers
are compared as they are. -/
def Readable (n : Normalization) (rs : List Registration) : Prop :=
  n = .none ∨ ∀ r ∈ rs, r.id.isSome = true

/-- The mapping by last partners: an entry is mapped to the class of the last registration that goes
by its identifier, and left out if there is none or if its class is missing. -/
def lastPartners (n : Normalization) (es : List TableEntry) (rs : List Registration) :
    ClassMapping :=
  ⟨OrderedMap.ofList
    (es.filterMap fun e => (registeredClass? n rs e).map fun t => (e.className, t))⟩

section Join

variable {n : Normalization} {rs : List Registration} {es : List TableEntry}

/-- Readable registrations are gone through without failure. -/
theorem targetsById_of_readable (h : Readable n rs) :
    targetsById n rs = .ok (rs.map fun r => (r.id.map n.apply, r.className)) := by
  rcases h with rfl | hid
  · refine targetsById_eq_ok_iff.2 (List.forall₂_map_right_iff.2 (List.forall₂_same.2 ?_))
    intro r _
    refine ⟨?_, rfl⟩
    rw [normalizedId]
    cases r.id with
    | none => exact if_pos rfl
    | some id => rfl
  · exact targetsById_of_forall_isSome hid

/-- Readable registrations map entries by their last partners. -/
theorem join_of_readable (h : Readable n rs) :
    join n es rs = .ok (lastPartners n es rs) := by
  rw [join, targetsById_of_readable h, lastPartners]
  simp only [joined, targetFor_eq_registeredClass?]

/-- An identifier that has to change case and is missing stops the join. -/
theorem targetsById_of_not_readable (h : ¬ Readable n rs) :
    targetsById n rs = .error ⟨n⟩ := by
  obtain ⟨hcase, hmissing⟩ := not_or.1 h
  induction rs with
  | nil => exact absurd (fun r hr => by cases hr) hmissing
  | cons r rest ih =>
    rw [targetsById, normalizedId]
    cases hid : r.id with
    | none => rw [if_neg hcase]
    | some id =>
      have hrest : ¬ ∀ r ∈ rest, r.id.isSome = true := by
        intro hall
        refine hmissing (List.forall_mem_cons.2 ⟨?_, hall⟩)
        rw [hid]
        rfl
      rw [ih (not_or.2 ⟨hcase, hrest⟩) hrest]

/-- So does the join. -/
theorem join_of_not_readable (h : ¬ Readable n rs) :
    join n es rs = .error ⟨n⟩ := by
  rw [join, targetsById_of_not_readable h]

end Join

/-! ### One family -/

variable {d : Files.Disk} {table : Json} {f : Family}

/-- The text of the generated code of a family: that of its file, and none where the file cannot be
read or holds no text. -/
def generatedOf (d : Files.Disk) (f : Family) : String :=
  ((d.readText f.generated).toOption).getD ""

/-- Generated code that cannot be read is an empty text. -/
theorem result_generatedText (hfit : d.unfit? f.generated = none) :
    (generatedText d f).result = .ok (generatedOf d f) := by
  unfold generatedText generatedOf
  cases htext : d.readText f.generated with
  | ok text => rfl
  | error e =>
    cases e with
    | encoding e => rfl
    | file e =>
      have hread : d.read f.generated = .error e := by
        unfold Files.Disk.readText at htext
        split at htext
        · next hread =>
          cases htext
          exact hread
        · split at htext <;> cases htext
      simp only [Files.Disk.isUnfit_of_read hfit hread, Bool.false_eq_true, if_false]
      rfl

/-- A text that no path may be stops the resolver. -/
theorem result_generatedText_of_unfit {reason : String}
    (h : d.unfit? f.generated = some reason) :
    (generatedText d f).result = .error (.badPath ⟨.unfit reason, f.generated.text⟩) := by
  rw [generatedText, Files.Disk.readText, Files.Disk.read_of_unfit h]
  rfl

/-- The pattern has both groups of a registration. -/
def HasGroups (p : Pattern.Named) : Prop :=
  ∃ id type, p.number? idGroup = some id ∧ p.number? typeGroup = some type

theorem exists_registrations {p : Pattern.Named} (h : HasGroups p) (text : String) :
    ∃ rs, registrations p text = .ok rs := by
  obtain ⟨id, type, hid, htype⟩ := h
  exact ⟨_, registrationsOf_eq_ok hid htype _⟩

/-- The generated code of a family cannot stop the resolver: its path is a text that a path may be,
and no registration that its pattern finds there lacks an identifier that has to change case. -/
def IsHarmless (d : Files.Disk) (f : Family) : Prop :=
  d.unfit? f.generated = none
    ∧ (f.normalization = .none
      ∨ ∀ r, Shows f.pattern (generatedOf d f) r → r.id.isSome = true)

/-- What stops the resolver at a family. -/
def Family.fault (d : Files.Disk) (f : Family) : ResolveError :=
  match d.unfit? f.generated with
  | some reason => .badPath ⟨.unfit reason, f.generated.text⟩
  | none => .lacksId ⟨f.normalization⟩

/-- Harmless generated code, by the registrations that are found in it. -/
theorem isHarmless_iff {rs : List Registration}
    (h : registrations f.pattern (generatedOf d f) = .ok rs) :
    IsHarmless d f ↔ d.unfit? f.generated = none ∧ Readable f.normalization rs := by
  simp only [IsHarmless, Readable, mem_registrations_iff h]

section Family

variable {es : List TableEntry} {rs : List Registration}
  (hes : entries table f.entries = .ok es)
  (hrs : registrations f.pattern (generatedOf d f) = .ok rs)
include hes hrs

/-- A family with harmless generated code has the mapping by last partners. -/
theorem resolveFamily_of_isHarmless (h : IsHarmless d f) :
    (resolveFamily d table f).result = .ok (lastPartners f.normalization es rs) := by
  obtain ⟨hfit, hreadable⟩ := (isHarmless_iff hrs).1 h
  exact resolveFamily_eq_ok_iff.2
    ⟨es, _, rs, hes, result_generatedText hfit, hrs, join_of_readable hreadable⟩

/-- Any other one fails. -/
theorem resolveFamily_of_not_isHarmless (h : ¬ IsHarmless d f) :
    (resolveFamily d table f).result = .error (f.fault d) := by
  rw [isHarmless_iff hrs, not_and] at h
  unfold resolveFamily
  rw [hes]
  simp only [Log.Step.result_andThen, Family.fault]
  cases hunfit : d.unfit? f.generated with
  | some reason =>
    rw [result_generatedText_of_unfit hunfit]
    rfl
  | none =>
    rw [result_generatedText hunfit]
    simp only [Except.bind, joinText, hrs, join_of_not_readable (h hunfit)]

/-- A family has a mapping exactly if its generated code is harmless. -/
theorem maps_iff_isHarmless {m : ClassMapping} :
    Maps d table f m ↔ IsHarmless d f ∧ m = lastPartners f.normalization es rs := by
  rw [maps_iff]
  by_cases h : IsHarmless d f
  · simp only [resolveFamily_of_isHarmless hes hrs h, h, true_and, Except.ok.injEq, eq_comm]
  · simp only [resolveFamily_of_not_isHarmless hes hrs h, h, false_and, reduceCtorEq]

end Family

/-- A family that can be resolved: its entries are listed, and its pattern has its groups. -/
def Resolvable (table : Json) (f : Family) : Prop :=
  HasGroups f.pattern ∧ ∃ es, entries table f.entries = .ok es

/-- A family that can be resolved is, exactly if its generated code is harmless. -/
theorem exists_maps_iff (h : Resolvable table f) :
    (∃ m, Maps d table f m) ↔ IsHarmless d f := by
  obtain ⟨hgroups, es, hes⟩ := h
  obtain ⟨rs, hrs⟩ := exists_registrations hgroups (generatedOf d f)
  simp only [maps_iff_isHarmless hes hrs, exists_and_left, exists_eq, and_true]

theorem resolveFamily_eq_error_iff (h : Resolvable table f) {e : ResolveError} :
    (resolveFamily d table f).result = .error e ↔ ¬ IsHarmless d f ∧ e = f.fault d := by
  obtain ⟨hgroups, es, hes⟩ := h
  obtain ⟨rs, hrs⟩ := exists_registrations hgroups (generatedOf d f)
  by_cases hf : IsHarmless d f
  · simp only [resolveFamily_of_isHarmless hes hrs hf, hf, reduceCtorEq, not_true_eq_false,
      false_and]
  · simp only [resolveFamily_of_not_isHarmless hes hrs hf, hf, Except.error.injEq,
      not_false_eq_true, true_and, eq_comm]

/-! ### All families -/

theorem LastClaim.mem {families : List Family} {category : String}
    (h : LastClaim families category f) :
    f ∈ families := by
  obtain ⟨before, after, rfl, -, -⟩ := h
  exact List.mem_append_right _ List.mem_cons_self

/-- By induction on the families: if each is resolved, all are. -/
theorem resolveAll_of_forall_maps {families : List Family}
    (h : ∀ f ∈ families, ∃ m, Maps d table f m) (known : OrderedMap String ClassMapping) :
    ∃ mappings, (resolveAll d table known families).result = .ok mappings := by
  induction families generalizing known with
  | nil => exact ⟨known, rfl⟩
  | cons f rest ih =>
    obtain ⟨⟨m, hm⟩, hrest⟩ := List.forall_mem_cons.1 h
    obtain ⟨mappings, hmappings⟩ := ih hrest (known.insert f.category m)
    refine ⟨mappings, ?_⟩
    rw [resolveAll, Log.Step.result_andThen, maps_iff.1 hm]
    exact hmappings

/-- The first family that cannot be resolved decides the error. -/
theorem exists_split_of_resolveAll_error {families : List Family}
    {known : OrderedMap String ClassMapping} {e : ResolveError}
    (h : (resolveAll d table known families).result = .error e) :
    ∃ before f after, families = before ++ f :: after
      ∧ (∀ g ∈ before, ∃ m, Maps d table g m)
      ∧ (resolveFamily d table f).result = .error e := by
  induction families generalizing known with
  | nil => cases h
  | cons f rest ih =>
    rw [resolveAll, Log.Step.result_andThen] at h
    cases hfamily : (resolveFamily d table f).result with
    | error e' =>
      rw [hfamily] at h
      cases h
      exact ⟨[], f, rest, rfl, List.forall_mem_nil _, hfamily⟩
    | ok m =>
      rw [hfamily] at h
      obtain ⟨before, g, after, rfl, hbefore, hg⟩ := ih h
      refine ⟨f :: before, g, after, rfl, List.forall_mem_cons.2 ⟨?_, hbefore⟩, hg⟩
      exact ⟨m, maps_iff.2 hfamily⟩

section Resolvable

variable {families : List Family} {known : OrderedMap String ClassMapping}
  (h : ∀ f ∈ families, Resolvable table f)
include h

/-- All families are resolved exactly if the generated code of each is harmless. -/
theorem exists_resolveAll_iff :
    (∃ mappings, (resolveAll d table known families).result = .ok mappings) ↔
      ∀ f ∈ families, IsHarmless d f := by
  constructor
  · rintro ⟨mappings, hmappings⟩ f hf
    exact (exists_maps_iff (h f hf)).1 (maps_of_resolveAll hmappings f hf)
  · intro hall
    exact resolveAll_of_forall_maps (fun f hf => (exists_maps_iff (h f hf)).2 (hall f hf)) known

/-- The first family with harmful generated code decides the error. -/
theorem exists_harmful_of_resolveAll_error {e : ResolveError}
    (he : (resolveAll d table known families).result = .error e) :
    ∃ before f after, families = before ++ f :: after ∧ (∀ g ∈ before, IsHarmless d g)
      ∧ ¬ IsHarmless d f ∧ e = f.fault d := by
  obtain ⟨before, f, after, rfl, hbefore, hf⟩ := exists_split_of_resolveAll_error he
  obtain ⟨hbefores, hafters⟩ := List.forall_mem_append.1 h
  obtain ⟨hharm, hfault⟩ := (resolveFamily_eq_error_iff (hafters f List.mem_cons_self)).1 hf
  exact ⟨before, f, after, rfl,
    fun g hg => (exists_maps_iff (hbefores g hg)).1 (hbefore g hg), hharm, hfault⟩

/-- Where all generated code is harmless, the last family that claims a category has the mapping by
last partners. -/
theorem exists_lastClaim_maps_iff (hharmless : ∀ f ∈ families, IsHarmless d f)
    {category : String} {m : ClassMapping} :
    (∃ f, LastClaim families category f ∧ Maps d table f m) ↔
      ∃ f es rs, LastClaim families category f ∧ entries table f.entries = .ok es
        ∧ registrations f.pattern (generatedOf d f) = .ok rs
        ∧ m = lastPartners f.normalization es rs := by
  constructor
  · rintro ⟨f, hlast, hm⟩
    obtain ⟨hgroups, es, hes⟩ := h f hlast.mem
    obtain ⟨rs, hrs⟩ := exists_registrations hgroups (generatedOf d f)
    exact ⟨f, es, rs, hlast, hes, hrs, ((maps_iff_isHarmless hes hrs).1 hm).2⟩
  · rintro ⟨f, es, rs, hlast, hes, hrs, hm⟩
    exact ⟨f, hlast, (maps_iff_isHarmless hes hrs).2 ⟨hharmless f hlast.mem, hm⟩⟩

end Resolvable

/-! ### Families that are accepted -/

/-- An accepted family has a pattern with both groups. -/
theorem hasGroups_of_ofFields {dialect : Pattern.Dialect} {root : Files.Path}
    {fields : FamilyFields} (h : Family.ofFields dialect root fields = .ok f) :
    HasGroups f.pattern := by
  have hgives := gives_of_ofFields h
  obtain ⟨id, hid⟩ := Option.isSome_iff_exists.1 hgives.hasId
  obtain ⟨type, htype⟩ := Option.isSome_iff_exists.1 hgives.hasType
  exact ⟨id, type, hid, htype⟩

theorem hasGroups_of_readFamilies {dialect : Pattern.Dialect} {root : Files.Path}
    {fields : List FamilyFields} {families : List Family}
    (h : Settings.readFamilies dialect root fields = .ok families) :
    ∀ f ∈ families, HasGroups f.pattern := by
  induction fields generalizing families with
  | nil =>
    cases h
    exact List.forall_mem_nil _
  | cons first rest ih =>
    obtain ⟨family, others, hfirst, hrest, rfl⟩ := Settings.readFamilies_cons_eq_ok_iff.1 h
    exact List.forall_mem_cons.2 ⟨hasGroups_of_ofFields hfirst, ih hrest⟩

/-- The table lists entries under a key, and nothing else. -/
def ListsEntries (table : Json) (key : String) : Prop :=
  ∃ items, table.member? key = some (.list items) ∧ ∀ j ∈ items, ∃ e, IsEntry j e

/-- Entries that are listed and nothing else are found. -/
theorem exists_entries {key : String} (h : ListsEntries table key) :
    ∃ es, entries table key = .ok es := by
  obtain ⟨items, hitems, hall⟩ := h
  have hes : ∃ es, List.Forall₂ IsEntry items es := by
    clear hitems
    induction items with
    | nil => exact ⟨[], .nil⟩
    | cons j rest ih =>
      obtain ⟨⟨e, he⟩, hrest⟩ := List.forall_mem_cons.1 hall
      obtain ⟨es, hes⟩ := ih hrest
      exact ⟨e :: es, .cons he hes⟩
  obtain ⟨es, hes⟩ := hes
  exact ⟨es, entries_eq_ok_iff.2 ⟨items, hitems, hes⟩⟩

end Registry

namespace Settings

open Registry

/-- When generated code stops the resolver.  For accepted families and a registry table with entries
for each of them, everything is resolved exactly if the generated code of no family is harmful; the
first harmful one decides the error.  If so, every category has a mapping, that by last partners of
the last family that claims it, so that a registration without its identifier or its target class
leaves entries unmatched. -/
theorem resolves_iff_isHarmless {runtime : Runtime} {d d' : Files.Disk} {p : Files.Path}
    {root : Option Files.Path} {s : Settings} {r : Resolver} {table : Json}
    (hs : ofFile runtime d p root = .ok s) (hr : Resolver.ofFamilies s.families = .ok r)
    (htable : ∀ f ∈ s.families, ListsEntries table f.entries) :
    ((∃ mappings, (r.resolve d' table).result = .ok mappings) ↔
      ∀ f ∈ s.families, IsHarmless d' f)
    ∧ (∀ mappings, (r.resolve d' table).result = .ok mappings →
      (∀ f ∈ s.families, mappings.contains f.category = true)
      ∧ ∀ category m, mappings.get? category = some m ↔
        ∃ f es rs, LastClaim s.families category f ∧ entries table f.entries = .ok es
          ∧ registrations f.pattern (generatedOf d' f) = .ok rs
          ∧ m = lastPartners f.normalization es rs)
    ∧ ∀ e, (r.resolve d' table).result = .error e →
      ∃ before f after, s.families = before ++ f :: after ∧ (∀ g ∈ before, IsHarmless d' g)
        ∧ ¬ IsHarmless d' f ∧ e = f.fault d' := by
  have hfamilies := Resolver.families_of_ofFamilies hr
  obtain ⟨v, -, hread⟩ := readFamilies_of_ofFile hs
  have hresolvable : ∀ f ∈ s.families, Resolvable table f := fun f hf =>
    ⟨hasGroups_of_readFamilies hread f hf, exists_entries (htable f hf)⟩
  have hresolve : (r.resolve d' table) = resolveAll d' table .empty s.families := by
    rw [Resolver.resolve, hfamilies]
  have hiff : (∃ mappings, (resolveAll d' table .empty s.families).result = .ok mappings) ↔
      ∀ f ∈ s.families, IsHarmless d' f :=
    exists_resolveAll_iff hresolvable
  refine ⟨hresolve ▸ hiff, fun mappings hmappings => ⟨fun f hf => ?_, ?_⟩, ?_⟩
  · obtain ⟨g, -, -, m, -, hget⟩ := Resolver.get?_of_resolve hmappings ⟨f, hfamilies ▸ hf, rfl⟩
    rw [OrderedMap.contains, hget]
    rfl
  · intro category m
    rw [Resolver.get?_resolve_iff hmappings, hfamilies]
    exact exists_lastClaim_maps_iff hresolvable (hiff.1 ⟨mappings, hresolve ▸ hmappings⟩)
  · intro e he
    rw [hresolve] at he
    exact exists_harmful_of_resolveAll_error hresolvable he

/-- Settings with one family, whose identifiers are compared in lower case. -/
def familyText (pattern : String) : String :=
  "registry:\n families:\n  x:\n   entries: e\n   generated: g\n   normalize: lower\n" ++
    "   pattern: " ++ pattern ++ "\n"

/-- A disk with these settings, and with generated code. -/
def familyDisk (pattern code : String) : Files.Disk :=
  .unguarded (.directory [("g", .file code.toUTF8), ("s", .file (familyText pattern).toUTF8)])

/-- A registry table with two entries for the family. -/
def pitTable : Json :=
  .object [("e", .list
    [.object [("name", .text "o"), ("class", .text "Ore")],
      .object [("name", .text "P"), ("class", .text "Pit")]])]

theorem listsEntries_pitTable {families : List Family}
    (h : families.map Family.entries = ["e"]) :
    ∀ f ∈ families, ListsEntries pitTable f.entries := by
  intro f hf
  have hkey : f.entries ∈ families.map Family.entries := List.mem_map_of_mem hf
  rw [h, List.mem_singleton] at hkey
  rw [hkey]
  refine ⟨_, rfl, fun j hj => ?_⟩
  rcases List.mem_pair.1 hj with rfl | rfl
  · exact ⟨⟨"o", "Ore"⟩, _, rfl, rfl, rfl⟩
  · exact ⟨⟨"P", "Pit"⟩, _, rfl, rfl, rfl⟩

/-- Generated code in which a registration lacks its target class. -/
def typelessDisk : Files.Disk :=
  familyDisk "(?P<id>[OP])(?P<type>[a-z])?" "Oo P"

/-- The registration without its target class is harmless, and leaves its entry unmatched. -/
theorem resolves_typelessDisk :
    ∃ s r mappings m,
      ofFile .usual typelessDisk (.ofString "/s") none = .ok s
      ∧ Resolver.ofFamilies s.families = .ok r
      ∧ (∀ f ∈ s.families, ListsEntries pitTable f.entries)
      ∧ (∀ f ∈ s.families, IsHarmless typelessDisk f)
      ∧ (r.resolve typelessDisk pitTable).result = .ok mappings
      ∧ mappings.get? "x" = some m ∧ m.entries.toList = [("Ore", "o")] := by
  have hrun :
      ((ofFile .usual typelessDisk (.ofString "/s") none).toOption.bind fun s =>
        (Resolver.ofFamilies s.families).toOption.bind fun r =>
          (r.resolve typelessDisk pitTable).result.toOption.bind fun mappings =>
            (mappings.get? "x").map fun m =>
              (s.families.map Family.entries, m.entries.toList)) =
        some (["e"], [("Ore", "o")]) := by
    decide +kernel
  obtain ⟨s, hs, hrun⟩ := Option.bind_eq_some_iff.1 hrun
  obtain ⟨r, hr, hrun⟩ := Option.bind_eq_some_iff.1 hrun
  obtain ⟨mappings, hmappings, hrun⟩ := Option.bind_eq_some_iff.1 hrun
  obtain ⟨m, hm, hfound⟩ := Option.map_eq_some_iff.1 hrun
  simp only [Prod.mk.injEq] at hfound
  have hs := eq_ok_of_toOption hs
  have hr := eq_ok_of_toOption hr
  have hmappings := eq_ok_of_toOption hmappings
  have htable := listsEntries_pitTable hfound.1
  obtain ⟨hiff, -, -⟩ := @resolves_iff_isHarmless _ _ typelessDisk _ _ s r _ hs hr htable
  exact ⟨s, r, mappings, m, hs, hr, htable, hiff.1 ⟨mappings, hmappings⟩, hmappings, hm,
    hfound.2⟩

/-- Generated code in which a registration lacks its identifier. -/
def idlessDisk : Files.Disk :=
  familyDisk "(?P<id>[OP])?(?P<type>[a-z])" "o"

/-- The family is accepted, its entries are listed, and its generated code stops the resolver. -/
theorem stopped_of_idlessDisk :
    ∃ s r,
      ofFile .usual idlessDisk (.ofString "/s") none = .ok s
      ∧ Resolver.ofFamilies s.families = .ok r
      ∧ (∀ f ∈ s.families, ListsEntries pitTable f.entries)
      ∧ (r.resolve idlessDisk pitTable).result = .error (.lacksId ⟨.lower⟩) := by
  have hrun :
      ((ofFile .usual idlessDisk (.ofString "/s") none).toOption.bind fun s =>
        (Resolver.ofFamilies s.families).toOption.map fun r =>
          (s.families.map Family.entries,
            match (r.resolve idlessDisk pitTable).result with
            | .ok _ => none
            | .error e => some e)) =
        some (["e"], some (.lacksId ⟨.lower⟩)) := by
    decide +kernel
  obtain ⟨s, hs, hrun⟩ := Option.bind_eq_some_iff.1 hrun
  obtain ⟨r, hr, hfound⟩ := Option.map_eq_some_iff.1 hrun
  simp only [Prod.mk.injEq] at hfound
  obtain ⟨hentries, herror⟩ := hfound
  refine ⟨s, r, eq_ok_of_toOption hs, eq_ok_of_toOption hr, listsEntries_pitTable hentries, ?_⟩
  split at herror
  · cases herror
  · next e he =>
    cases herror
    exact he

end Settings

end SurfaceCoverage
