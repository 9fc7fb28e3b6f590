import Mathlib.Data.List.Forall2
import SurfaceCoverage.Registry.Resolver

/-!
# What the registry resolves to

A family is resolved in four stages: its entries are read from the registry table, its generated
code is searched for registrations, both are joined, and the mapping is put under its category.
Each stage that succeeds is described by what is in its outcome.

**Results.**
* `entries_eq_ok_iff`: the entries of a table are the listed objects, all with both texts.
* `mem_registrations_iff`: the registrations are the matches of the pattern.
* `registered_of_get?_join`: a class is only mapped to a target class with the same identifier.
* `get?_of_resolveAll`: a category has the mapping of the last family that claims it.
-/

namespace SurfaceCoverage

/-- What is right of a relation between two lists has its counterpart on the left. -/
theorem exists_of_mem_right {α β : Type} {R : α → β → Prop} {l : List α} {l' : List β}
    (h : List.Forall₂ R l l') {b : β} (hb : b ∈ l') :
    ∃ a ∈ l, R a b := by
  induction h with
  | nil => cases hb
  | @cons a b' rest rest' hab _ ih =>
    rcases List.mem_cons.1 hb with rfl | hlater
    · exact ⟨a, List.mem_cons_self, hab⟩
    · obtain ⟨a', ha', hR⟩ := ih hlater
      exact ⟨a', List.mem_cons_of_mem a ha', hR⟩

namespace Registry

/-! ### Entries -/

/-- The document is an object with both texts of an entry. -/
def IsEntry (j : Json) (e : TableEntry) : Prop :=
  ∃ members, j = .object members
    ∧ OrderedMap.lookup "name" members = some (.text e.id)
    ∧ OrderedMap.lookup "class" members = some (.text e.className)

/-- The table lists an entry under a key. -/
def Lists (table : Json) (key : String) (e : TableEntry) : Prop :=
  ∃ items, table.member? key = some (.list items) ∧ ∃ j ∈ items, IsEntry j e

theorem entryOf_eq_ok_iff {key : String} {index : Nat} {j : Json} {e : TableEntry} :
    entryOf key index j = .ok e ↔ IsEntry j e := by
  constructor
  · intro h
    unfold entryOf at h
    split at h
    · next members =>
      split at h
      · next id className hid hclass =>
        cases h
        simp only [Option.bind_eq_some_iff, Json.text?_eq_some_iff] at hid hclass
        obtain ⟨_, hid, rfl⟩ := hid
        obtain ⟨_, hclass, rfl⟩ := hclass
        exact ⟨members, rfl, hid, hclass⟩
      · cases h
    · cases h
  · rintro ⟨members, rfl, hid, hclass⟩
    exact entryOf_object hid hclass

/-- Reading entries succeeds when every document is an entry. -/
theorem entriesFrom_eq_ok_iff {key : String} {items : List Json} {index : Nat}
    {es : List TableEntry} :
    entriesFrom key index items = .ok es ↔ List.Forall₂ IsEntry items es := by
  induction items generalizing index es with
  | nil => rw [entriesFrom, Except.ok.injEq, eq_comm, List.forall₂_nil_left_iff]
  | cons j rest ih =>
    rw [entriesFrom, List.forall₂_cons_left_iff]
    simp only [← @ih (index + 1), ← @entryOf_eq_ok_iff key index]
    cases hentry : entryOf key index j with
    | error fault => simp
    | ok e =>
      cases hrest : entriesFrom key (index + 1) rest with
      | error fault => simp
      | ok others => simp [eq_comm]

theorem entries_eq_ok_iff {table : Json} {key : String} {es : List TableEntry} :
    entries table key = .ok es ↔
      ∃ items, table.member? key = some (.list items) ∧ List.Forall₂ IsEntry items es := by
  unfold entries
  constructor
  · intro h
    split at h
    · next items hitems =>
      exact ⟨items, hitems, entriesFrom_eq_ok_iff.1 h⟩
    · cases h
  · rintro ⟨items, hitems, hes⟩
    rw [hitems]
    exact entriesFrom_eq_ok_iff.2 hes

/-- The entries that are read are among those that the table lists. -/
theorem lists_of_mem_entries {table : Json} {key : String} {es : List TableEntry}
    (h : entries table key = .ok es) {e : TableEntry} (he : e ∈ es) :
    Lists table key e := by
  obtain ⟨items, hitems, hes⟩ := entries_eq_ok_iff.1 h
  exact ⟨items, hitems, exists_of_mem_right hes he⟩

/-! ### Registrations -/

/-- A match of the pattern in a text shows a registration. -/
def Shows (p : Pattern.Named) (text : String) (r : Registration) : Prop :=
  ∃ id type, p.number? idGroup = some id ∧ p.number? typeGroup = some type
    ∧ ∃ m ∈ p.expr.matches text.toList, registrationOf id type m = r

theorem mem_registrations_iff {p : Pattern.Named} {text : String} {rs : List Registration}
    (h : registrations p text = .ok rs) {r : Registration} :
    r ∈ rs ↔ Shows p text r := by
  unfold registrations registrationsOf at h
  split at h
  · next hempty =>
    cases h
    have hnone : p.expr.matches text.toList = [] := List.isEmpty_iff.1 hempty
    simp [Shows, hnone]
  · split at h
    · next id type hid htype =>
      cases h
      rw [List.mem_map]
      constructor
      · intro hmem
        exact ⟨id, type, hid, htype, hmem⟩
      · rintro ⟨id', type', hid', htype', hmem⟩
        cases Option.some.inj (hid.symm.trans hid')
        cases Option.some.inj (htype.symm.trans htype')
        exact hmem
    · cases h
    · cases h

/-! ### The join -/

/-- The pair of a comparable identifier and a target class is that of a registration. -/
def IsTargetOf (n : Normalization) (r : Registration) (p : Option String × Option String) : Prop :=
  normalizedId n r = .ok p.1 ∧ r.className = p.2

/-- Looking up targets succeeds when every registration has a comparable identifier. -/
theorem targetsById_eq_ok_iff {n : Normalization} {rs : List Registration}
    {pairs : List (Option String × Option String)} :
    targetsById n rs = .ok pairs ↔ List.Forall₂ (IsTargetOf n) rs pairs := by
  induction rs generalizing pairs with
  | nil => rw [targetsById, Except.ok.injEq, eq_comm, List.forall₂_nil_left_iff]
  | cons r rest ih =>
    rw [targetsById, List.forall₂_cons_left_iff]
    simp only [← ih, IsTargetOf]
    cases hid : normalizedId n r with
    | error fault => simp
    | ok id =>
      cases hrest : targetsById n rest with
      | error fault => simp
      | ok others => simp [eq_comm]

theorem normalizedId_eq_ok_some {n : Normalization} {r : Registration} {id : String}
    (h : normalizedId n r = .ok (some id)) :
    ∃ written, r.id = some written ∧ n.apply written = id := by
  unfold normalizedId at h
  split at h
  · next written hwritten =>
    cases h
    exact ⟨written, hwritten, rfl⟩
  · split at h <;> cases h

/-- A class that is mapped has an entry, and the target class is registered under the identifier of
the entry, up to normalization. -/
theorem registered_of_get?_join {n : Normalization} {es : List TableEntry}
    {rs : List Registration} {m : ClassMapping} (h : join n es rs = .ok m)
    {name target : String} (hget : m.entries.get? name = some target) :
    ∃ e ∈ es, e.className = name
      ∧ ∃ r ∈ rs, ∃ id, r.id = some id ∧ n.apply id = n.apply e.id ∧ r.className = some target := by
  unfold join at h
  cases htargets : targetsById n rs with
  | error fault =>
    rw [htargets] at h
    cases h
  | ok pairs =>
    rw [htargets] at h
    cases h
    rw [OrderedMap.get?_ofList] at hget
    have hjoined := OrderedMap.mem_of_lastValue_eq_some hget
    obtain ⟨e, he, hpair⟩ := List.mem_filterMap.1 hjoined
    obtain ⟨t, ht, heq⟩ := Option.map_eq_some_iff.1 hpair
    cases heq
    -- the last registration with the identifier of the entry has a target class
    unfold targetFor at ht
    rw [OrderedMap.get?_ofList, Option.join_eq_some_iff] at ht
    obtain ⟨r, hr, hid, hclass⟩ :=
      exists_of_mem_right (targetsById_eq_ok_iff.1 htargets)
        (OrderedMap.mem_of_lastValue_eq_some ht)
    obtain ⟨id, hwritten, hsame⟩ := normalizedId_eq_ok_some hid
    exact ⟨e, he, rfl, r, hr, id, hwritten, hsame, hclass⟩

/-! ### Families -/

variable {d : Files.Disk} {table : Json}

/-- A family is resolved when all of its stages succeed. -/
theorem resolveFamily_eq_ok_iff {f : Family} {m : ClassMapping} :
    (resolveFamily d table f).result = .ok m ↔
      ∃ es text rs, entries table f.entries = .ok es
        ∧ (generatedText d f).result = .ok text
        ∧ registrations f.pattern text = .ok rs
        ∧ join f.normalization es rs = .ok m := by
  unfold resolveFamily
  cases hentries : entries table f.entries with
  | error fault => simp
  | ok es =>
    simp only [Log.Step.result_andThen]
    cases htext : (generatedText d f).result with
    | error fault => simp [Except.bind]
    | ok text =>
      simp only [Except.bind, joinText]
      cases hrs : registrations f.pattern text with
      | error fault => simp [hrs]
      | ok rs =>
        cases hjoin : join f.normalization es rs with
        | error fault => simp [hrs, hjoin]
        | ok mapping => simp [hrs, hjoin]

/-- Either a category keeps the mapping that it had, or it has that of one of the families that
claim it. -/
theorem get?_of_resolveAll {families : List Family}
    {known mappings : OrderedMap String ClassMapping}
    (h : (resolveAll d table known families).result = .ok mappings) (category : String) :
    ((∀ f ∈ families, f.category ≠ category) ∧ mappings.get? category = known.get? category)
    ∨ ∃ f ∈ families, f.category = category
        ∧ ∃ m, (resolveFamily d table f).result = .ok m ∧ mappings.get? category = some m := by
  induction families generalizing known with
  | nil =>
    cases h
    exact Or.inl ⟨by simp, rfl⟩
  | cons f rest ih =>
    rw [resolveAll, Log.Step.result_andThen] at h
    cases hfamily : (resolveFamily d table f).result with
    | error fault =>
      rw [hfamily] at h
      cases h
    | ok m =>
      rw [hfamily] at h
      rcases ih h with ⟨hnone, hget⟩ | ⟨g, hg, hcategory, hmapping⟩
      · rw [OrderedMap.get?_insert] at hget
        by_cases hf : f.category = category
        · rw [if_pos hf] at hget
          exact Or.inr ⟨f, List.mem_cons_self, hf, m, hfamily, hget⟩
        · rw [if_neg hf] at hget
          refine Or.inl ⟨?_, hget⟩
          intro g hg
          rcases List.mem_cons.1 hg with rfl | hlater
          · exact hf
          · exact hnone g hlater
      · exact Or.inr ⟨g, List.mem_cons_of_mem f hg, hcategory, hmapping⟩

theorem Resolver.families_of_ofFamilies {families : List Family} {r : Resolver}
    (h : Resolver.ofFamilies families = .ok r) :
    r.families = families := by
  unfold ofFamilies at h
  split at h
  · cases h
  · cases h
    rfl

/-- Every category of a family has the mapping of one of the families that claim it. -/
theorem Resolver.get?_of_resolve {r : Resolver} {mappings : OrderedMap String ClassMapping}
    (h : (r.resolve d table).result = .ok mappings) {category : String}
    (hcategory : ∃ f ∈ r.families, f.category = category) :
    ∃ f ∈ r.families, f.category = category
      ∧ ∃ m, (resolveFamily d table f).result = .ok m ∧ mappings.get? category = some m := by
  rcases get?_of_resolveAll h category with ⟨hnone, _⟩ | hsome
  · obtain ⟨f, hf, hclaims⟩ := hcategory
    exact absurd hclaims (hnone f hf)
  · exact hsome

end Registry

end SurfaceCoverage
