import Mathlib.Logic.Basic
import SurfaceCoverage.Coverage

/-!
# Scoring

An analysis scores the reference classes one by one.  A class is in scope when it is concrete, a
table governs its category, and the table tracks one of its methods; then its record lists those
methods, each once, and says of each whether the counterpart class has the counterpart method.  The
records are put in order by name and category, and records of one name and category stay in the
order of their classes.

**Results.**
* `MethodTables.tableFor_eq_some_iff`: the table of a category, by its route or by default.
* `Analyzer.mem_available_iff`: the methods of a counterpart class come from all target records
  with its folded name.
* `Analyzer.scoring_filterMap_track`: every class in scope has its record, in the order of classes.
* `Analyzer.Scoring.unique`: there is only one scoring.
* `CoverageRecord.inReportOrder_iff`: there is only one way to put records in order, and it is
  stable.
-/

namespace SurfaceCoverage

/-! ### Putting records in order -/

namespace CoverageRecord

/-- Two lists have the same records of each name and category, in the same order. -/
def SameRuns (s s' : List CoverageRecord) : Prop :=
  ∀ name category : String,
    s.filter (fun r => r.name = name ∧ r.category = category) =
      s'.filter (fun r => r.name = name ∧ r.category = category)

/-- A list of records is another one, put in order: by name, then by category, and otherwise as
they were. -/
structure InReportOrder (l s : List CoverageRecord) : Prop where
  perm : s.Perm l
  sorted : s.Pairwise fun r r' => r.name < r'.name ∨ (r.name = r'.name ∧ r.category ≤ r'.category)
  stable : SameRuns s l

/-- Records come by name, and by category where they share one. -/
theorem precedes_iff {r s : CoverageRecord} :
    r.precedes s = true ↔ r.name < s.name ∨ (r.name = s.name ∧ r.category ≤ s.category) := by
  unfold precedes Text.precedes
  by_cases h : r.name = s.name
  · have hlt : ¬ r.name < s.name := by
      rw [h]
      exact String.lt_irrefl s.name
    rw [if_pos h, decide_eq_true_eq]
    exact ⟨fun hle => Or.inr ⟨h, hle⟩, fun hle => (hle.resolve_left hlt).2⟩
  · rw [if_neg h, decide_eq_true_eq]
    simp only [h, false_and, or_false]
    constructor
    · intro hle
      exact String.not_le.1 fun hge => h (String.le_antisymm hle hge)
    · intro hlt
      exact String.not_lt.1 (String.lt_asymm hlt)

/-- The order of records is transitive. -/
theorem precedes_trans {r s t : CoverageRecord} (hrs : r.precedes s = true)
    (hst : s.precedes t = true) :
    r.precedes t = true := by
  rw [precedes_iff] at hrs hst ⊢
  rcases hrs with hrs | ⟨hname, hcategory⟩
  · rcases hst with hst | ⟨hname', _⟩
    · exact Or.inl (String.lt_trans hrs hst)
    · exact Or.inl (hname' ▸ hrs)
  · rcases hst with hst | ⟨hname', hcategory'⟩
    · exact Or.inl (hname ▸ hst)
    · exact Or.inr ⟨hname.trans hname', String.le_trans hcategory hcategory'⟩

/-- Of two records one comes first. -/
theorem precedes_total (r s : CoverageRecord) :
    (r.precedes s || s.precedes r) = true := by
  unfold precedes
  by_cases h : r.name = s.name
  · rw [if_pos h, if_pos h.symm]
    exact Text.precedes_total r.category s.category
  · rw [if_neg h, if_neg (Ne.symm h)]
    exact Text.precedes_total r.name s.name

/-- Members that are all at one place stay in the order in which they came. -/
theorem filter_mergeSort {α : Type} {le : α → α → Bool}
    (trans : ∀ a b c, le a b = true → le b c = true → le a c = true)
    (total : ∀ a b, (le a b || le b a) = true)
    (p : α → Bool) (tied : ∀ a b, p a = true → p b = true → le a b = true) (l : List α) :
    (l.mergeSort le).filter p = l.filter p := by
  have hpairwise : (l.filter p).Pairwise fun a b => le a b = true := by
    refine List.pairwise_of_forall_mem_list ?_
    intro a ha b hb
    exact tied a b (List.mem_filter.1 ha).2 (List.mem_filter.1 hb).2
  have hsub : (l.filter p).Sublist (l.mergeSort le) :=
    List.sublist_mergeSort trans total hpairwise List.filter_sublist
  have hfilter : (l.filter p).Sublist ((l.mergeSort le).filter p) := by
    have h := hsub.filter p
    simpa only [List.filter_filter, Bool.and_self] using h
  exact (hfilter.eq_of_length ((List.mergeSort_perm l le).filter p).length_eq.symm).symm

/-- Sorting puts records in the order of the report. -/
theorem inReportOrder_mergeSort (l : List CoverageRecord) :
    InReportOrder l (l.mergeSort precedes) := by
  refine ⟨List.mergeSort_perm l precedes, ?_, ?_⟩
  · have hsorted := List.pairwise_mergeSort (fun r s t => @precedes_trans r s t) precedes_total l
    exact hsorted.imp precedes_iff.1
  · intro name category
    apply filter_mergeSort (fun r s t => @precedes_trans r s t) precedes_total
    intro r s hr hs
    simp only [decide_eq_true_eq] at hr hs
    have hcategory : r.category = s.category := hr.2.trans hs.2.symm
    refine precedes_iff.2 (Or.inr ⟨hr.1.trans hs.1.symm, ?_⟩)
    exact hcategory ▸ String.le_refl r.category

/-- Records that precede each other are of one name and one category. -/
theorem eq_of_precedes {r s : CoverageRecord} (hrs : r.precedes s = true)
    (hsr : s.precedes r = true) :
    r.name = s.name ∧ r.category = s.category := by
  rw [precedes_iff] at hrs hsr
  rcases hrs with hlt | ⟨hname, hle⟩
  · rcases hsr with hgt | ⟨hname, _⟩
    · exact absurd hgt (String.lt_asymm hlt)
    · exact absurd (hname ▸ hlt) (String.lt_irrefl r.name)
  · rcases hsr with hgt | ⟨_, hge⟩
    · exact absurd (hname ▸ hgt) (String.lt_irrefl r.name)
    · exact ⟨hname, String.le_antisymm hle hge⟩

theorem SameRuns.symm {s s' : List CoverageRecord} (h : SameRuns s s') :
    SameRuns s' s :=
  fun name category => (h name category).symm

theorem SameRuns.trans {s t u : List CoverageRecord} (h : SameRuns s t) (h' : SameRuns t u) :
    SameRuns s u :=
  fun name category => (h name category).trans (h' name category)

theorem SameRuns.mem {s s' : List CoverageRecord} (h : SameRuns s s') {r : CoverageRecord}
    (hr : r ∈ s) :
    r ∈ s' := by
  have hrun : r ∈ s.filter fun t => t.name = r.name ∧ t.category = r.category :=
    List.mem_filter.2 ⟨hr, by simp⟩
  rw [h] at hrun
  exact (List.mem_filter.1 hrun).1

/-- Without a record that both begin with, the runs are still the same. -/
theorem SameRuns.of_cons {r : CoverageRecord} {s s' : List CoverageRecord}
    (h : SameRuns (r :: s) (r :: s')) :
    SameRuns s s' := by
  intro name category
  have hrun := h name category
  by_cases hr : r.name = name ∧ r.category = category
  · rw [List.filter_cons_of_pos (by simpa using hr),
      List.filter_cons_of_pos (by simpa using hr)] at hrun
    exact (List.cons.inj hrun).2
  · rwa [List.filter_cons_of_neg (by simpa using hr),
      List.filter_cons_of_neg (by simpa using hr)] at hrun

/-- Two lists in rising order are equal if they have the same records of each name and category,
in the same order. -/
theorem SameRuns.eq_of_rising {s s' : List CoverageRecord} (h : SameRuns s s')
    (hs : s.Pairwise fun r t => r.precedes t = true)
    (hs' : s'.Pairwise fun r t => r.precedes t = true) :
    s = s' := by
  induction s generalizing s' with
  | nil =>
    cases s' with
    | nil => rfl
    | cons r' rest' => cases h.symm.mem List.mem_cons_self
  | cons r rest ih =>
    cases s' with
    | nil => cases h.mem List.mem_cons_self
    | cons r' rest' =>
      -- each head occurs in the other list, so neither comes before the other one
      have hmem : r ∈ r' :: rest' := h.mem List.mem_cons_self
      have hmem' : r' ∈ r :: rest := h.symm.mem List.mem_cons_self
      obtain ⟨hrest, htail⟩ := List.pairwise_cons.1 hs
      obtain ⟨hrest', htail'⟩ := List.pairwise_cons.1 hs'
      have hheads : r = r' := by
        rcases List.mem_cons.1 hmem with heq | hlater
        · exact heq
        · rcases List.mem_cons.1 hmem' with heq | hlater'
          · exact heq.symm
          · have hkey := eq_of_precedes (hrest r' hlater') (hrest' r hlater)
            have hfirst := h r.name r.category
            rw [List.filter_cons_of_pos (by simp), List.filter_cons_of_pos (by simp [hkey])]
              at hfirst
            exact (List.cons.inj hfirst).1
      subst hheads
      rw [ih h.of_cons htail htail']

/-- Two lists in order are equal if they come from the same records of each name and category, in
the same order. -/
theorem InReportOrder.eq_of_sameRuns {l l' s s' : List CoverageRecord} (h : InReportOrder l s)
    (h' : InReportOrder l' s') (hruns : SameRuns l l') :
    s = s' := by
  have hsorted : SameRuns s s' := (h.stable.trans hruns).trans h'.stable.symm
  exact hsorted.eq_of_rising (h.sorted.imp precedes_iff.2) (h'.sorted.imp precedes_iff.2)

/-- There is only one way to put records in order. -/
theorem inReportOrder_iff {l s : List CoverageRecord} :
    InReportOrder l s ↔ s = l.mergeSort precedes := by
  constructor
  · intro h
    exact h.eq_of_sameRuns (inReportOrder_mergeSort l) fun _ _ => rfl
  · rintro rfl
    exact inReportOrder_mergeSort l

end CoverageRecord

/-! ### The table of a category -/

namespace MethodTables

/-- The categories lead to a table by name: to that of their route, or to the default. -/
def LeadsTo (routes : OrderedMap String String) (defaultTable : Option String)
    (category name : String) : Prop :=
  routes.get? category = some name ∨ (routes.get? category = none ∧ defaultTable = some name)

/-- The table governs the category. -/
def Governs (t : MethodTables) (category : String) (table : MethodTable) : Prop :=
  ∃ name, LeadsTo t.routes t.defaultTable category name ∧ t.tables.get? name = some table

/-- A category is routed to its own table, or to the default one. -/
theorem routeFor_eq_some_iff {t : MethodTables} {category name : String} :
    t.routeFor category = some name ↔ LeadsTo t.routes t.defaultTable category name := by
  unfold routeFor LeadsTo
  cases t.routes.get? category with
  | none => simp
  | some n => simp

/-- The table that is found is the one that governs the category. -/
theorem tableFor_eq_some_iff {t : MethodTables} {category : String} {table : MethodTable} :
    t.tableFor category = some table ↔ t.Governs category table := by
  simp only [tableFor, Option.bind_eq_some_iff, routeFor_eq_some_iff, Governs]

/-- No category is governed by two tables. -/
theorem Governs.unique {t : MethodTables} {category : String} {table table' : MethodTable}
    (h : t.Governs category table) (h' : t.Governs category table') :
    table = table' :=
  Option.some.inj ((tableFor_eq_some_iff.2 h).symm.trans (tableFor_eq_some_iff.2 h'))

/-- Tables that were accepted are those that were given. -/
theorem eq_of_checked {tables : TablesByName} {routes : OrderedMap String String}
    {defaultTable : Option String} {t : MethodTables}
    (h : checked tables routes defaultTable = .ok t) :
    t.tables = tables ∧ t.routes = routes ∧ t.defaultTable = defaultTable := by
  unfold checked at h
  split at h
  · cases h
    exact ⟨rfl, rfl, rfl⟩
  · cases h

/-- Wherever a category leads, there is a table. -/
theorem exists_table_of_leadsTo (t : MethodTables) {category name : String}
    (h : LeadsTo t.routes t.defaultTable category name) :
    ∃ table, t.tables.get? name = some table := by
  have hroute := routeFor_eq_some_iff.2 h
  have hsome := t.tableFor_isSome_iff category
  rw [hroute, Option.isSome_some, Option.isSome_iff_exists] at hsome
  obtain ⟨table, htable⟩ := hsome
  obtain ⟨name', hname', hget⟩ := tableFor_eq_some_iff.1 htable
  have heq : name' = name :=
    Option.some.inj ((routeFor_eq_some_iff.2 hname').symm.trans hroute)
  exact ⟨table, heq ▸ hget⟩

end MethodTables

/-! ### The record of a class -/

namespace Analyzer

/-- The target class that a reference class is compared with: through the mapping of its category,
or by name where the category has no mapping. -/
def IsCounterpart (a : Analyzer) (r : ClassRecord) (n : String) : Prop :=
  (∃ mapping, a.mappings.get? r.category = some mapping ∧ mapping.resolve r.name = some n)
  ∨ (a.mappings.get? r.category = none ∧ n = r.name)

/-- The target has a method for a reference class: some record with the folded name of the
counterpart lists it. -/
def Available (a : Analyzer) (target : List ClassRecord) (r : ClassRecord) (method : String) :
    Prop :=
  ∃ n, a.IsCounterpart r n ∧ n ≠ ""
    ∧ ∃ t ∈ target, Text.fold t.name = Text.fold n ∧ method ∈ t.methods

/-- The class is concrete, and the table of its category tracks one of its methods. -/
def InScope (a : Analyzer) (r : ClassRecord) : Prop :=
  r.isConcrete = true
  ∧ ∃ table, a.tables.Governs r.category table ∧ ∃ m ∈ r.methods, table.tracks m = true

/-- The record says of every tracked method of the class, in the order of first occurrence,
whether the target has its counterpart. -/
structure Covers (a : Analyzer) (target : List ClassRecord) (r : ClassRecord)
    (c : CoverageRecord) : Prop where
  name : c.name = r.name
  category : c.category = r.category
  methods : ∃ table, a.tables.Governs r.category table
    ∧ c.methods.map MethodStatus.method = (r.methods.filter table.tracks).eraseDups
    ∧ ∀ m ∈ c.methods,
        m.status = .implemented ↔
          ∃ n, table.counterpartFor m.method = some (.mapped n) ∧ a.Available target r n

/-- The records of the classes in scope, in the order of the classes. -/
inductive Scoring (a : Analyzer) (target : List ClassRecord) :
    List ClassRecord → List CoverageRecord → Prop
  | nil : Scoring a target [] []
  | skip {r : ClassRecord} {rest : List ClassRecord} {scored : List CoverageRecord} :
      ¬ a.InScope r → Scoring a target rest scored → Scoring a target (r :: rest) scored
  | score {r : ClassRecord} {c : CoverageRecord} {rest : List ClassRecord}
      {scored : List CoverageRecord} :
      a.InScope r → a.Covers target r c → Scoring a target rest scored →
      Scoring a target (r :: rest) (c :: scored)

/-- The counterpart of a class, by the mappings and by its own name. -/
theorem counterpart_eq_some_iff {a : Analyzer} {r : ClassRecord} {n : String} :
    a.counterpart r = some n ↔ a.IsCounterpart r n := by
  unfold counterpart IsCounterpart
  cases a.mappings.get? r.category with
  | none => simp [eq_comm]
  | some mapping => simp

/-- The methods that the target has for a class. -/
theorem mem_available_iff {a : Analyzer} {target : List ClassRecord} {r : ClassRecord}
    {method : String} :
    method ∈ (TargetIndex.ofRecords target).methodsFor (a.counterpart r) ↔
      a.Available target r method := by
  simp only [Available, ← counterpart_eq_some_iff]
  cases a.counterpart r with
  | none => simp
  | some n =>
    rw [TargetIndex.mem_methodsFor_ofRecords]
    simp

theorem trackedMethods_eq (table : MethodTable) (r : ClassRecord) :
    trackedMethods table r = (r.methods.filter table.tracks).eraseDups := by
  rw [trackedMethods, filter_unite, List.filter_nil, unite_nil_left]

/-- The methods that count are those of the class that its table tracks. -/
theorem mem_trackedMethods {table : MethodTable} {r : ClassRecord} {m : String} :
    m ∈ trackedMethods table r ↔ m ∈ r.methods ∧ table.tracks m = true := by
  rw [trackedMethods_eq, List.mem_eraseDups, List.mem_filter]

/-- A method counts as implemented if its counterpart is available. -/
theorem statusIn_eq_implemented_iff {table : MethodTable} {available : List String}
    {m : String} :
    statusIn table available m = .implemented ↔
      ∃ n, table.counterpartFor m = some (.mapped n) ∧ n ∈ available := by
  unfold statusIn
  cases table.counterpartFor m with
  | none => simp
  | some entry =>
    cases entry with
    | knownGap => simp
    | mapped n => by_cases h : n ∈ available <;> simp [h]

/-- A class is scored by the table that governs its category, if it tracks one of its methods. -/
theorem scope_eq_some_iff {a : Analyzer} {r : ClassRecord} {table : MethodTable} :
    a.scope r = some table ↔
      r.isConcrete = true ∧ a.tables.Governs r.category table
        ∧ ∃ m ∈ r.methods, table.tracks m = true := by
  have htracked : (!(trackedMethods table r).isEmpty) = true ↔
      ∃ m ∈ r.methods, table.tracks m = true := by
    rw [Bool.not_eq_true', List.isEmpty_eq_false_iff_exists_mem]
    simp only [mem_trackedMethods]
  unfold scope
  by_cases h : r.isConcrete = true
  · rw [if_pos h, Option.filter_eq_some_iff, MethodTables.tableFor_eq_some_iff, htracked]
    exact ⟨fun hs => ⟨h, hs⟩, fun hs => hs.2⟩
  · rw [if_neg h]
    exact iff_of_false (by simp) fun hs => h hs.1

theorem scope_eq_none_iff {a : Analyzer} {r : ClassRecord} :
    a.scope r = none ↔ ¬ a.InScope r := by
  rw [Option.eq_none_iff_forall_ne_some]
  constructor
  · rintro h ⟨hconcrete, table, hgoverns, htracks⟩
    exact h table (scope_eq_some_iff.2 ⟨hconcrete, hgoverns, htracks⟩)
  · intro h table hscope
    obtain ⟨hconcrete, hgoverns, htracks⟩ := scope_eq_some_iff.1 hscope
    exact h ⟨hconcrete, table, hgoverns, htracks⟩

/-- A class that is scored is in scope, and its record covers it. -/
theorem covers_of_scope {a : Analyzer} {target : List ClassRecord} {r : ClassRecord}
    {c : CoverageRecord} (h : a.track (.ofRecords target) r = some c) :
    a.InScope r ∧ a.Covers target r c := by
  unfold track at h
  obtain ⟨table, hscope, rfl⟩ := Option.map_eq_some_iff.1 h
  obtain ⟨hconcrete, hgoverns, htracks⟩ := scope_eq_some_iff.1 hscope
  refine ⟨⟨hconcrete, table, hgoverns, htracks⟩, rfl, rfl, table, hgoverns, ?_, ?_⟩
  · rw [List.map_map, ← trackedMethods_eq]
    exact List.map_id _
  · intro m hm
    obtain ⟨method, _, rfl⟩ := List.mem_map.1 hm
    rw [statusIn_eq_implemented_iff]
    simp only [mem_available_iff]

/-- A list of methods with statuses is given by the methods and by which of them are
implemented. -/
theorem eq_of_map_method_eq {ms ms' : List MethodStatus}
    (h : ms.map MethodStatus.method = ms'.map MethodStatus.method)
    (hstatus : ∀ m ∈ ms, ∀ m' ∈ ms', m.method = m'.method →
      (m.status = .implemented ↔ m'.status = .implemented)) :
    ms = ms' := by
  induction ms generalizing ms' with
  | nil => exact (List.map_eq_nil_iff.1 h.symm).symm
  | cons m rest ih =>
    cases ms' with
    | nil => cases h
    | cons m' rest' =>
      obtain ⟨hmethod, hrest⟩ := List.cons.inj h
      have hiff := hstatus m List.mem_cons_self m' List.mem_cons_self hmethod
      have heq : m = m' := by
        obtain ⟨method, status⟩ := m
        obtain ⟨method', status'⟩ := m'
        cases hmethod
        cases status <;> cases status' <;> simp_all
      have htail : rest = rest' := by
        refine ih hrest ?_
        intro n hn n' hn'
        exact hstatus n (List.mem_cons_of_mem m hn) n' (List.mem_cons_of_mem m' hn')
      rw [heq, htail]

/-- There is one way to score a class. -/
theorem Covers.unique {a : Analyzer} {target : List ClassRecord} {r : ClassRecord}
    {c c' : CoverageRecord} (h : a.Covers target r c) (h' : a.Covers target r c') :
    c = c' := by
  obtain ⟨table, hgoverns, hlisted, hstatus⟩ := h.methods
  obtain ⟨table', hgoverns', hlisted', hstatus'⟩ := h'.methods
  have htable := hgoverns.unique hgoverns'
  subst htable
  have hmethods : c.methods = c'.methods := by
    refine eq_of_map_method_eq (hlisted.trans hlisted'.symm) ?_
    intro m hm m' hm' heq
    rw [hstatus m hm, hstatus' m' hm', heq]
  have hname : c.name = c'.name := h.name.trans h'.name.symm
  have hcategory : c.category = c'.category := h.category.trans h'.category.symm
  obtain ⟨name, category, methods⟩ := c
  obtain ⟨name', category', methods'⟩ := c'
  cases hname
  cases hcategory
  cases hmethods
  rfl

/-- The classes have one scoring. -/
theorem Scoring.unique {a : Analyzer} {target reference : List ClassRecord}
    {scored scored' : List CoverageRecord} (h : a.Scoring target reference scored)
    (h' : a.Scoring target reference scored') :
    scored = scored' := by
  induction h generalizing scored' with
  | nil =>
    cases h'
    rfl
  | skip hout _ ih =>
    cases h' with
    | skip _ hrest => exact ih hrest
    | score hin _ _ => exact absurd hin hout
  | score hin hcovers _ ih =>
    cases h' with
    | skip hout _ => exact absurd hin hout
    | score _ hcovers' hrest => rw [hcovers.unique hcovers', ih hrest]

theorem not_inScope_of_track {a : Analyzer} {target : TargetIndex} {r : ClassRecord}
    (h : a.track target r = none) :
    ¬ a.InScope r :=
  scope_eq_none_iff.1 (Option.map_eq_none_iff.1 h)

/-- Tracking the classes one by one scores them. -/
theorem scoring_filterMap_track (a : Analyzer) (target reference : List ClassRecord) :
    Scoring a target reference (reference.filterMap (a.track (.ofRecords target))) := by
  induction reference with
  | nil => exact Scoring.nil
  | cons r rest ih =>
    cases h : a.track (.ofRecords target) r with
    | none =>
      rw [List.filterMap_cons_none h]
      exact Scoring.skip (not_inScope_of_track h) ih
    | some c =>
      obtain ⟨hscope, hcovers⟩ := covers_of_scope h
      rw [List.filterMap_cons_some h]
      exact Scoring.score hscope hcovers ih

end Analyzer

/-- What an analysis gives, whatever tables were accepted, and whatever the mappings and the
classes of both sides are.  Every category that leads to a table leads to one that is there, and
the outcome is exactly the scoring of the reference classes, in report order. -/
theorem analyze_eq_scoring_in_order {tables : TablesByName} {routes : OrderedMap String String}
    {defaultTable : Option String} {t : MethodTables}
    (h : MethodTables.checked tables routes defaultTable = .ok t) :
    (t.tables = tables ∧ t.routes = routes ∧ t.defaultTable = defaultTable)
    ∧
    (∀ category name : String, MethodTables.LeadsTo routes defaultTable category name →
      ∃ table, tables.get? name = some table)
    ∧
    (∀ (mappings : OrderedMap String ClassMapping) (reference target : List ClassRecord)
      (result : List CoverageRecord),
      Analyzer.analyze ⟨t, mappings⟩ reference (.ofRecords target) = result ↔
        ∃ scored : List CoverageRecord,
          Analyzer.Scoring ⟨t, mappings⟩ target reference scored
          ∧ CoverageRecord.InReportOrder scored result) := by
  obtain ⟨rfl, rfl, rfl⟩ := MethodTables.eq_of_checked h
  refine ⟨⟨rfl, rfl, rfl⟩, ?_, ?_⟩
  · intro category name hleads
    exact t.exists_table_of_leadsTo hleads
  · intro mappings reference target result
    let a : Analyzer := ⟨t, mappings⟩
    have htracked := a.scoring_filterMap_track target reference
    constructor
    · rintro rfl
      exact ⟨_, htracked, CoverageRecord.inReportOrder_mergeSort _⟩
    · rintro ⟨scored, hscored, horder⟩
      rw [CoverageRecord.inReportOrder_iff.1 horder, hscored.unique htracked]
      rfl

/-- One table, for a method that is mapped and one that is a known gap, and the route to it. -/
def oreTables : MethodTables :=
  { tables :=
      .ofList
        [("blocks", ⟨"blocks", .ofList [("tick", .mapped "run"), ("use", .knownGap)]⟩)]
    routes := .ofList [("block", "blocks")]
    defaultTable := none
    complete := by decide }

/-- A class that lists a method twice, one that is not concrete, and one without a table. -/
def oreReference : List ClassRecord :=
  [⟨"Ore", "block", ["use", "tick", "hit", "tick"], true⟩,
    ⟨"Base", "block", ["tick"], false⟩, ⟨"Cow", "entity", ["tick"], true⟩]

/-- Two classes whose names differ only in case. -/
def oreTarget : List ClassRecord :=
  [⟨"ORE", "", ["walk"], true⟩, ⟨"ore", "", ["run"], true⟩]

/-- One class is scored, and both target classes answer for it. -/
theorem analyze_oreReference :
    MethodTables.checked oreTables.tables oreTables.routes oreTables.defaultTable = .ok oreTables
    ∧ Analyzer.analyze ⟨oreTables, .empty⟩ oreReference (.ofRecords oreTarget) =
        [⟨"Ore", "block", [⟨"use", .notImplemented⟩, ⟨"tick", .implemented⟩]⟩]
    ∧ ∃ scored, Analyzer.Scoring ⟨oreTables, .empty⟩ oreTarget oreReference scored
      ∧ CoverageRecord.InReportOrder scored
          [⟨"Ore", "block", [⟨"use", .notImplemented⟩, ⟨"tick", .implemented⟩]⟩] := by
  have hchecked : MethodTables.checked oreTables.tables oreTables.routes oreTables.defaultTable =
      .ok oreTables :=
    dif_pos oreTables.complete
  have hresult : Analyzer.analyze ⟨oreTables, .empty⟩ oreReference (.ofRecords oreTarget) =
      [⟨"Ore", "block", [⟨"use", .notImplemented⟩, ⟨"tick", .implemented⟩]⟩] := by
    decide +kernel
  obtain ⟨_, _, hexact⟩ := analyze_eq_scoring_in_order hchecked
  exact ⟨hchecked, hresult, (hexact .empty oreReference oreTarget _).1 hresult⟩

end SurfaceCoverage
