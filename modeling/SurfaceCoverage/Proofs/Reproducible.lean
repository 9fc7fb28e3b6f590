import Mathlib.Data.List.Forall2
import SurfaceCoverage.Proofs.Scoring
import SurfaceCoverage.Report
import SurfaceCoverage.Summary

/-!
# Reproducible reports

Tables, routes and class mappings are read by key, the target is read by folded name, and the
records of a report are put in order.  So a report does not tell in which order the entries of
tables, routes and mappings were written, nor in which order the target records came, nor, apart
from records of one name and category, in which order the reference records came.

**Results.**
* `OrderedMap.Reorders.get?`: a map that was written in another order answers alike.
* `ClassMapping.resolve_eq_of_reorders`: so does a class mapping, also for simple names.
* `MethodTables.checked_of_reorders`: tables and routes in another order are accepted as well.
* `Analyzer.track_eq_of_reorders`: a class has the same record.
* `Analyzer.analyze_eq_of_reorders`: an analysis has the same records.
-/

namespace SurfaceCoverage

/-! ### What is the same but for the order -/

/-- The pairs of a map are, in some order and up to related values, those of another map. -/
def OrderedMap.Reorders {κ α : Type} (R : α → α → Prop) (m n : OrderedMap κ α) : Prop :=
  ∃ l, m.toList.Perm l ∧ List.Forall₂ (fun p q => p.1 = q.1 ∧ R p.2 q.2) l n.toList

/-- A class mapping with the same entries in some order. -/
def ClassMapping.Reorders (m n : ClassMapping) : Prop :=
  m.entries.toList.Perm n.entries.toList

/-- A table with the same entries in some order. -/
def MethodTable.Reorders (table table' : MethodTable) : Prop :=
  table.entries.toList.Perm table'.entries.toList

/-- The same tables with the same routes, all of them in some order. -/
structure MethodTables.Reorders (t t' : MethodTables) : Prop where
  tables : t.tables.Reorders MethodTable.Reorders t'.tables
  routes : t.routes.toList.Perm t'.routes.toList
  defaultTable : t.defaultTable = t'.defaultTable

/-- The same tables, routes and class mappings, all of them in some order. -/
structure Analyzer.Reorders (a a' : Analyzer) : Prop where
  tables : a.tables.Reorders a'.tables
  mappings : a.mappings.Reorders ClassMapping.Reorders a'.mappings

/-- The same class records in some order, where those of each name and category are in the same
order. -/
def ClassRecord.SameRuns (reference reference' : List ClassRecord) : Prop :=
  ∀ name category : String,
    reference.filter (fun r => r.name = name ∧ r.category = category) =
      reference'.filter (fun r => r.name = name ∧ r.category = category)

/-! ### Maps -/

namespace OrderedMap

variable {κ α : Type} [DecidableEq κ]

theorem lookup_eq_of_perm {l l' : List (κ × α)} (hl : (l.map Prod.fst).Nodup) (h : l.Perm l')
    (k : κ) :
    lookup k l = lookup k l' := by
  have hl' : (l'.map Prod.fst).Nodup := (h.map Prod.fst).nodup_iff.1 hl
  apply Option.ext
  intro v
  rw [lookup_eq_some_iff hl, lookup_eq_some_iff hl', h.mem_iff]

theorem get?_eq_of_perm {m n : OrderedMap κ α} (h : m.toList.Perm n.toList) (k : κ) :
    m.get? k = n.get? k :=
  lookup_eq_of_perm m.keys_nodup h k

theorem rel_lookup {R : α → α → Prop} {l l' : List (κ × α)}
    (h : List.Forall₂ (fun p q => p.1 = q.1 ∧ R p.2 q.2) l l') (k : κ) :
    Option.Rel R (lookup k l) (lookup k l') := by
  induction h with
  | nil => exact Option.Rel.none
  | @cons p q rest rest' hpq _ ih =>
    obtain ⟨hkey, hvalue⟩ := hpq
    rw [lookup, lookup, ← hkey]
    by_cases hk : p.1 = k
    · rw [if_pos hk, if_pos hk]
      exact Option.Rel.some hvalue
    · rw [if_neg hk, if_neg hk]
      exact ih

/-- A map that was written in another order answers alike. -/
theorem Reorders.get? {R : α → α → Prop} {m n : OrderedMap κ α} (h : m.Reorders R n) (k : κ) :
    Option.Rel R (m.get? k) (n.get? k) := by
  obtain ⟨l, hperm, hrel⟩ := h
  have hm : m.get? k = lookup k l := lookup_eq_of_perm m.keys_nodup hperm k
  rw [hm]
  exact rel_lookup hrel k

end OrderedMap

theorem isSome_eq_of_rel {α : Type} {R : α → α → Prop} {o o' : Option α}
    (h : Option.Rel R o o') :
    o.isSome = o'.isSome := by
  cases h with
  | none => rfl
  | some _ => rfl

theorem map_eq_of_rel {α β : Type} {R : α → α → Prop} {f g : α → β} {o o' : Option α}
    (hfg : ∀ x y, R x y → f x = g y) (h : Option.Rel R o o') :
    o.map f = o'.map g := by
  cases h with
  | none => rfl
  | some hxy => exact congrArg some (hfg _ _ hxy)

theorem rel_filter_of_rel {α : Type} {R : α → α → Prop} {p q : α → Bool} {o o' : Option α}
    (hpq : ∀ x y, R x y → p x = q y) (h : Option.Rel R o o') :
    Option.Rel R (o.filter p) (o'.filter q) := by
  cases h with
  | none => exact Option.Rel.none
  | @some x y hxy =>
    rw [Option.filter_some, Option.filter_some, ← hpq x y hxy]
    by_cases hx : p x = true
    · rw [if_pos hx, if_pos hx]
      exact Option.Rel.some hxy
    · rw [if_neg hx, if_neg hx]
      exact Option.Rel.none

/-! ### Class mappings -/

namespace ClassMapping

/-- Of the classes with one simple name the same one answers. -/
theorem representative?_eq_of_reorders {m n : ClassMapping} (h : m.Reorders n) (simple : String) :
    m.representative? simple = n.representative? simple :=
  leastName?_congr fun _ => ((h.map Prod.fst).filter _).mem_iff

/-- A class mapping in another order resolves every name alike. -/
theorem resolve_eq_of_reorders {m n : ClassMapping} (h : m.Reorders n) (name : String) :
    m.resolve name = n.resolve name := by
  have hget : m.entries.get? = n.entries.get? := funext (OrderedMap.get?_eq_of_perm h)
  rw [resolve, resolve, representative?_eq_of_reorders h, hget]

end ClassMapping

/-! ### Tables -/

namespace MethodTable

theorem counterpartFor_eq_of_reorders {table table' : MethodTable} (h : table.Reorders table')
    (method : String) :
    table.counterpartFor method = table'.counterpartFor method :=
  OrderedMap.get?_eq_of_perm h method

theorem tracks_eq_of_reorders {table table' : MethodTable} (h : table.Reorders table') :
    table.tracks = table'.tracks := by
  funext method
  rw [tracks_eq_isSome, tracks_eq_isSome, counterpartFor_eq_of_reorders h]

end MethodTable

namespace MethodTables

/-- Tables and routes in another order are accepted as well. -/
theorem checked_of_reorders {tables tables' : TablesByName}
    {routes routes' : OrderedMap String String} {defaultTable : Option String} {t : MethodTables}
    (h : checked tables routes defaultTable = .ok t)
    (htables : tables.Reorders MethodTable.Reorders tables')
    (hroutes : routes.toList.Perm routes'.toList) :
    ∃ t', checked tables' routes' defaultTable = .ok t' ∧ t.Reorders t' := by
  obtain ⟨rfl, rfl, rfl⟩ := eq_of_checked h
  -- the same names are referred to, and each of them has a table
  have hcomplete : ∀ n ∈ routes'.values ++ t.defaultTable.toList, tables'.contains n = true := by
    intro n hn
    have hvalues : (t.routes.values ++ t.defaultTable.toList).Perm
        (routes'.values ++ t.defaultTable.toList) :=
      (hroutes.map Prod.snd).append_right _
    have hcontains := t.complete n (hvalues.mem_iff.2 hn)
    rwa [OrderedMap.contains, isSome_eq_of_rel (htables.get? n)] at hcontains
  exact ⟨⟨tables', routes', t.defaultTable, hcomplete⟩, dif_pos hcomplete, htables, hroutes, rfl⟩

/-- Every category has a table with the same entries. -/
theorem tableFor_of_reorders {t t' : MethodTables} (h : t.Reorders t') (category : String) :
    Option.Rel MethodTable.Reorders (t.tableFor category) (t'.tableFor category) := by
  have hroute : t.routeFor category = t'.routeFor category := by
    rw [routeFor, routeFor, OrderedMap.get?_eq_of_perm h.routes, h.defaultTable]
  rw [tableFor, tableFor, hroute]
  cases t'.routeFor category with
  | none => exact Option.Rel.none
  | some name => exact h.tables.get? name

end MethodTables

/-! ### The record of a class -/

theorem TargetIndex.mem_methodsFor_iff_of_perm {target target' : List ClassRecord}
    (h : target.Perm target') (name : Option String) (m : String) :
    m ∈ (ofRecords target).methodsFor name ↔ m ∈ (ofRecords target').methodsFor name := by
  cases name with
  | none => exact Iff.rfl
  | some n => simp only [mem_methodsFor_ofRecords, h.mem_iff]

namespace Analyzer

theorem counterpart_eq_of_reorders {a a' : Analyzer} (h : a.Reorders a') (r : ClassRecord) :
    a.counterpart r = a'.counterpart r := by
  -- a category has a mapping in both or in neither, and its mapping resolves alike
  have hmapping := h.mappings.get? r.category
  unfold counterpart
  generalize a.mappings.get? r.category = o at hmapping
  generalize a'.mappings.get? r.category = o' at hmapping
  cases hmapping with
  | none => rfl
  | some hreorders => exact ClassMapping.resolve_eq_of_reorders hreorders r.name

theorem trackedMethods_eq_of_reorders {table table' : MethodTable} (h : table.Reorders table')
    (r : ClassRecord) :
    trackedMethods table r = trackedMethods table' r := by
  rw [trackedMethods, trackedMethods, MethodTable.tracks_eq_of_reorders h]

theorem statusIn_eq_of_reorders {table table' : MethodTable} (h : table.Reorders table')
    {available available' : List String} (havailable : ∀ n, n ∈ available ↔ n ∈ available')
    (m : String) :
    statusIn table available m = statusIn table' available' m := by
  unfold statusIn
  rw [MethodTable.counterpartFor_eq_of_reorders h]
  simp only [havailable]

/-- The same classes are scored, by tables with the same entries. -/
theorem scope_of_reorders {a a' : Analyzer} (h : a.Reorders a') (r : ClassRecord) :
    Option.Rel MethodTable.Reorders (a.scope r) (a'.scope r) := by
  unfold scope
  by_cases hconcrete : r.isConcrete = true
  · rw [if_pos hconcrete, if_pos hconcrete]
    refine rel_filter_of_rel ?_ (MethodTables.tableFor_of_reorders h.tables r.category)
    intro table table' htable
    rw [trackedMethods_eq_of_reorders htable]
  · rw [if_neg hconcrete, if_neg hconcrete]
    exact Option.Rel.none

/-- A class has the same record. -/
theorem track_eq_of_reorders {a a' : Analyzer} (h : a.Reorders a')
    {target target' : List ClassRecord} (htarget : target.Perm target') (r : ClassRecord) :
    a.track (.ofRecords target) r = a'.track (.ofRecords target') r := by
  have hstatus : ∀ table table' : MethodTable, table.Reorders table' → ∀ m : String,
      statusIn table ((TargetIndex.ofRecords target).methodsFor (a.counterpart r)) m =
        statusIn table' ((TargetIndex.ofRecords target').methodsFor (a'.counterpart r)) m := by
    intro table table' htable m
    rw [counterpart_eq_of_reorders h]
    exact statusIn_eq_of_reorders htable (TargetIndex.mem_methodsFor_iff_of_perm htarget _) m
  refine map_eq_of_rel ?_ (scope_of_reorders h r)
  intro table table' htable
  simp only [trackedMethods_eq_of_reorders htable, hstatus table table' htable]

end Analyzer

/-! ### The records of a report -/

/-- Neighbours of different names or categories may change places. -/
theorem ClassRecord.sameRuns_swap {r s : ClassRecord} (rest : List ClassRecord)
    (h : ¬ (r.name = s.name ∧ r.category = s.category)) :
    SameRuns (r :: s :: rest) (s :: r :: rest) := by
  intro name category
  by_cases hr : r.name = name ∧ r.category = category
  · have hs : ¬ (s.name = name ∧ s.category = category) := by
      rintro ⟨rfl, rfl⟩
      exact h hr
    simp [hr, hs]
  · simp [List.filter_cons, hr]

namespace Analyzer

/-- The records of one name and category come from the classes with them. -/
theorem filter_filterMap_track (a : Analyzer) (target : TargetIndex) (reference : List ClassRecord)
    (name category : String) :
    (reference.filterMap (a.track target)).filter
        (fun c => c.name = name ∧ c.category = category) =
      (reference.filter fun r => r.name = name ∧ r.category = category).filterMap
        (a.track target) := by
  rw [List.filter_filterMap, List.filterMap_filter]
  -- a class and its record have the same name and category, so either may be asked for them
  congr 1
  funext r
  unfold track
  cases a.scope r with
  | none => simp
  | some table => simp [Option.filter_some]

theorem sameRuns_filterMap_track {reference reference' : List ClassRecord}
    (h : ClassRecord.SameRuns reference reference') (a : Analyzer) (target : TargetIndex) :
    CoverageRecord.SameRuns (reference.filterMap (a.track target))
      (reference'.filterMap (a.track target)) := by
  intro name category
  rw [filter_filterMap_track, filter_filterMap_track, h]

theorem analyze_eq_of_reorders {a a' : Analyzer} (ha : a.Reorders a')
    {reference reference' target target' : List ClassRecord}
    (hreference : ClassRecord.SameRuns reference reference') (htarget : target.Perm target') :
    a.analyze reference (.ofRecords target) = a'.analyze reference' (.ofRecords target') := by
  have htrack : a.track (.ofRecords target) = a'.track (.ofRecords target') :=
    funext (track_eq_of_reorders ha htarget)
  have hruns := sameRuns_filterMap_track hreference a' (.ofRecords target')
  rw [analyze, analyze, htrack]
  exact (CoverageRecord.inReportOrder_mergeSort _).eq_of_sameRuns
    (CoverageRecord.inReportOrder_mergeSort _) hruns

end Analyzer

/-- Reports are reproducible.  An analysis has the same records, the same summaries and the same
text when the entries of tables, routes and class mappings were written in another order, the target
records come in another order, and the reference records come in another order that keeps those of
each name and category as they were; and the records rise by name and category. -/
theorem report_reproducible {a a' : Analyzer} (ha : a.Reorders a')
    {reference reference' target target' : List ClassRecord}
    (hreference : ClassRecord.SameRuns reference reference') (htarget : target.Perm target') :
    a.analyze reference (.ofRecords target) = a'.analyze reference' (.ofRecords target')
    ∧ summarize (a.analyze reference (.ofRecords target)) =
        summarize (a'.analyze reference' (.ofRecords target'))
    ∧ Report.analysisText (a.analyze reference (.ofRecords target)) =
        Report.analysisText (a'.analyze reference' (.ofRecords target'))
    ∧ (a.analyze reference (.ofRecords target)).Pairwise fun c c' =>
        c.name < c'.name ∨ (c.name = c'.name ∧ c.category ≤ c'.category) := by
  have heq := Analyzer.analyze_eq_of_reorders ha hreference htarget
  refine ⟨heq, by rw [heq], by rw [heq], ?_⟩
  exact (CoverageRecord.inReportOrder_mergeSort _).sorted

/-- Two tables with their routes, and a mapping of two classes with one simple name. -/
def quarry : Analyzer :=
  { tables :=
      { tables :=
          ⟨[("blocks", ⟨"blocks", ⟨[("tick", .mapped "run"), ("use", .knownGap)], by decide⟩⟩),
            ("mobs", ⟨"mobs", ⟨[("walk", .mapped "walk")], by decide⟩⟩)], by decide⟩
        routes := ⟨[("block", "blocks"), ("entity", "mobs")], by decide⟩
        defaultTable := none
        complete := by decide }
    mappings :=
      ⟨[("block", ⟨⟨[("b.Ore", "Coal"), ("a.Ore", "Stone")], by decide⟩⟩),
        ("item", ⟨.empty⟩)], by decide⟩ }

/-- The same, written in another order throughout. -/
def quarryReordered : Analyzer :=
  { tables :=
      { tables :=
          ⟨[("mobs", ⟨"mobs", ⟨[("walk", .mapped "walk")], by decide⟩⟩),
            ("blocks", ⟨"blocks", ⟨[("use", .knownGap), ("tick", .mapped "run")], by decide⟩⟩)],
            by decide⟩
        routes := ⟨[("entity", "mobs"), ("block", "blocks")], by decide⟩
        defaultTable := none
        complete := by decide }
    mappings :=
      ⟨[("item", ⟨.empty⟩),
        ("block", ⟨⟨[("a.Ore", "Stone"), ("b.Ore", "Coal")], by decide⟩⟩)], by decide⟩ }

/-- Two classes of one name and category, and a third one between them. -/
def quarryReference : List ClassRecord :=
  [⟨"Ore", "block", ["use"], true⟩, ⟨"Cow", "entity", ["walk"], true⟩,
    ⟨"Ore", "block", ["tick"], true⟩]

/-- The third class comes first. -/
def quarryReferenceReordered : List ClassRecord :=
  [⟨"Cow", "entity", ["walk"], true⟩, ⟨"Ore", "block", ["use"], true⟩,
    ⟨"Ore", "block", ["tick"], true⟩]

/-- Two classes whose names differ only in case. -/
def quarryTarget : List ClassRecord :=
  [⟨"STONE", "", ["walk"], true⟩, ⟨"stone", "", ["run"], true⟩]

/-- The record of every class, in report order. -/
def quarryReport : List CoverageRecord :=
  [⟨"Cow", "entity", [⟨"walk", .notImplemented⟩]⟩, ⟨"Ore", "block", [⟨"use", .notImplemented⟩]⟩,
    ⟨"Ore", "block", [⟨"tick", .implemented⟩]⟩]

theorem quarry_reorders :
    quarry.Reorders quarryReordered := by
  refine ⟨⟨⟨_, List.Perm.swap _ _ [], ?_⟩, List.Perm.swap _ _ [], rfl⟩,
    ⟨_, List.Perm.swap _ _ [], ?_⟩⟩
  · exact .cons ⟨rfl, List.Perm.refl _⟩ (.cons ⟨rfl, List.Perm.swap _ _ []⟩ .nil)
  · exact .cons ⟨rfl, List.Perm.refl _⟩ (.cons ⟨rfl, List.Perm.swap _ _ []⟩ .nil)

/-- The smaller of the two mapped classes answers, both target classes have its methods, and the
order in which all of that was written does not show. -/
theorem report_of_quarry :
    quarry.Reorders quarryReordered
    ∧ ClassRecord.SameRuns quarryReference quarryReferenceReordered
    ∧ quarryTarget.Perm quarryTarget.reverse
    ∧ quarry.analyze quarryReference (.ofRecords quarryTarget) = quarryReport
    ∧ quarryReordered.analyze quarryReferenceReordered (.ofRecords quarryTarget.reverse) =
        quarryReport := by
  have hruns : ClassRecord.SameRuns quarryReference quarryReferenceReordered :=
    ClassRecord.sameRuns_swap _ (by decide)
  have hperm : quarryTarget.Perm quarryTarget.reverse := (List.reverse_perm quarryTarget).symm
  have hreport : quarryReordered.analyze quarryReferenceReordered
      (.ofRecords quarryTarget.reverse) = quarryReport := by
    have htrack : quarryReferenceReordered.filterMap
        (quarryReordered.track (.ofRecords quarryTarget.reverse)) = quarryReport := by
      decide +kernel
    rw [Analyzer.analyze, htrack]
    exact List.mergeSort_of_pairwise (by decide +kernel)
  have heq := (report_reproducible quarry_reorders hruns hperm).1
  exact ⟨quarry_reorders, hruns, hperm, heq.trans hreport, hreport⟩

end SurfaceCoverage
