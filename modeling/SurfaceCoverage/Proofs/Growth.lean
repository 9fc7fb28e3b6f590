import Mathlib.Data.List.Forall2
import SurfaceCoverage.Proofs.Scoring
import SurfaceCoverage.Summary

/-!
# A target that grows

Which classes are scored, and in what order, is settled before the target is looked at; the target
only decides which methods are implemented.  When it grows, by more records or by more methods, a
method that was implemented stays so.  Hence every record, and every summary, is no worse than
before.

**Results.**
* `Analyzer.analyze_eq_map`: the target only decides the statuses of the scored classes.
* `Analyzer.noWorse_coverageOf`: what is implemented stays so.
* `noWorse_summarize`: summaries of records that are no worse are no worse.
-/

namespace SurfaceCoverage

/-- Every record of the first target occurs in the second one with at least its methods. -/
def GrowsTo (target target' : List ClassRecord) : Prop :=
  ∀ t ∈ target, ∃ t' ∈ target', t'.name = t.name ∧ ∀ m ∈ t.methods, m ∈ t'.methods

/-- The same method, and it is implemented if it was. -/
structure MethodStatus.NoWorse (m m' : MethodStatus) : Prop where
  method : m.method = m'.method
  implemented : m.status = .implemented → m'.status = .implemented

/-- The same class with the same tracked methods, and those that were implemented are so. -/
structure CoverageRecord.NoWorse (c c' : CoverageRecord) : Prop where
  name : c.name = c'.name
  category : c.category = c'.category
  methods : List.Forall₂ MethodStatus.NoWorse c.methods c'.methods

/-- The same category with as many classes and tracked methods, and no fewer implemented ones. -/
structure CategorySummary.NoWorse (s s' : CategorySummary) : Prop where
  category : s.category = s'.category
  classes : s.classes = s'.classes
  tracked : s.tracked = s'.tracked
  implemented : s.implemented ≤ s'.implemented

/-! ### The scored classes -/

namespace Analyzer

/-- Whether a class is scored no later than another one, as the order of records has it. -/
def scoredBefore (p q : ClassRecord × MethodTable) : Bool :=
  CoverageRecord.precedes ⟨p.1.name, p.1.category, []⟩ ⟨q.1.name, q.1.category, []⟩

/-- The classes that are scored, with their tables, in the order of the report. -/
def scoredClasses (a : Analyzer) (reference : List ClassRecord) :
    List (ClassRecord × MethodTable) :=
  (reference.filterMap fun r => (a.scope r).map fun table => (r, table)).mergeSort scoredBefore

/-- The coverage of a scored class. -/
def coverageOf (a : Analyzer) (target : TargetIndex) (p : ClassRecord × MethodTable) :
    CoverageRecord :=
  { name := p.1.name
    category := p.1.category
    methods := (trackedMethods p.2 p.1).map fun m =>
      ⟨m, statusIn p.2 (target.methodsFor (a.counterpart p.1)) m⟩ }

/-- The target only decides the statuses of the scored classes. -/
theorem analyze_eq_map (a : Analyzer) (reference : List ClassRecord) (target : TargetIndex) :
    a.analyze reference target = (a.scoredClasses reference).map (a.coverageOf target) := by
  have htrack : a.track target = fun r =>
      ((a.scope r).map fun table => (r, table)).map (a.coverageOf target) := by
    funext r
    rw [Option.map_map]
    rfl
  have horder : ∀ p q, scoredBefore p q =
      (a.coverageOf target p).precedes (a.coverageOf target q) :=
    fun _ _ => rfl
  rw [analyze, htrack, ← List.map_filterMap, scoredClasses]
  exact (List.map_mergeSort fun p _ q _ => horder p q).symm

/-- What is available stays so while the target grows. -/
theorem Available.of_growsTo {a : Analyzer} {target target' : List ClassRecord}
    (h : GrowsTo target target') {r : ClassRecord} {method : String}
    (havailable : a.Available target r method) :
    a.Available target' r method := by
  obtain ⟨n, hn, hne, t, ht, hfold, hmem⟩ := havailable
  obtain ⟨t', ht', hname, hmethods⟩ := h t ht
  exact ⟨n, hn, hne, t', ht', hname ▸ hfold, hmethods method hmem⟩

/-- What is implemented stays so while the target grows. -/
theorem statusIn_of_growsTo {a : Analyzer} {target target' : List ClassRecord}
    (h : GrowsTo target target') {r : ClassRecord} {table : MethodTable} {m : String}
    (himplemented :
      statusIn table ((TargetIndex.ofRecords target).methodsFor (a.counterpart r)) m =
        .implemented) :
    statusIn table ((TargetIndex.ofRecords target').methodsFor (a.counterpart r)) m =
      .implemented := by
  simp only [statusIn_eq_implemented_iff, mem_available_iff] at himplemented ⊢
  obtain ⟨n, hn, havailable⟩ := himplemented
  exact ⟨n, hn, havailable.of_growsTo h⟩

/-- What is implemented stays so. -/
theorem noWorse_coverageOf (a : Analyzer) {target target' : List ClassRecord}
    (h : GrowsTo target target') (p : ClassRecord × MethodTable) :
    (a.coverageOf (.ofRecords target) p).NoWorse (a.coverageOf (.ofRecords target') p) := by
  refine ⟨rfl, rfl, ?_⟩
  rw [coverageOf, coverageOf, List.forall₂_map_left_iff, List.forall₂_map_right_iff,
    List.forall₂_same]
  intro m _
  exact ⟨rfl, statusIn_of_growsTo h⟩

/-- No class is scored worse while the target grows. -/
theorem noWorse_analyze (a : Analyzer) (reference : List ClassRecord)
    {target target' : List ClassRecord} (h : GrowsTo target target') :
    List.Forall₂ CoverageRecord.NoWorse (a.analyze reference (.ofRecords target))
      (a.analyze reference (.ofRecords target')) := by
  rw [analyze_eq_map, analyze_eq_map, List.forall₂_map_left_iff, List.forall₂_map_right_iff,
    List.forall₂_same]
  intro p _
  exact a.noWorse_coverageOf h p

end Analyzer

/-! ### Summaries -/

theorem CoverageRecord.NoWorse.trackedCount_eq {c c' : CoverageRecord} (h : c.NoWorse c') :
    c.trackedCount = c'.trackedCount :=
  h.methods.length_eq

/-- Where no method is worse, as many are implemented. -/
theorem countP_implemented_le {ms ms' : List MethodStatus}
    (h : List.Forall₂ MethodStatus.NoWorse ms ms') :
    ms.countP (fun m => m.status = .implemented) ≤
      ms'.countP fun m => m.status = .implemented := by
  induction h with
  | nil => exact Nat.le_refl _
  | @cons m m' rest rest' hm _ ih =>
    simp only [List.countP_cons, decide_eq_true_eq]
    by_cases himplemented : m.status = .implemented
    · rw [if_pos himplemented, if_pos (hm.implemented himplemented)]
      omega
    · rw [if_neg himplemented]
      omega

theorem CoverageRecord.NoWorse.implementedCount_le {c c' : CoverageRecord} (h : c.NoWorse c') :
    c.implementedCount ≤ c'.implementedCount :=
  countP_implemented_le h.methods

theorem map_eq_map_of_forall₂ {α β : Type} {R : α → α → Prop} {f : α → β}
    (hf : ∀ x y, R x y → f x = f y) {l l' : List α} (h : List.Forall₂ R l l') :
    l.map f = l'.map f := by
  have hmap : List.Forall₂ (· = ·) (l.map f) (l'.map f) := by
    rw [List.forall₂_map_left_iff, List.forall₂_map_right_iff]
    exact h.imp hf
  rwa [List.forall₂_eq_eq_eq] at hmap

/-- A total grows with its parts. -/
theorem total_le_total {ns ns' : List Nat} (h : List.Forall₂ (· ≤ ·) ns ns') :
    total ns ≤ total ns' := by
  induction h with
  | nil => exact Nat.le_refl _
  | cons hn _ ih => exact Nat.add_le_add hn ih

/-- Of records that are no worse, those of one category are no worse. -/
theorem noWorse_filter {l l' : List CoverageRecord} (h : List.Forall₂ CoverageRecord.NoWorse l l')
    (c : String) :
    List.Forall₂ CoverageRecord.NoWorse (l.filter fun r => r.category = c)
      (l'.filter fun r => r.category = c) := by
  refine List.rel_filter ?_ h
  intro r r' hr
  simp only [hr.category]

/-- Where no class is worse, no category is. -/
theorem noWorse_ofRecords {l l' : List CoverageRecord}
    (h : List.Forall₂ CoverageRecord.NoWorse l l') (c : String) :
    (CategorySummary.ofRecords c l).NoWorse (CategorySummary.ofRecords c l') := by
  refine ⟨rfl, h.length_eq, ?_, ?_⟩
  · exact congrArg total (map_eq_map_of_forall₂ (fun _ _ hr => hr.trackedCount_eq) h)
  · apply total_le_total
    rw [List.forall₂_map_left_iff, List.forall₂_map_right_iff]
    exact h.imp fun _ _ hr => hr.implementedCount_le

/-- Summaries of records that are no worse are no worse. -/
theorem noWorse_summarize {l l' : List CoverageRecord}
    (h : List.Forall₂ CoverageRecord.NoWorse l l') :
    List.Forall₂ CategorySummary.NoWorse (summarize l) (summarize l') := by
  have hcategories : l.map CoverageRecord.category = l'.map CoverageRecord.category :=
    map_eq_map_of_forall₂ (fun _ _ hr => hr.category) h
  rw [summarize, summarize, hcategories, List.forall₂_map_left_iff, List.forall₂_map_right_iff,
    List.forall₂_same]
  intro c _
  exact noWorse_ofRecords (noWorse_filter h c) c

/-- To port more never lowers the coverage.  When the target grows, an analysis has the same classes
with the same tracked methods in the same order, every method that was implemented is so, and every
category has as many classes and tracked methods and no fewer implemented ones. -/
theorem coverage_never_falls (a : Analyzer) (reference : List ClassRecord)
    {target target' : List ClassRecord} (h : GrowsTo target target') :
    List.Forall₂ CoverageRecord.NoWorse (a.analyze reference (.ofRecords target))
      (a.analyze reference (.ofRecords target'))
    ∧ List.Forall₂ CategorySummary.NoWorse
        (summarize (a.analyze reference (.ofRecords target)))
        (summarize (a.analyze reference (.ofRecords target'))) := by
  have hrecords := a.noWorse_analyze reference h
  exact ⟨hrecords, noWorse_summarize hrecords⟩

/-- A target with one of two classes whose names differ only in case. -/
def oreTargetBefore : List ClassRecord :=
  [⟨"ORE", "", ["walk"], true⟩]

/-- The other class has the counterpart of a method, which is implemented from then on. -/
theorem coverage_of_oreTargetBefore :
    GrowsTo oreTargetBefore oreTarget
    ∧ Analyzer.analyze ⟨oreTables, .empty⟩ oreReference (.ofRecords oreTargetBefore) =
        [⟨"Ore", "block", [⟨"use", .notImplemented⟩, ⟨"tick", .notImplemented⟩]⟩]
    ∧ Analyzer.analyze ⟨oreTables, .empty⟩ oreReference (.ofRecords oreTarget) =
        [⟨"Ore", "block", [⟨"use", .notImplemented⟩, ⟨"tick", .implemented⟩]⟩]
    ∧ List.Forall₂ CoverageRecord.NoWorse
        (Analyzer.analyze ⟨oreTables, .empty⟩ oreReference (.ofRecords oreTargetBefore))
        (Analyzer.analyze ⟨oreTables, .empty⟩ oreReference (.ofRecords oreTarget))
    ∧ List.Forall₂ CategorySummary.NoWorse
        (summarize
          (Analyzer.analyze ⟨oreTables, .empty⟩ oreReference (.ofRecords oreTargetBefore)))
        (summarize
          (Analyzer.analyze ⟨oreTables, .empty⟩ oreReference (.ofRecords oreTarget))) := by
  have hgrows : GrowsTo oreTargetBefore oreTarget := by
    intro t ht
    rw [List.mem_singleton.1 ht]
    exact ⟨_, List.mem_cons_self, rfl, fun _ hm => hm⟩
  refine ⟨hgrows, by decide +kernel, by decide +kernel, ?_⟩
  exact coverage_never_falls ⟨oreTables, .empty⟩ oreReference hgrows

end SurfaceCoverage
