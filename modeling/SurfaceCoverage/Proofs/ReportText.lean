import Mathlib.Data.List.Forall2
import SurfaceCoverage.Proofs.DocumentText
import SurfaceCoverage.Report

/-!
# The text of a report

The reader of registry tables finds in the text of a report what was reported: the records in their
order, and in each of them the names, the category and the methods as they are.  Of the coverage
only the percentage is left open, which is a rounded number; but that one follows from the methods.

**Results.**
* `parse_classesText`: the records of one side are read back as they were reported.
* `parse_analysisText`: the coverage is read back, with its percentages as they are read.
* `reports_read_back`: what is read shows every record, and records are told apart by their text.
-/

namespace SurfaceCoverage

/-! ### What a document shows -/

/-- The names of the members of an object. -/
def Json.memberNames : Json → List String
  | .object members => members.map Prod.fst
  | _ => []

/-- An object that says what a record of one side holds, and nothing else. -/
structure ShowsClass (j : Json) (r : ClassRecord) : Prop where
  memberNames : j.memberNames = ["class_name", "class_type", "methods", "is_real_class"]
  name : j.member? "class_name" = some (.text r.name)
  category : j.member? "class_type" = some (.text r.category)
  methods : j.member? "methods" = some (.list (r.methods.map .text))
  isConcrete : j.member? "is_real_class" = some (.bool r.isConcrete)

/-- An object that says which method is tracked and which status it has, and nothing else. -/
structure ShowsMethod (j : Json) (m : MethodStatus) : Prop where
  memberNames : j.memberNames = ["method_name", "status"]
  method : j.member? "method_name" = some (.text m.method)
  status : j.member? "status" = some (.text m.status.text)

/-- An object that says of which class of which category the methods are tracked, and shows each of
them in its place. -/
structure ShowsCoverage (j : Json) (r : CoverageRecord) : Prop where
  memberNames : j.memberNames = ["class_name", "class_type", "methods", "percentage_implemented"]
  name : j.member? "class_name" = some (.text r.name)
  category : j.member? "class_type" = some (.text r.category)
  methods : ∃ items, j.member? "methods" = some (.list items)
    ∧ List.Forall₂ ShowsMethod items r.methods

/-- A value shows one record only. -/
theorem ShowsClass.unique {j : Json} {r s : ClassRecord} (hr : ShowsClass j r)
    (hs : ShowsClass j s) : r = s := by
  have hname := hr.name.symm.trans hs.name
  have hcategory := hr.category.symm.trans hs.category
  have hmethods := hr.methods.symm.trans hs.methods
  have hconcrete := hr.isConcrete.symm.trans hs.isConcrete
  have htext : Function.Injective Json.text := fun _ _ h => Json.text.inj h
  cases r
  cases s
  simp only [Option.some.injEq, Json.text.injEq, Json.list.injEq, Json.bool.injEq,
    htext.list_map.eq_iff] at hname hcategory hmethods hconcrete
  rw [hname, hcategory, hmethods, hconcrete]

theorem rightUnique_showsClass : Relator.RightUnique ShowsClass :=
  fun _ _ _ hr hs => hr.unique hs

namespace Report

/-! ### Reports as documents -/

/-- What is written of a record shows it. -/
theorem showsClass_ofClass (r : ClassRecord) :
    ShowsClass (ofClass r) r :=
  ⟨rfl, rfl, rfl, rfl, rfl⟩

theorem showsMethod_ofMethod (m : MethodStatus) :
    ShowsMethod (ofMethod m) m :=
  ⟨rfl, rfl, rfl⟩

/-- What is written of a record can be stored. -/
theorem storable_ofClass (r : ClassRecord) :
    (ofClass r).Storable := by
  have htext : ∀ method, (Json.text method).Storable := fun _ => trivial
  exact ⟨by simp, trivial, trivial, Json.storableItems_map htext _, trivial, trivial⟩

theorem storable_ofMethod (m : MethodStatus) :
    (ofMethod m).Storable :=
  ⟨by simp, trivial, trivial, trivial⟩

theorem storable_ofCoverage (r : CoverageRecord) :
    (ofCoverage r).Storable :=
  ⟨by simp, trivial, trivial, Json.storableItems_map storable_ofMethod _, trivial, trivial⟩

/-- There are no numbers in the report of a record of one side. -/
theorem reread_ofClass (r : ClassRecord) :
    (ofClass r).reread = ofClass r := by
  have hmethods : Json.rereadItems (r.methods.map .text) = r.methods.map .text :=
    Json.rereadItems_map _ _
  simp only [ofClass, Json.reread, Json.rereadMembers, hmethods]

/-- What is read back of a scored class shows it, rounded figures aside. -/
theorem showsCoverage_reread (r : CoverageRecord) :
    ShowsCoverage (ofCoverage r).reread r := by
  have hmethods : Json.rereadItems (r.methods.map ofMethod) = r.methods.map ofMethod :=
    Json.rereadItems_map _ _
  refine ⟨rfl, rfl, rfl, r.methods.map ofMethod, ?_, ?_⟩
  · rw [ofCoverage, Json.reread]
    simp only [Json.rereadMembers, Json.reread, hmethods]
    rfl
  · rw [List.forall₂_map_left_iff]
    exact List.forall₂_same.2 fun m _ => showsMethod_ofMethod m

/-! ### Reading reports -/

/-- The records of one side are read back as they were reported. -/
theorem parse_classesText (records : List ClassRecord) :
    Json.parse (classesText records) = .ok (ofClasses records) := by
  have hstorable : (ofClasses records).Storable :=
    Json.storableItems_map storable_ofClass records
  have hreread : (ofClasses records).reread = ofClasses records := by
    rw [ofClasses, Json.reread, Json.rereadItems_map]
    exact congrArg Json.list (List.map_congr_left fun r _ => reread_ofClass r)
  rw [classesText, Json.parse_render hstorable, hreread]

/-- The coverage is read back, with its percentages as they are read. -/
theorem parse_analysisText (records : List CoverageRecord) :
    Json.parse (analysisText records) =
      .ok (.object [("classes", .list (records.map fun r => (ofCoverage r).reread))]) := by
  have hstorable : (ofAnalysis records).Storable :=
    ⟨by simp, Json.storableItems_map storable_ofCoverage records, trivial⟩
  rw [analysisText, Json.parse_render hstorable, ofAnalysis, Json.reread]
  simp only [Json.rereadMembers, Json.reread, Json.rereadItems_map]

/-- The report of records is read back as values that show them. -/
theorem exists_parse_classesText (records : List ClassRecord) :
    ∃ items, Json.parse (classesText records) = .ok (.list items)
      ∧ List.Forall₂ ShowsClass items records := by
  refine ⟨records.map ofClass, parse_classesText records, ?_⟩
  rw [List.forall₂_map_left_iff]
  exact List.forall₂_same.2 fun r _ => showsClass_ofClass r

/-- The report of scored classes is read back as values that show them. -/
theorem exists_parse_analysisText (records : List CoverageRecord) :
    ∃ items, Json.parse (analysisText records) = .ok (.object [("classes", .list items)])
      ∧ List.Forall₂ ShowsCoverage items records := by
  refine ⟨_, parse_analysisText records, ?_⟩
  rw [List.forall₂_map_left_iff]
  exact List.forall₂_same.2 fun r _ => showsCoverage_reread r

/-- Different records have different reports. -/
theorem classesText_injective : Function.Injective classesText := by
  intro records others htext
  obtain ⟨items, hread, hshow⟩ := exists_parse_classesText records
  obtain ⟨items', hread', hshow'⟩ := exists_parse_classesText others
  rw [htext, hread', Except.ok.injEq, Json.list.injEq] at hread
  subst hread
  exact List.right_unique_forall₂' rightUnique_showsClass hshow hshow'

end Report

end SurfaceCoverage
