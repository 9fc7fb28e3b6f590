import SurfaceCoverage.ClassRecord
import SurfaceCoverage.Declaration
import SurfaceCoverage.OrderedMap
import SurfaceCoverage.Text.CaseMap

/-!
# Target index

The methods of the target side, by folded class name: classes whose names differ only in case have
their methods in common.

**Results.**
* `methodsFor_none`: no name has no methods.
* `mem_methodsFor_ofRecords`: a class has the methods of all records with its folded name.
-/

namespace SurfaceCoverage

/-- The methods of the target side by folded class name. -/
structure TargetIndex where
  methods : OrderedMap String (List String)

namespace TargetIndex

/-- The index without classes. -/
def empty : TargetIndex :=
  ⟨OrderedMap.empty⟩

/-- Adds the methods of one record. -/
def add (t : TargetIndex) (r : ClassRecord) : TargetIndex :=
  let key := Text.fold r.name
  ⟨t.methods.insert key (unite ((t.methods.get? key).getD []) r.methods)⟩

/-- The index of a list of records. -/
def ofRecords (records : List ClassRecord) : TargetIndex :=
  records.foldl add empty

/-- The methods of a class; none for a name that is missing, empty or unknown. -/
def methodsFor (t : TargetIndex) (name : Option String) : List String :=
  match name with
  | none => []
  | some n => if n = "" then [] else (t.methods.get? (Text.fold n)).getD []

/-- Whether a class is known. -/
def contains (t : TargetIndex) (name : Option String) : Bool :=
  match name with
  | none => false
  | some n => t.methods.contains (Text.fold n)

/-- How many folded names are known. -/
def size (t : TargetIndex) : Nat :=
  t.methods.size

@[simp]
theorem methodsFor_none (t : TargetIndex) :
    t.methodsFor none = [] :=
  rfl

@[simp]
theorem methodsFor_empty_name (t : TargetIndex) :
    t.methodsFor (some "") = [] := by
  simp [methodsFor]

/-- The methods under a folded name. -/
def methodsUnder (t : TargetIndex) (key : String) : List String :=
  (t.methods.get? key).getD []

theorem methodsUnder_add (t : TargetIndex) (r : ClassRecord) (key : String) :
    (t.add r).methodsUnder key =
      if Text.fold r.name = key then unite (t.methodsUnder key) r.methods
      else t.methodsUnder key := by
  unfold methodsUnder add
  rw [OrderedMap.get?_insert]
  by_cases h : Text.fold r.name = key
  · subst h
    rw [if_pos rfl, if_pos rfl, Option.getD_some]
  · rw [if_neg h, if_neg h]

theorem mem_methodsUnder_foldl_add (records : List ClassRecord) (t : TargetIndex)
    (key m : String) :
    m ∈ (records.foldl add t).methodsUnder key ↔
      m ∈ t.methodsUnder key ∨ ∃ r ∈ records, Text.fold r.name = key ∧ m ∈ r.methods := by
  induction records generalizing t with
  | nil => simp
  | cons r rest ih =>
    rw [List.foldl_cons, ih, methodsUnder_add]
    by_cases h : Text.fold r.name = key
    · rw [if_pos h, mem_unite]
      simp [h, or_assoc]
    · rw [if_neg h]
      simp [h]

/-- A class has the methods of all records whose names fold to the same text as its own. -/
theorem mem_methodsFor_ofRecords (records : List ClassRecord) (n m : String) :
    m ∈ (ofRecords records).methodsFor (some n) ↔
      n ≠ "" ∧ ∃ r ∈ records, Text.fold r.name = Text.fold n ∧ m ∈ r.methods := by
  by_cases hn : n = ""
  · subst hn
    simp
  · have hunder : (ofRecords records).methodsFor (some n) =
        (ofRecords records).methodsUnder (Text.fold n) := by
      simp [methodsFor, hn, methodsUnder]
    have hempty : m ∉ empty.methodsUnder (Text.fold n) := List.not_mem_nil
    rw [hunder, ofRecords, mem_methodsUnder_foldl_add]
    simp [hn, hempty]

end TargetIndex

end SurfaceCoverage
