/-!
# The order of texts

Names are listed in the order of their code points.

**Results.**
* `sorted_perm`: sorting changes the order only.
* `sorted_pairwise`: in a sorted list no name comes before a smaller one.
* `sorted_eq_of_perm`: how the names came in does not show.
-/

namespace SurfaceCoverage

namespace Text

/-- Whether a text comes before another one or is the same. -/
def precedes (a b : String) : Bool :=
  decide (a ≤ b)

/-- The same texts, in rising order. -/
def sorted (l : List String) : List String :=
  l.mergeSort precedes

theorem precedes_trans {a b c : String} (hab : precedes a b = true) (hbc : precedes b c = true) :
    precedes a c = true :=
  decide_eq_true (String.le_trans (of_decide_eq_true hab) (of_decide_eq_true hbc))

theorem precedes_total (a b : String) :
    (precedes a b || precedes b a) = true := by
  rcases String.le_total a b with h | h
  · simp [precedes, h]
  · simp [precedes, h]

theorem precedes_antisymm {a b : String} (hab : precedes a b = true)
    (hba : precedes b a = true) :
    a = b :=
  String.le_antisymm (of_decide_eq_true hab) (of_decide_eq_true hba)

theorem sorted_perm (l : List String) :
    (sorted l).Perm l :=
  List.mergeSort_perm l precedes

@[simp]
theorem mem_sorted {l : List String} {a : String} :
    a ∈ sorted l ↔ a ∈ l :=
  (sorted_perm l).mem_iff

theorem sorted_pairwise (l : List String) :
    (sorted l).Pairwise fun a b => precedes a b = true :=
  List.pairwise_mergeSort (fun a b c => @precedes_trans a b c) precedes_total l

/-- The same texts are sorted the same way, in whatever order they come. -/
theorem sorted_eq_of_perm {l l' : List String} (h : l.Perm l') :
    sorted l = sorted l' := by
  have hperm : (sorted l).Perm (sorted l') :=
    (sorted_perm l).trans (h.trans (sorted_perm l').symm)
  refine List.Perm.eq_of_pairwise ?_ (sorted_pairwise l) (sorted_pairwise l') hperm
  intro a b _ _ hab hba
  exact precedes_antisymm hab hba

end Text

end SurfaceCoverage
