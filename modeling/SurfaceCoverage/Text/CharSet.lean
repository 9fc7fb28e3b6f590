/-!
# Sets of code points

A set of code points is given by its boundaries: the code points, rising, at which membership
changes, starting outside the set.

**Results.**
* `contains_cons_of_lt`, `contains_cons_of_le`: membership is read off one boundary at a time.
* `mem_points_of_contains`: the members of a set whose last run ends.
-/

namespace SurfaceCoverage

namespace Text

namespace CharSet

/-- Whether `n` lies in the set with the given rising boundaries. -/
def contains : List Nat → Nat → Bool
  | [], _ => false
  | b :: rest, n => if n < b then false else !contains rest n

/-- How far a member of the set lies behind the start of its run. -/
def offset? : List Nat → Nat → Option Nat
  | first :: stop :: rest, n =>
      if n < first then none
      else if n < stop then some (n - first)
      else offset? rest n
  | _, _ => none

theorem contains_cons_of_lt {b n : Nat} (rest : List Nat) (h : n < b) :
    contains (b :: rest) n = false := by
  simp [contains, h]

theorem contains_cons_of_le {b n : Nat} (rest : List Nat) (h : b ≤ n) :
    contains (b :: rest) n = !contains rest n := by
  simp [contains, Nat.not_lt.2 h]

/-- The members of a set, run by run; a last run without an end is left out. -/
def points : List Nat → List Nat
  | first :: stop :: rest => List.range' first (stop - first) ++ points rest
  | _ => []

theorem mem_points_of_contains :
    ∀ {bounds : List Nat}, bounds.length % 2 = 0 → ∀ {n : Nat}, contains bounds n = true →
      n ∈ points bounds
  | [], _, n, h => by cases h
  | [_], hlength, n, h => by cases hlength
  | first :: stop :: rest, hlength, n, h => by
    have hrest : rest.length % 2 = 0 := by
      simp only [List.length_cons] at hlength
      omega
    rw [points, List.mem_append, List.mem_range'_1]
    by_cases hfirst : n < first
    · rw [contains_cons_of_lt _ hfirst] at h
      cases h
    · rw [contains_cons_of_le _ (Nat.le_of_not_lt hfirst)] at h
      by_cases hstop : n < stop
      · exact Or.inl (by omega)
      · rw [contains_cons_of_le _ (Nat.le_of_not_lt hstop), Bool.not_not] at h
        exact Or.inr (mem_points_of_contains hrest h)

end CharSet

end Text

end SurfaceCoverage
