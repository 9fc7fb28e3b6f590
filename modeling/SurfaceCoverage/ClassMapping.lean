import SurfaceCoverage.OrderedMap
import SurfaceCoverage.Text.Order

/-!
# Class mappings

A class mapping gives the target class of reference classes.  A class is looked up by its full
name; failing that, by its simple name, the part behind the last dot: then of all classes with that
simple name the one with the smallest full name answers.

**Results.**
* `leastName?_eq_some_iff`: the smallest name of a list is the one that comes before all others.
-/

namespace SurfaceCoverage

/-- The smallest name of a list. -/
def leastName? : List String → Option String
  | [] => none
  | a :: rest =>
      match leastName? rest with
      | none => some a
      | some b => if a ≤ b then some a else some b

/-- The part of a name behind its last dot. -/
def simpleName (name : String) : String :=
  String.ofList ((name.toList.reverse.takeWhile (· ≠ '.')).reverse)

/-- The target classes of reference classes. -/
structure ClassMapping where
  entries : OrderedMap String String

namespace ClassMapping

/-- The mapped class that answers for a simple name. -/
def representative? (m : ClassMapping) (simple : String) : Option String :=
  leastName? (m.entries.keys.filter fun k => simpleName k = simple)

/-- The target class of a reference class. -/
def resolve (m : ClassMapping) (name : String) : Option String :=
  match m.entries.get? name with
  | some target => some target
  | none => (m.representative? (simpleName name)).bind m.entries.get?

/-- How many classes are mapped. -/
def size (m : ClassMapping) : Nat :=
  m.entries.size

/-- Whether two mappings map the same classes to the same targets. -/
def isEquiv (m n : ClassMapping) : Bool :=
  m.entries.isEquiv n.entries

end ClassMapping

theorem leastName?_mem {l : List String} {a : String} (h : leastName? l = some a) :
    a ∈ l := by
  induction l generalizing a with
  | nil => simp [leastName?] at h
  | cons b rest ih =>
    cases hr : leastName? rest with
    | none =>
      simp only [leastName?, hr, Option.some.injEq] at h
      exact h ▸ List.mem_cons_self
    | some c =>
      by_cases hbc : b ≤ c
      · simp only [leastName?, hr, hbc, if_true, Option.some.injEq] at h
        exact h ▸ List.mem_cons_self
      · simp only [leastName?, hr, hbc, if_false, Option.some.injEq] at h
        subst h
        exact List.mem_cons_of_mem b (ih hr)

theorem leastName?_eq_none_iff {l : List String} :
    leastName? l = none ↔ l = [] := by
  cases l with
  | nil => simp [leastName?]
  | cons a rest =>
    cases hr : leastName? rest with
    | none => simp [leastName?, hr]
    | some b => by_cases hab : a ≤ b <;> simp [leastName?, hr, hab]

theorem le_of_leastName? {l : List String} {a b : String} (h : leastName? l = some a)
    (hb : b ∈ l) :
    a ≤ b := by
  induction l generalizing a with
  | nil => cases hb
  | cons c rest ih =>
    cases hr : leastName? rest with
    | none =>
      simp only [leastName?, hr, Option.some.injEq] at h
      rw [leastName?_eq_none_iff.1 hr, List.mem_singleton] at hb
      subst h hb
      exact String.le_refl b
    | some d =>
      by_cases hcd : c ≤ d
      · simp only [leastName?, hr, hcd, if_true, Option.some.injEq] at h
        subst h
        rcases List.mem_cons.1 hb with rfl | hrest
        · exact String.le_refl b
        · exact String.le_trans hcd (ih hr hrest)
      · simp only [leastName?, hr, hcd, if_false, Option.some.injEq] at h
        subst h
        rcases List.mem_cons.1 hb with rfl | hrest
        · exact (String.le_total d b).resolve_right hcd
        · exact ih hr hrest

/-- The smallest name of a list is the one of the list that comes before all others. -/
theorem leastName?_eq_some_iff {l : List String} {a : String} :
    leastName? l = some a ↔ a ∈ l ∧ ∀ b ∈ l, a ≤ b := by
  constructor
  · intro h
    exact ⟨leastName?_mem h, fun b hb => le_of_leastName? h hb⟩
  · rintro ⟨ha, hle⟩
    cases h : leastName? l with
    | none =>
      rw [leastName?_eq_none_iff.1 h] at ha
      cases ha
    | some c =>
      have hac : a = c := String.le_antisymm (hle c (leastName?_mem h)) (le_of_leastName? h ha)
      rw [hac]

/-- Which names a list has decides which one is the smallest. -/
theorem leastName?_congr {l l' : List String} (h : ∀ a, a ∈ l ↔ a ∈ l') :
    leastName? l = leastName? l' := by
  apply Option.ext
  intro a
  simp only [leastName?_eq_some_iff, h]

/-- A target class is that of some mapped class: the class itself, or one with its simple name. -/
theorem ClassMapping.exists_key_of_resolve {m : ClassMapping} {name target : String}
    (h : m.resolve name = some target) :
    ∃ key, m.entries.get? key = some target ∧ (key = name ∨ simpleName key = simpleName name) := by
  unfold resolve at h
  cases hname : m.entries.get? name with
  | some t =>
    rw [hname] at h
    exact ⟨name, hname.trans h, Or.inl rfl⟩
  | none =>
    rw [hname] at h
    obtain ⟨key, hkey, htarget⟩ := Option.bind_eq_some_iff.1 h
    have hsimple := (List.mem_filter.1 (leastName?_mem hkey)).2
    exact ⟨key, htarget, Or.inr (of_decide_eq_true hsimple)⟩

end SurfaceCoverage
