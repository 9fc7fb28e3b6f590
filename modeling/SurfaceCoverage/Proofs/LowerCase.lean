import Mathlib.Data.Nat.Bitwise
import SurfaceCoverage.Text.CaseMap

/-!
# Lower case is a normal form

No character that lower case puts is changed by it again, so the lower case of a text is its own
lower case.  A dot stays in front.

**Results.**
* `disjoint_of_maskOf`: two lists of numbers have none in common if their masks have no bit in
  common.
* `lower_lower`: the lower case of a lower case.
* `head?_lower_of_dot`: lower case keeps a dot in front.
-/

namespace SurfaceCoverage

namespace Text

/-! ### Code points that move -/

namespace CaseRun

/-- The code points that a run covers. -/
def points (r : CaseRun) : List Nat :=
  ((List.range (r.last + 1 - r.first)).filter fun k => k % r.step = 0).map (r.first + ·)

/-- Where a run moves a code point. -/
def image (r : CaseRun) (n : Nat) : Nat :=
  ((n : Int) + r.offset).toNat

theorem mem_points {r : CaseRun} {n : Nat} :
    n ∈ r.points ↔ r.first ≤ n ∧ n ≤ r.last ∧ (n - r.first) % r.step = 0 := by
  simp only [points, List.mem_map, List.mem_filter, List.mem_range, decide_eq_true_eq]
  constructor
  · rintro ⟨k, ⟨hk, hstep⟩, rfl⟩
    refine ⟨by omega, by omega, ?_⟩
    rwa [Nat.add_sub_cancel_left]
  · rintro ⟨hfirst, hlast, hstep⟩
    exact ⟨n - r.first, ⟨by omega, hstep⟩, by omega⟩

theorem apply?_of_mem {r : CaseRun} {n : Nat} (h : n ∈ r.points) :
    r.apply? n = some (r.image n) :=
  if_pos (mem_points.1 h)

theorem apply?_of_not_mem {r : CaseRun} {n : Nat} (h : n ∉ r.points) :
    r.apply? n = none :=
  if_neg fun hn => h (mem_points.2 hn)

end CaseRun

theorem applyRuns_of_not_mem {c : Char} {runs : List CaseRun}
    (h : ∀ r ∈ runs, c.toNat ∉ r.points) :
    applyRuns c runs = c := by
  induction runs with
  | nil => rfl
  | cons r rest ih =>
    rw [applyRuns, CaseRun.apply?_of_not_mem (h r (List.mem_cons_self ..))]
    split
    · rfl
    · exact ih fun r' hr' => h r' (List.mem_cons_of_mem _ hr')

/-- A character stays as it is, or one of the runs moves it. -/
theorem applyRuns_cases (c : Char) (runs : List CaseRun) :
    applyRuns c runs = c
      ∨ ∃ r ∈ runs, c.toNat ∈ r.points ∧ applyRuns c runs = Char.ofNat (r.image c.toNat) := by
  induction runs with
  | nil => exact Or.inl rfl
  | cons r rest ih =>
    rw [applyRuns]
    split
    · exact Or.inl rfl
    · by_cases hmem : c.toNat ∈ r.points
      · rw [CaseRun.apply?_of_mem hmem]
        exact Or.inr ⟨r, List.mem_cons_self .., hmem, rfl⟩
      · rw [CaseRun.apply?_of_not_mem hmem]
        rcases ih with h | ⟨r', hr', hmem', h⟩
        · exact Or.inl h
        · exact Or.inr ⟨r', List.mem_cons_of_mem _ hr', hmem', h⟩

/-! ### Where they move -/

/-- The number whose bits are set at the numbers of a list. -/
def maskOf (l : List Nat) : Nat :=
  l.foldr (fun n mask => 1 <<< n ||| mask) 0

theorem testBit_maskOf {l : List Nat} {n : Nat} :
    (maskOf l).testBit n = true ↔ n ∈ l := by
  induction l with
  | nil => simp [maskOf]
  | cons m rest ih =>
    rw [maskOf, List.foldr_cons, Nat.testBit_or, Bool.or_eq_true, List.mem_cons, Nat.one_shiftLeft,
      Nat.testBit_two_pow, decide_eq_true_eq, eq_comm]
    exact or_congr_right ih

theorem disjoint_of_maskOf {l r : List Nat} (h : maskOf l &&& maskOf r = 0) {n : Nat}
    (hl : n ∈ l) :
    n ∉ r := by
  intro hr
  have hbit := congrArg (·.testBit n) h
  simp [Nat.testBit_and, testBit_maskOf.2 hl, testBit_maskOf.2 hr] at hbit

/-- The code points that lower case changes. -/
def raised : List Nat :=
  lowerExpansions.map Prod.fst ++ lowerRuns.flatMap CaseRun.points

/-- The code points that lower case puts for them; a code point without a character counts as the
first one. -/
def lowered : List Nat :=
  [0, 0x3C2, 0x3C3] ++ lowerExpansions.flatMap Prod.snd
    ++ lowerRuns.flatMap fun r => r.points.map r.image

/-- No code point that is put is changed again. -/
theorem not_mem_raised {n : Nat} (h : n ∈ lowered) :
    n ∉ raised :=
  -- the lists are long, and their masks take one step to compare
  disjoint_of_maskOf (by decide +kernel) h

/-! ### What is in lower case -/

/-- The character is not changed, wherever it stands. -/
def IsLower (c : Char) : Prop :=
  lowerMap.char c = [c] ∧ c.toNat ≠ 0x3A3

theorem isLower_of_not_mem_raised {c : Char} (h : c.toNat ∉ raised) :
    IsLower c := by
  obtain ⟨hexpansions, hruns⟩ := not_or.1 (mt List.mem_append.2 h)
  have hstays : applyRuns c lowerRuns = c :=
    applyRuns_of_not_mem fun r hr hmem => hruns (List.mem_flatMap.2 ⟨r, hr, hmem⟩)
  refine ⟨?_, ?_⟩
  · have hnone : lowerExpansions.find? (fun p => p.1 == c.toNat) = none := by
      rw [List.find?_eq_none]
      intro p hp heq
      exact hexpansions (List.mem_map.2 ⟨p, hp, beq_iff_eq.1 heq⟩)
    rw [CaseMap.char, lowerMap, hstays]
    split
    · rfl
    · rw [hnone]
  · rintro hsigma
    rw [hsigma] at h
    exact h (by decide +kernel)

theorem isLower_ofNat {n : Nat} (h : n ∈ lowered) :
    IsLower (Char.ofNat n) := by
  apply isLower_of_not_mem_raised
  by_cases hvalid : n.isValidChar
  · have hcode : (Char.ofNat n).toNat = n := by
      rw [Char.ofNat, dif_pos hvalid]
      rfl
    rw [hcode]
    exact not_mem_raised h
  · have hcode : (Char.ofNat n).toNat = 0 := by
      rw [Char.ofNat, dif_neg hvalid]
      rfl
    rw [hcode]
    exact not_mem_raised (List.mem_append_left _ (List.mem_append_left _ (by decide)))

/-- What is put for a character other than the capital sigma is in lower case. -/
theorem isLower_of_mem_char {c put : Char} (hc : c.toNat ≠ 0x3A3) (h : put ∈ lowerMap.char c) :
    IsLower put := by
  -- without an expansion, the character stays or a run moves it
  have hruns : lowerMap.char c = [applyRuns c lowerRuns] → IsLower put := by
    intro hchar
    rw [hchar, List.mem_singleton] at h
    rcases applyRuns_cases c lowerRuns with hstays | ⟨r, hr, hmem, hmoves⟩
    · rw [hstays] at h hchar
      subst h
      exact ⟨hchar, hc⟩
    · rw [h, hmoves]
      refine isLower_ofNat (List.mem_append_right _ (List.mem_flatMap.2 ⟨r, hr, ?_⟩))
      exact List.mem_map_of_mem hmem
  unfold CaseMap.char at h hruns
  split at h
  · next hsmall => exact hruns (if_pos hsmall)
  · next hsmall =>
    split at h
    · next p hp =>
      obtain ⟨n, hn, rfl⟩ := List.mem_map.1 h
      refine isLower_ofNat (List.mem_append_left _ (List.mem_append_right _ ?_))
      exact List.mem_flatMap.2 ⟨p, List.mem_of_find?_eq_some hp, hn⟩
    · next hnone =>
      refine hruns ?_
      rw [if_neg hsmall, hnone]
      rfl

theorem isLower_of_mem_lowerAfter {before cs : List Char} {c : Char}
    (h : c ∈ lowerAfter before cs) :
    IsLower c := by
  induction cs generalizing before with
  | nil => cases h
  | cons first rest ih =>
    rw [lowerAfter, List.mem_append] at h
    rcases h with h | h
    · split at h
      · have hsigma : c = Char.ofNat 0x3C2 ∨ c = Char.ofNat 0x3C3 := by
          split at h
          · exact Or.inl (List.mem_singleton.1 h)
          · exact Or.inr (List.mem_singleton.1 h)
        rcases hsigma with rfl | rfl <;>
          exact isLower_ofNat (List.mem_append_left _ (List.mem_append_left _ (by decide)))
      · next hfirst => exact isLower_of_mem_char hfirst h
    · exact ih h

theorem lowerAfter_of_isLower {before cs : List Char} (h : ∀ c ∈ cs, IsLower c) :
    lowerAfter before cs = cs := by
  induction cs generalizing before with
  | nil => rfl
  | cons c rest ih =>
    obtain ⟨hchar, hsigma⟩ := h c (List.mem_cons_self ..)
    rw [lowerAfter, ih fun c' hc' => h c' (List.mem_cons_of_mem _ hc')]
    simp only [if_neg hsigma, hchar]
    rfl

/-- Lower case is a normal form. -/
@[simp]
theorem lower_lower (s : String) :
    lower (lower s) = lower s := by
  have hlower : ∀ c ∈ (lower s).toList, IsLower c := by
    intro c hc
    rw [lower, String.toList_ofList] at hc
    exact isLower_of_mem_lowerAfter hc
  rw [lower, lowerAfter_of_isLower hlower, String.ofList_toList]

theorem head?_lower_of_dot {s : String} (h : s.toList.head? = some '.') :
    (lower s).toList.head? = some '.' := by
  obtain ⟨rest, hrest⟩ := List.head?_eq_some_iff.1 h
  have hdot : lowerMap.char '.' = ['.'] := by decide +kernel
  rw [lower, String.toList_ofList, hrest, lowerAfter, if_neg (by decide), hdot]
  rfl

end Text

end SurfaceCoverage
