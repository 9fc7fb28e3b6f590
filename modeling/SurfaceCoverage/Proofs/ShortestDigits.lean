import SurfaceCoverage.Decimal.Shortest

/-!
# Shortest digits

The fewest digits that read back are searched on grids of one digit, two digits, and so on.  A grid
point that is taken is never zero, because the interval of numbers that round to a positive double
lies above zero; and where the search would give up, the whole part is taken, which is not zero when
two digits or more stand in front of the point.

**Results.**
* `Interval.point?_ne_zero`: the grid point that is taken is not zero.
* `Fraction.floor_pos_of_point`: a number with two digits in front of the point is not below one.
* `shortest_digits_ne_zero`: a number with two digits in front of the point has digits that are not
  all zero.
-/

namespace SurfaceCoverage

namespace Decimal

theorem stripZeros_ne_zero {fuel n : Nat} (hn : n ≠ 0) :
    stripZeros fuel n ≠ 0 := by
  induction fuel generalizing n with
  | zero => exact hn
  | succ fuel ih =>
    rw [stripZeros]
    split
    · exact ih (by omega)
    · exact hn

theorem Fraction.ofBinary_num_pos {m : Nat} (hm : 0 < m) (e : Int) :
    0 < (Fraction.ofBinary m e).num := by
  unfold ofBinary
  split
  · exact Nat.mul_pos hm (Nat.pow_pos (by decide))
  · exact hm

theorem Fraction.ofBinary_den_pos (m : Nat) (e : Int) :
    0 < (Fraction.ofBinary m e).den := by
  unfold ofBinary
  split
  · exact Nat.one_pos
  · exact Nat.pow_pos (by decide)

theorem Fraction.scaled_num_pos {x : Fraction} (hx : 0 < x.num) (k : Int) :
    0 < (x.scaled k).num := by
  unfold scaled
  split
  · exact hx
  · exact Nat.mul_pos hx (Nat.pow_pos (by decide))

/-- A fraction that reaches a power of ten is not below one. -/
theorem Fraction.den_le_num_of_scaled {x : Fraction} {k : Int} (hk : 0 ≤ k)
    (h : (x.scaled k).den ≤ (x.scaled k).num) :
    x.den ≤ x.num := by
  rw [scaled, if_pos hk] at h
  have hpow : 1 ≤ Nat.pow 10 k.toNat := Nat.pow_pos (by decide)
  have hmul : x.den * 1 ≤ x.den * Nat.pow 10 k.toNat := Nat.mul_le_mul_left x.den hpow
  dsimp only at h
  omega

theorem lt_pow_digitCount (n : Nat) :
    n < Nat.pow 10 (digitCount n) := by
  have hpos : 0 < digitCount n := Nat.length_toDigits_pos
  exact (Nat.length_toDigits_le_iff (by decide) hpos).1 (Nat.le_refl _)

theorem pow_le_of_lt_digitCount {n k : Nat} (hk : 0 < k) (h : k < digitCount n) :
    Nat.pow 10 k ≤ n := by
  have hiff := Nat.length_toDigits_le_iff (b := 10) (n := n) (by decide) hk
  have hnot : ¬ digitCount n ≤ k := Nat.not_le.2 h
  exact Nat.not_lt.1 fun hlt => hnot (hiff.2 hlt)

/-- The search for the decimal exponent ends where the fraction reaches the power of ten, or after
all of its steps. -/
theorem Fraction.magnitude_cases (x : Fraction) (fuel : Nat) (p : Int) :
    ((x.scaled (x.magnitude fuel p - 1)).den ≤ (x.scaled (x.magnitude fuel p - 1)).num)
    ∨ x.magnitude fuel p = p - fuel := by
  induction fuel generalizing p with
  | zero => exact Or.inr (by simp [magnitude])
  | succ fuel ih =>
    rw [magnitude]
    split
    · next h => exact Or.inl h
    · rcases ih (p - 1) with h | h
      · exact Or.inl h
      · refine Or.inr (h.trans ?_)
        push_cast
        omega

/-- A fraction with two digits in front of the point, or more, is not below one. -/
theorem Fraction.floor_pos_of_point {x : Fraction} (hden : 0 < x.den) (h : 1 < x.point) :
    0 < x.floor := by
  suffices hle : x.den ≤ x.num from Nat.div_pos hle hden
  rcases x.magnitude_cases (digitCount x.den + 1) (digitCount x.num) with hreach | hend
  · refine den_le_num_of_scaled ?_ hreach
    change 0 ≤ x.point - 1
    omega
  · -- the numerator has so many more digits than the denominator
    have hcount : digitCount x.den < digitCount x.num := by
      have hpoint : x.point = digitCount x.num - ((digitCount x.den + 1 : Nat) : Int) := hend
      omega
    have hlt := lt_pow_digitCount x.den
    have hge := pow_le_of_lt_digitCount (Nat.length_toDigits_pos (b := 10) (n := x.den)) hcount
    exact Nat.le_of_lt (Nat.lt_of_lt_of_le hlt hge)

/-- Zero is not in the interval of a positive number. -/
theorem Interval.holds_zero {i : Interval} (hi : 0 < i.lower.num) (k : Int) :
    i.holds 0 k = false := by
  have hpos := Fraction.scaled_num_pos hi k
  unfold holds
  simp only [Nat.zero_mul]
  split
  · simp only [Bool.and_eq_false_iff, decide_eq_false_iff_not]
    omega
  · simp

theorem Interval.point?_ne_zero {i : Interval} (hi : 0 < i.lower.num) {k : Int} {n : Nat}
    (h : i.point? k = some n) :
    n ≠ 0 := by
  unfold point? at h
  have hzero := Interval.holds_zero hi k
  cases hfloor : i.holds (i.value.scaled k).floor k with
  | true =>
    have hne : (i.value.scaled k).floor ≠ 0 := by
      intro hf
      rw [hf, hzero] at hfloor
      cases hfloor
    cases hnext : i.holds ((i.value.scaled k).floor + 1) k with
    | true =>
      simp only [hfloor, hnext, Option.some.injEq] at h
      have hround : (i.value.scaled k).floor ≤ (i.value.scaled k).roundHalfEven := by
        unfold Fraction.roundHalfEven Fraction.floor
        dsimp only
        split
        · exact Nat.le_refl _
        · split
          · omega
          · split <;> omega
      omega
    | false =>
      simp only [hfloor, hnext, Option.some.injEq] at h
      omega
  | false =>
    cases hnext : i.holds ((i.value.scaled k).floor + 1) k with
    | true =>
      simp only [hfloor, hnext, Option.some.injEq] at h
      omega
    | false => simp [hfloor, hnext] at h

theorem Interval.search_digits_ne_zero {i : Interval} (hi : 0 < i.lower.num) {point : Int}
    (hfloor : 1 < point → i.value.floor ≠ 0) (fuel count : Nat)
    (h : 1 < (i.search point fuel count).point) :
    (i.search point fuel count).digits ≠ 0 := by
  induction fuel generalizing count with
  | zero =>
    rw [search] at h ⊢
    exact hfloor h
  | succ fuel ih =>
    rw [search] at h ⊢
    split
    · next n hn =>
      split
      · simp
      · exact stripZeros_ne_zero (Interval.point?_ne_zero hi hn)
    · next hnone =>
      simp only [hnone] at h
      exact ih (count + 1) h

/-- A number with two digits in front of the point, or more, has a digit that is not zero. -/
theorem shortest_digits_ne_zero {m : Nat} (hm : m ≠ 0) (e : Int) (h : 1 < (shortest m e).point) :
    (shortest m e).digits ≠ 0 := by
  have hlower : 0 < (Interval.ofBinary m e).lower.num := by
    unfold Interval.ofBinary
    dsimp only
    split
    · exact Fraction.ofBinary_num_pos (by omega) _
    · exact Fraction.ofBinary_num_pos (by omega) _
  have hden : 0 < (Interval.ofBinary m e).value.den := Fraction.ofBinary_den_pos m e
  refine Interval.search_digits_ne_zero hlower ?_ 17 1 h
  intro hpoint
  exact Nat.pos_iff_ne_zero.1 (Fraction.floor_pos_of_point hden hpoint)

end Decimal

end SurfaceCoverage
