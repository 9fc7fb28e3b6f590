import Mathlib.Data.List.TakeDrop
import Mathlib.Tactic.IntervalCases
import SurfaceCoverage.Json.Reader
import SurfaceCoverage.Json.Writer
import SurfaceCoverage.Proofs.ShortestDigits

/-!
# The text of a number

A floating-point number is written with a fraction or with an exponent, so it is never taken for a
whole number.  Its whole part starts with a zero only if that is its only digit, so the reader does
not stop behind the zero.  What follows a number in a document is a comma or a line break, which
does not go on with it.

**Results.**
* `DecimalForm.Valid.readNumber_chars`: a number in decimal form is read up to its end.
* `Decimal.exists_form_write`: a finite number is written in decimal form.
* `exists_readValue_floatChars`: every floating-point number is read up to its end.
-/

namespace SurfaceCoverage

/-! ### Reading digits -/

namespace Json

/-- Digits, and at least one. -/
def IsDigits (ds : List Char) : Prop :=
  ds ≠ [] ∧ ∀ c ∈ ds, c.isDigit = true

/-- Digits that start with a zero only if it is the only one. -/
def IsWhole (ds : List Char) : Prop :=
  IsDigits ds ∧ (ds.head? = some '0' → ds = ['0'])

/-- What follows does not go on with digits, a point or an exponent. -/
def Ends (rest : List Char) : Prop :=
  ∃ c more, rest = c :: more ∧ (c = ',' ∨ c = '\n')

/-- What follows does not go on with digits. -/
def EndsDigits (rest : List Char) : Prop :=
  ∀ c more, rest = c :: more → c.isDigit = false

theorem Ends.endsDigits {rest : List Char} (h : Ends rest) :
    EndsDigits rest := by
  obtain ⟨c, more, rfl, hc⟩ := h
  rintro _ _ ⟨rfl, rfl⟩
  rcases hc with rfl | rfl <;> rfl

theorem endsDigits_cons {c : Char} {rest : List Char} (h : c.isDigit = false) :
    EndsDigits (c :: rest) := by
  rintro _ _ ⟨rfl, rfl⟩
  exact h

/-- Digits are taken up to what is none. -/
theorem spanDigits_append {ds rest : List Char} (hds : ∀ c ∈ ds, c.isDigit = true)
    (hrest : EndsDigits rest) :
    spanDigits (ds ++ rest) = (ds, rest) := by
  rw [spanDigits, List.span_eq_takeWhile_dropWhile]
  have hstop : rest.takeWhile Char.isDigit = [] ∧ rest.dropWhile Char.isDigit = rest := by
    cases rest with
    | nil => exact ⟨rfl, rfl⟩
    | cons c more => simp [hrest c more rfl]
  rw [List.takeWhile_append_of_pos hds, List.dropWhile_append_of_pos hds, hstop.1, hstop.2,
    List.append_nil]

/-- The parts of a number that is written with a fraction or an exponent: the digits in front of the
point and behind it, and the sign and the digits of the exponent. -/
structure DecimalForm where
  negative : Bool
  whole : List Char
  places : List Char
  exponent : Option (Char × List Char)

namespace DecimalForm

/-- The point, and the digits behind it. -/
def pointChars (f : DecimalForm) : List Char :=
  if f.places = [] then [] else '.' :: f.places

/-- The letter, the sign and the digits of the exponent. -/
def exponentChars (f : DecimalForm) : List Char :=
  match f.exponent with
  | none => []
  | some (sign, ds) => 'e' :: sign :: ds

/-- The text behind the sign. -/
def bodyChars (f : DecimalForm) : List Char :=
  f.whole ++ (f.pointChars ++ f.exponentChars)

/-- The text of the number. -/
def chars (f : DecimalForm) : List Char :=
  (if f.negative then ['-'] else []) ++ f.bodyChars

/-- The parts are digits, and there is a fraction or an exponent. -/
structure Valid (f : DecimalForm) : Prop where
  whole : IsWhole f.whole
  places : ∀ c ∈ f.places, c.isDigit = true
  exponent : ∀ sign ds, f.exponent = some (sign, ds) → (sign = '+' ∨ sign = '-') ∧ IsDigits ds
  marked : f.places ≠ [] ∨ f.exponent ≠ none

variable {f : DecimalForm} {rest : List Char}

theorem endsDigits_exponentChars (hrest : Ends rest) :
    EndsDigits (f.exponentChars ++ rest) := by
  unfold exponentChars
  split
  · exact hrest.endsDigits
  · exact endsDigits_cons rfl

theorem endsDigits_pointChars (hrest : Ends rest) :
    EndsDigits (f.pointChars ++ (f.exponentChars ++ rest)) := by
  unfold pointChars
  split
  · exact endsDigits_exponentChars hrest
  · exact endsDigits_cons rfl

/-- A whole part is read back. -/
theorem readWhole_append {ds : List Char} (hds : IsWhole ds) (hrest : EndsDigits rest) :
    readWhole (ds ++ rest) = some (ds, rest) := by
  obtain ⟨⟨hne, hdigits⟩, hzero⟩ := hds
  cases ds with
  | nil => exact absurd rfl hne
  | cons c more =>
    by_cases hc : c = '0'
    · have hone : c :: more = ['0'] := hzero (by simp [hc])
      rw [hone]
      rfl
    · have hspan := spanDigits_append hdigits hrest
      rw [List.cons_append] at hspan ⊢
      rw [readWhole.eq_def]
      split
      · next heq => exact absurd (List.cons.inj heq).1 hc
      · next heq =>
        obtain ⟨rfl, rfl⟩ := List.cons.inj heq
        rw [if_pos (hdigits c List.mem_cons_self), hspan]
      · next heq => cases heq

/-- The places behind the point are read back. -/
theorem readFraction_pointChars (hf : f.Valid) (hrest : Ends rest) :
    readFraction (f.pointChars ++ (f.exponentChars ++ rest)) =
      (if f.places = [] then none else some f.places, f.exponentChars ++ rest) := by
  unfold pointChars
  by_cases hplaces : f.places = []
  · rw [if_pos hplaces, if_pos hplaces, List.nil_append, readFraction.eq_def]
    split
    · next heq =>
      exfalso
      unfold exponentChars at heq
      split at heq
      · obtain ⟨c, more, rfl, hc⟩ := hrest
        obtain ⟨rfl, _⟩ := List.cons.inj heq
        revert hc
        decide
      · exact absurd (List.cons.inj heq).1 (by decide)
    · rfl
  · rw [if_neg hplaces, if_neg hplaces, List.cons_append, readFraction,
      spanDigits_append hf.places (endsDigits_exponentChars hrest)]
    cases hp : f.places with
    | nil => exact absurd hp hplaces
    | cons c more => rfl

/-- The exponent is read back, and is there if it was written. -/
theorem readExponent_exponentChars (hf : f.Valid) :
    ∃ e : Option Int, (e = none ↔ f.exponent = none)
      ∧ ∀ rest, Ends rest → readExponent (f.exponentChars ++ rest) = (e, rest) := by
  unfold exponentChars
  split
  · next hnone =>
    refine ⟨none, by simp [hnone], ?_⟩
    rintro _ ⟨c, more, rfl, rfl | rfl⟩ <;> rfl
  · next sign ds hsome =>
    obtain ⟨hsign, hne, hdigits⟩ := hf.exponent sign ds hsome
    obtain ⟨d, more, rfl⟩ := List.exists_cons_of_ne_nil hne
    have hspan : ∀ rest, Ends rest →
        spanDigits (d :: (more ++ rest)) = (d :: more, rest) :=
      fun rest hrest => spanDigits_append hdigits hrest.endsDigits
    rcases hsign with rfl | rfl
    · refine ⟨some (Decimal.digitsValue (d :: more)), by simp [hsome], ?_⟩
      intro rest hrest
      simp [readExponent, hspan rest hrest]
    · refine ⟨some (-(Decimal.digitsValue (d :: more) : Int)), by simp [hsome], ?_⟩
      intro rest hrest
      simp [readExponent, hspan rest hrest]

/-- The parts of a number are read one after the other. -/
theorem readNumber_of_parts {negative : Bool} {left : Nat} {body whole : List Char}
    {afterWhole afterPlaces : List Char} {places : Option (List Char)} {exponent : Option Int}
    (hminus : body.head? ≠ some '-') (hwhole : readWhole body = some (whole, afterWhole))
    (hplaces : readFraction afterWhole = (places, afterPlaces))
    (hexponent : readExponent afterPlaces = (exponent, rest))
    (hmarked : (places.isNone && exponent.isNone) = false) :
    readNumber left ((if negative then ['-'] else []) ++ body) =
      .ok (.float (Decimal.nearest negative (whole ++ places.getD [])
        (exponent.getD 0 - (places.getD []).length)), rest) := by
  cases negative with
  | true => simp [readNumber, hwhole, hplaces, hexponent, hmarked]
  | false =>
    rw [if_neg Bool.false_ne_true, List.nil_append, readNumber.eq_def]
    split
    next negative cs hsign =>
      split at hsign
      · exact absurd rfl hminus
      · obtain ⟨rfl, rfl⟩ := Prod.mk.inj hsign
        simp [hwhole, hplaces, hexponent, hmarked]

theorem head?_body_ne_minus (hf : f.Valid) :
    (f.whole ++ rest).head? ≠ some '-' := by
  obtain ⟨⟨hne, hdigits⟩, _⟩ := hf.whole
  obtain ⟨c, ds, hwhole⟩ := List.exists_cons_of_ne_nil hne
  rw [hwhole] at hdigits ⊢
  intro hc
  cases Option.some.inj hc
  exact absurd (hdigits '-' List.mem_cons_self) (by decide)

/-- A number in decimal form is read up to its end, as a floating-point number. -/
theorem Valid.readNumber_chars (hf : f.Valid) :
    ∃ x : Float, ∀ (left : Nat) (rest : List Char), Ends rest →
      readNumber left (f.chars ++ rest) = .ok (.float x, rest) := by
  obtain ⟨e, he, hexponent⟩ := readExponent_exponentChars hf
  let places : Option (List Char) := if f.places = [] then none else some f.places
  have hmarked : (places.isNone && e.isNone) = false := by
    rcases hf.marked with hplaces | hsome
    · simp [places, hplaces]
    · have hne : e ≠ none := fun h => hsome (he.1 h)
      simp [Option.isNone_eq_false_iff, Option.isSome_iff_ne_none, hne]
  refine ⟨Decimal.nearest f.negative (f.whole ++ places.getD [])
    (e.getD 0 - (places.getD []).length), ?_⟩
  intro left rest hrest
  have hchars : f.chars ++ rest = (if f.negative then ['-'] else []) ++
      (f.whole ++ (f.pointChars ++ (f.exponentChars ++ rest))) := by
    simp [chars, bodyChars]
  rw [hchars]
  exact readNumber_of_parts (head?_body_ne_minus hf)
    (readWhole_append hf.whole (endsDigits_pointChars hrest))
    (readFraction_pointChars hf hrest) (hexponent rest hrest) hmarked

end DecimalForm

end Json

/-! ### Writing digits -/

namespace Decimal

open Json

theorem isDigits_digitChars (n : Nat) :
    IsDigits (digitChars n) :=
  ⟨digitChars_ne_nil n, fun _ hc => Nat.isDigit_of_mem_toDigits (by decide) (by decide) hc⟩

/-- Digits of a number other than zero do not begin with zero. -/
theorem head?_digitChars_ne_zero {n : Nat} (hn : n ≠ 0) :
    (digitChars n).head? ≠ some '0' := by
  induction n using Nat.strongRecOn with
  | ind n ih =>
    unfold digitChars
    by_cases hlt : n < 10
    · rw [Nat.toDigits_of_lt_base hlt]
      interval_cases n <;> first | exact absurd rfl hn | decide
    · rw [Nat.toDigits_of_base_le (by decide) (Nat.le_of_not_lt hlt)]
      have hdiv := ih (n / 10) (by omega) (by omega)
      obtain ⟨c, ds, hds⟩ := List.exists_cons_of_ne_nil (digitChars_ne_nil (n / 10))
      rw [hds] at hdiv
      unfold digitChars at hds
      rw [hds]
      exact hdiv

theorem forall_isDigit_replicate_zero (k : Nat) :
    ∀ c ∈ List.replicate k '0', c.isDigit = true := by
  intro c hc
  rw [List.eq_of_mem_replicate hc]
  rfl

theorem forall_isDigit_append {ds ds' : List Char} (h : ∀ c ∈ ds, c.isDigit = true)
    (h' : ∀ c ∈ ds', c.isDigit = true) :
    ∀ c ∈ ds ++ ds', c.isDigit = true :=
  fun c hc => (List.mem_append.1 hc).elim (h c) (h' c)

/-- Digits with a point are in decimal form, unless zeros stand in front of them. -/
theorem exists_form_positional {ds : List Char} (hds : IsDigits ds) {point : Int}
    (hzero : 1 < point → ds.head? ≠ some '0') (negative : Bool) :
    ∃ f : DecimalForm, f.Valid ∧ f.negative = negative ∧ f.bodyChars = positional ds point := by
  obtain ⟨hne, hdigits⟩ := hds
  unfold positional
  split
  · next hpoint =>
    refine ⟨⟨negative, ['0'], List.replicate (-point).toNat '0' ++ ds, none⟩, ?_, rfl, ?_⟩
    · refine ⟨⟨⟨by simp, by simp⟩, fun _ => rfl⟩, ?_, by simp, Or.inl (by simp [hne])⟩
      exact forall_isDigit_append (forall_isDigit_replicate_zero _) hdigits
    · simp [DecimalForm.bodyChars, DecimalForm.pointChars, DecimalForm.exponentChars, hne]
  · next hpoint =>
    dsimp only
    split
    · next hlength =>
      refine ⟨⟨negative, ds ++ List.replicate (point.toNat - ds.length) '0', ['0'], none⟩, ?_, rfl,
        ?_⟩
      · refine ⟨⟨⟨by simp [hne], ?_⟩, ?_⟩, by simp, by simp, Or.inl (by simp)⟩
        · exact forall_isDigit_append hdigits (forall_isDigit_replicate_zero _)
        · intro hhead
          obtain ⟨c, more, rfl⟩ := List.exists_cons_of_ne_nil hne
          obtain rfl : c = '0' := by simpa using hhead
          have hone : point = 1 := by
            by_contra hother
            exact hzero (by omega) rfl
          subst hone
          have hmore : more = [] := by
            apply List.eq_nil_of_length_eq_zero
            simp only [List.length_cons] at hlength
            omega
          subst hmore
          rfl
      · simp [DecimalForm.bodyChars, DecimalForm.pointChars, DecimalForm.exponentChars]
    · next hlength =>
      have hdrop : ds.drop point.toNat ≠ [] := by
        simp only [ne_eq, List.drop_eq_nil_iff]
        exact hlength
      refine ⟨⟨negative, ds.take point.toNat, ds.drop point.toNat, none⟩, ?_, rfl, ?_⟩
      · refine ⟨⟨⟨?_, fun c hc => hdigits c (List.mem_of_mem_take hc)⟩, ?_⟩,
          fun c hc => hdigits c (List.mem_of_mem_drop hc), by simp, Or.inl hdrop⟩
        · simp only [ne_eq, List.take_eq_nil_iff, hne, or_false]
          omega
        · intro hhead
          obtain ⟨c, more, rfl⟩ := List.exists_cons_of_ne_nil hne
          obtain ⟨k, hk⟩ : ∃ k, point.toNat = k + 1 := ⟨point.toNat - 1, by omega⟩
          rw [hk, List.take_succ_cons] at hhead ⊢
          obtain rfl : c = '0' := by simpa using hhead
          have hone : point = 1 := by
            by_contra hother
            exact hzero (by omega) rfl
          have hkzero : k = 0 := by omega
          rw [hkzero, List.take_zero]
      · simp [DecimalForm.bodyChars, DecimalForm.pointChars, DecimalForm.exponentChars, hdrop]

/-- Digits with an exponent are in decimal form. -/
theorem exists_form_scientific {ds : List Char} (hds : IsDigits ds) (style : FloatStyle)
    (point : Int) (negative : Bool) :
    ∃ f : DecimalForm, f.Valid ∧ f.negative = negative
      ∧ f.bodyChars = scientific style ds point := by
  obtain ⟨hne, hdigits⟩ := hds
  obtain ⟨c, more, rfl⟩ := List.exists_cons_of_ne_nil hne
  have hexponent : IsDigits (padLeft style.exponentDigits (digitChars (point - 1).natAbs)) := by
    obtain ⟨hne, hdigits⟩ := isDigits_digitChars (point - 1).natAbs
    refine ⟨by simp [padLeft, hne], ?_⟩
    exact forall_isDigit_append (forall_isDigit_replicate_zero _) hdigits
  refine ⟨⟨negative, [c], more, some (if point - 1 < 0 then '-' else '+',
    padLeft style.exponentDigits (digitChars (point - 1).natAbs))⟩, ?_, rfl, ?_⟩
  · refine ⟨⟨⟨by simp, ?_⟩, ?_⟩, ?_, ?_, Or.inr (by simp)⟩
    · intro d hd
      rw [List.mem_singleton.1 hd]
      exact hdigits c List.mem_cons_self
    · intro hhead
      obtain rfl : c = '0' := by simpa using hhead
      rfl
    · exact fun d hd => hdigits d (List.mem_cons_of_mem c hd)
    · rintro sign ds' heq
      cases heq
      refine ⟨?_, hexponent⟩
      split
      · exact Or.inr rfl
      · exact Or.inl rfl
  · cases more with
    | nil =>
      simp [DecimalForm.bodyChars, DecimalForm.pointChars, DecimalForm.exponentChars, scientific]
    | cons d more =>
      simp [DecimalForm.bodyChars, DecimalForm.pointChars, DecimalForm.exponentChars, scientific]

/-- Every finite number is written in decimal form. -/
theorem exists_form_write (negative : Bool) (m : Nat) (e : Int) :
    ∃ f : DecimalForm, f.Valid
      ∧ f.chars = (write plainStyle (.finite negative m e)).toList := by
  -- the sign aside, there are three ways to write a number
  suffices hbody : ∃ f : DecimalForm, f.Valid ∧ f.negative = negative
      ∧ f.bodyChars =
        if m = 0 then ['0', '.', '0']
        else if plainStyle.leastPoint ≤ (shortest m e).point
            ∧ (shortest m e).point ≤ plainStyle.greatestPoint then
          positional (digitChars (shortest m e).digits) (shortest m e).point
        else scientific plainStyle (digitChars (shortest m e).digits) (shortest m e).point by
    obtain ⟨f, hf, rfl, hchars⟩ := hbody
    refine ⟨f, hf, ?_⟩
    rw [DecimalForm.chars, hchars, write]
    cases f.negative <;> simp
  split
  · refine ⟨⟨negative, ['0'], ['0'], none⟩, ?_, rfl, ?_⟩
    · exact ⟨⟨⟨by simp, by simp⟩, fun _ => rfl⟩, by simp, by simp, Or.inl (by simp)⟩
    · simp [DecimalForm.bodyChars, DecimalForm.pointChars, DecimalForm.exponentChars]
  · next hm =>
    have hds := isDigits_digitChars (shortest m e).digits
    split
    · refine exists_form_positional hds ?_ negative
      exact fun hpoint => head?_digitChars_ne_zero (shortest_digits_ne_zero hm e hpoint)
    · exact exists_form_scientific hds plainStyle _ negative

end Decimal

/-! ### Floating-point numbers -/

namespace Json

/-- A number starts with a digit, or with a sign and a digit. -/
theorem exists_chars_eq {f : DecimalForm} (hf : f.Valid) :
    ∃ c more, c.isDigit = true ∧ (f.chars = c :: more ∨ f.chars = '-' :: c :: more) := by
  obtain ⟨⟨hne, hdigits⟩, _⟩ := hf.whole
  obtain ⟨c, ds, hwhole⟩ := List.exists_cons_of_ne_nil hne
  refine ⟨c, ds ++ (f.pointChars ++ f.exponentChars), hdigits c (by simp [hwhole]), ?_⟩
  unfold DecimalForm.chars DecimalForm.bodyChars
  rw [hwhole]
  cases f.negative with
  | true => exact Or.inr rfl
  | false => exact Or.inl rfl

/-- A word does not stand at the front of a number. -/
theorem afterWord?_form {f : DecimalForm} (hf : f.Valid) {word : String} {a b : Char}
    {letters : List Char} (hword : word.toList = a :: b :: letters) (ha : a.isDigit = false)
    (hb : b.isDigit = false) (rest : List Char) :
    afterWord? word (f.chars ++ rest) = none := by
  have hne : ∀ {c d : Char}, c.isDigit = true → d.isDigit = false → ¬ d = c := by
    rintro c d hc hd rfl
    rw [hc] at hd
    cases hd
  obtain ⟨c, more, hc, hchars | hchars⟩ := exists_chars_eq hf
  · simp [afterWord?, hword, hchars, hne hc ha]
  · simp [afterWord?, hword, hchars, hne hc hb]

/-- A number in decimal form is taken for nothing but a number. -/
theorem readValue_form {f : DecimalForm} (hf : f.Valid) (fuel : Nat) (rest : List Char) :
    readValue (fuel + 1) (f.chars ++ rest) =
      readNumber (f.chars ++ rest).length (f.chars ++ rest) := by
  have hword : ∀ word a b letters, word.toList = a :: b :: letters → a.isDigit = false →
      b.isDigit = false → afterWord? word (f.chars ++ rest) = none :=
    fun word a b letters h ha hb => afterWord?_form hf h ha hb rest
  have hnull := hword "null" 'n' 'u' _ rfl rfl rfl
  have htrue := hword "true" 't' 'r' _ rfl rfl rfl
  have hfalse := hword "false" 'f' 'a' _ rfl rfl rfl
  have hnan := hword "NaN" 'N' 'a' _ rfl rfl rfl
  have hinf := hword "Infinity" 'I' 'n' _ rfl rfl rfl
  have hneg := hword "-Infinity" '-' 'I' _ rfl rfl rfl
  obtain ⟨c, more, hc, hchars⟩ := exists_chars_eq hf
  have hhead : ∃ d cs, f.chars ++ rest = d :: cs ∧ d ≠ '"' ∧ d ≠ '\x7b' ∧ d ≠ '[' := by
    rcases hchars with hchars | hchars
    · refine ⟨c, more ++ rest, by rw [hchars, List.cons_append], ?_, ?_, ?_⟩ <;>
        (rintro rfl; exact absurd hc (by decide))
    · exact ⟨'-', c :: more ++ rest, by rw [hchars]; rfl, by decide, by decide, by decide⟩
  obtain ⟨d, cs, heq, hquote, hbrace, hbracket⟩ := hhead
  rw [heq] at hnull htrue hfalse hnan hinf hneg ⊢
  rw [readValue.eq_def]
  simp only [hnull, htrue, hfalse, hnan, hinf, hneg]
  split
  · next h => cases h
  · next h => exact absurd (List.cons.inj h).1 hquote
  · next h => exact absurd (List.cons.inj h).1 hbrace
  · next h => exact absurd (List.cons.inj h).1 hbracket
  · rfl

/-- Every floating-point number is read up to its end. -/
theorem exists_readValue_floatChars (x : Float) :
    ∃ y : Float, ∀ (fuel : Nat) (rest : List Char), Ends rest →
      readValue (fuel + 1) (floatChars x ++ rest) = .ok (.float y, rest) := by
  unfold floatChars
  cases Decimal.Double.ofFloat x with
  | notANumber => exact ⟨0.0 / 0.0, fun fuel rest _ => rfl⟩
  | infinite negative =>
    cases negative with
    | true => exact ⟨-1.0 / 0.0, fun fuel rest _ => rfl⟩
    | false => exact ⟨1.0 / 0.0, fun fuel rest _ => rfl⟩
  | finite negative m e =>
    obtain ⟨f, hf, hchars⟩ := Decimal.exists_form_write negative m e
    obtain ⟨y, hy⟩ := hf.readNumber_chars
    refine ⟨y, fun fuel rest hrest => ?_⟩
    dsimp only
    rw [← hchars, readValue_form hf, hy _ rest hrest]

end Json

end SurfaceCoverage
