import SurfaceCoverage.Text.CaseMap

/-!
# Character tests

A pattern tests single characters: against code points, ranges of them and classes, possibly
without regard to case.

**Results.**
* `sameCase_exact`: with regard to case, a character counts as itself only.
-/

namespace SurfaceCoverage

namespace Pattern

/-- A class of characters. -/
inductive CharClass where
  | digit
  | blank
  | word
  deriving Repr, DecidableEq

/-- How characters that differ in case compare. -/
inductive CaseRule where
  | exact
  | ascii
  | full
  deriving Repr, DecidableEq

/-- A part of a test. -/
inductive TestItem where
  | code (n : Nat)
  | range (first last : Nat)
  | ofClass (c : CharClass) (outside : Bool)
  deriving Repr, DecidableEq

/-- A test for a single character. -/
structure CharTest where
  negated : Bool
  items : List TestItem
  caseRule : CaseRule
  asciiClasses : Bool
  deriving Repr, DecidableEq

/-- Whether a character belongs to a class. -/
def CharClass.holds (ascii : Bool) (k : CharClass) (c : Char) : Bool :=
  (!ascii || c.toNat < 128) &&
    match k with
    | .digit => Text.isDecimalDigit c
    | .blank =>
        if ascii then c == ' ' || (9 ≤ c.toNat && c.toNat ≤ 13) else Text.isBlank c
    | .word => Text.isWord c

/-- Lower-case letters that compare as equal although no case map connects them. -/
def kindred : List (List Nat) :=
  [[0x69, 0x131], [0x73, 0x17F], [0xB5, 0x3BC], [0x345, 0x3B9, 0x1FBE], [0x390, 0x1FD3],
    [0x3B0, 0x1FE3], [0x3B2, 0x3D0], [0x3B5, 0x3F5], [0x3B8, 0x3D1], [0x3BA, 0x3F0],
    [0x3C0, 0x3D6], [0x3C1, 0x3F1], [0x3C2, 0x3C3], [0x3C6, 0x3D5], [0x432, 0x1C80],
    [0x434, 0x1C81], [0x43E, 0x1C82], [0x441, 0x1C83], [0x442, 0x1C84, 0x1C85], [0x44A, 0x1C86],
    [0x463, 0x1C87], [0x1E61, 0x1E9B], [0xA64B, 0x1C88], [0xFB05, 0xFB06]]

/-- The code points that compare as equal to a lower-case one. -/
def kindredOf (n : Nat) : List Nat :=
  (kindred.find? fun l => l.contains n).getD [n]

/-- The code points whose lower case is `n`. -/
def lowerSources (n : Nat) : List Nat :=
  let moved := Text.lowerRuns.filterMap fun r =>
    let m := (n : Int) - r.offset
    if 0 ≤ m ∧ r.apply? m.toNat = some n then some m.toNat else none
  (if (Text.lowerChar (Char.ofNat n)).toNat = n then [n] else []) ++
    (if n = 0x69 then [0x130] else []) ++ moved

/-- The code points that count as a character. -/
def sameCase (rule : CaseRule) (c : Char) : List Nat :=
  match rule with
  | .exact => [c.toNat]
  | .ascii => [c.toNat, c.toLower.toNat, c.toUpper.toNat]
  | .full => (kindredOf (Text.lowerChar c).toNat).flatMap lowerSources

/-- Whether an item covers a character. -/
def TestItem.covers (t : CharTest) (c : Char) : TestItem → Bool
  | .code n => (sameCase t.caseRule c).contains n
  | .range first last => (sameCase t.caseRule c).any fun n => first ≤ n && n ≤ last
  | .ofClass k outside => k.holds t.asciiClasses c != outside

namespace CharTest

/-- Whether a character passes a test. -/
def passes (t : CharTest) (c : Char) : Bool :=
  (t.items.any (TestItem.covers t c)) != t.negated

/-- The test that every character passes. -/
def any : CharTest :=
  ⟨true, [], .exact, false⟩

/-- The test that every character but the line feed passes. -/
def anyInLine : CharTest :=
  ⟨true, [.code 0x0A], .exact, false⟩

end CharTest

@[simp]
theorem sameCase_exact (c : Char) :
    sameCase .exact c = [c.toNat] :=
  rfl

end Pattern

end SurfaceCoverage
