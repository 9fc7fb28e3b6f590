import SurfaceCoverage.Pattern.Basic
import SurfaceCoverage.Text.CharProperty

/-!
# Patterns that read without going back

A pattern for a line of tokens asks for letters, for blanks between them and for words to remember.
The pattern tries the longest run of blanks or of word characters first, and shorter ones if the
rest then fails.  Where no run can be followed by what it consists of, the shorter ones fail as
well, so that the line is read from left to right in one way.

**Results.**
* `tryRun_greedy`: a run that its own characters cannot follow is as long as it gets.
* `ends_attempt`: on such a line the pattern ends where the reading from left to right ends.
* `groups_matches`: so its matches in a text are found by that reading alone.
-/

namespace SurfaceCoverage

namespace Pattern

open Text

/-! ### Lines -/

/-- The test for one character. -/
def CharTest.letter (c : Char) : CharTest :=
  ⟨false, [.code c.toNat], .exact, false⟩

/-- The test for a class of characters. -/
def CharTest.ofClass (k : CharClass) : CharTest :=
  ⟨false, [.ofClass k false], .exact, false⟩

/-- A part of a line: a character, blanks if there are any, or a word, which a group remembers. -/
inductive Item where
  | letter (c : Char)
  | blanks
  | word (group : Nat)
  deriving Repr, DecidableEq

def Item.expr : Item → Expr
  | .letter c => .char (.letter c)
  | .blanks => .run (.ofClass .blank) 0 none .greedy
  | .word group => .group group (.run (.ofClass .word) 1 none .greedy)

/-- The pattern for a line. -/
def lineExpr : List Item → Expr
  | [] => .empty
  | [i] => i.expr
  | i :: j :: rest => .seq i.expr (lineExpr (j :: rest))

/-- What is left behind by reading a line: the words, the latest first, and the text after them. -/
structure Reading where
  words : List (Nat × List Char)
  rest : List Char
  deriving Repr, DecidableEq

/-- A reading after other words have been read. -/
def Reading.behind (words : List (Nat × List Char)) (r : Reading) : Reading :=
  ⟨r.words ++ words, r.rest⟩

/-- Reads a line at the front of a text, from left to right. -/
def readLine : List Item → List Char → Option Reading
  | [], cs => some ⟨[], cs⟩
  | .letter _ :: _, [] => none
  | .letter c :: items, d :: rest => if d = c then readLine items rest else none
  | .blanks :: items, cs => readLine items (cs.dropWhile isBlank)
  | .word group :: items, cs =>
      if (cs.takeWhile isWord).length < 1 then none
      else (readLine items (cs.dropWhile isWord)).map
        (Reading.behind [(group, cs.takeWhile isWord)])

/-- No text that starts with a blank is read. -/
def refusesBlank : List Item → Bool
  | .letter c :: _ => !isBlank c
  | .word _ :: _ => true
  | _ => false

/-- No text that starts with a word character is read. -/
def refusesWord : List Item → Bool
  | .letter c :: _ => !isWord c
  | .blanks :: items => refusesWord items
  | _ => false

/-- No run of a line can be followed by what it consists of, unless it ends the line. -/
def separated : List Item → Bool
  | [] => true
  | .letter _ :: items => separated items
  | .blanks :: items => (items.isEmpty || refusesBlank items) && separated items
  | .word _ :: items => (items.isEmpty || refusesWord items) && separated items

/-- A letter of a pattern stands for itself only. -/
@[simp]
theorem passes_letter {c d : Char} :
    (CharTest.letter c).passes d = true ↔ d = c := by
  simp [CharTest.passes, CharTest.letter, TestItem.covers, Char.toNat_inj, eq_comm]

@[simp]
theorem passes_blank :
    (CharTest.ofClass .blank).passes = isBlank := by
  funext c
  simp [CharTest.passes, CharTest.ofClass, TestItem.covers, CharClass.holds]

@[simp]
theorem passes_word :
    (CharTest.ofClass .word).passes = isWord := by
  funext c
  simp [CharTest.passes, CharTest.ofClass, TestItem.covers, CharClass.holds]

@[simp]
theorem Reading.behind_words (words : List (Nat × List Char)) (r : Reading) :
    (r.behind words).words = r.words ++ words :=
  rfl

/-- A line that does not begin with blanks is not read from a blank. -/
theorem readLine_of_refusesBlank {items : List Item} (h : refusesBlank items = true) {c : Char}
    (hc : isBlank c = true) (rest : List Char) :
    readLine items (c :: rest) = none := by
  match items with
  | [] => cases h
  | .blanks :: _ => cases h
  | .letter d :: items =>
    have hne : c ≠ d := by
      rintro rfl
      rw [refusesBlank, hc] at h
      cases h
    rw [readLine, if_neg hne]
  | .word _ :: items =>
    have hword : ¬ isWord c = true := by
      rw [not_isWord_of_isBlank hc]
      exact Bool.false_ne_true
    rw [readLine, List.takeWhile_cons_of_neg hword, if_pos (by decide)]

/-- A line that does not begin with a word is not read from a word. -/
theorem readLine_of_refusesWord {items : List Item} (h : refusesWord items = true) {c : Char}
    (hc : isWord c = true) (rest : List Char) :
    readLine items (c :: rest) = none := by
  match items with
  | [] => cases h
  | .word _ :: _ => cases h
  | .letter d :: items =>
    have hne : c ≠ d := by
      rintro rfl
      rw [refusesWord, hc] at h
      cases h
    rw [readLine, if_neg hne]
  | .blanks :: items =>
    have hblank : ¬ isBlank c = true := Bool.eq_false_iff.1 (not_isBlank_of_isWord hc)
    have hitems : refusesWord items = true := h
    rw [readLine, List.dropWhile_cons_of_neg hblank]
    exact readLine_of_refusesWord hitems hc rest

/-! ### Runs -/

/-- A run is as long as its test passes. -/
theorem runLength_eq_length_takeWhile (t : CharTest) (cs : List Char) :
    runLength t none cs = (cs.takeWhile t.passes).length := by
  induction cs with
  | nil => rfl
  | cons c rest ih =>
    have hstep : runLength t none (c :: rest) =
        if t.passes c then runLength t none rest + 1 else 0 := rfl
    rw [hstep]
    by_cases hc : t.passes c = true
    · rw [if_pos hc, List.takeWhile_cons_of_pos hc, List.length_cons, ih]
    · rw [if_neg hc, List.takeWhile_cons_of_neg hc, List.length_nil]

/-- If no length will do, none is found. -/
theorem tryDown_of_forall_eq_none {least : Nat} {k : Rest} {s : Point} {n : Nat}
    (h : ∀ m ≤ n, k (s.skip m) = none) :
    tryDown least k s n = none := by
  induction n with
  | zero =>
    have hzero : k s = none := h 0 (Nat.le_refl 0)
    rw [tryDown, hzero, ite_self]
  | succ n ih =>
    rw [tryDown, h (n + 1) (Nat.le_refl _)]
    simp only [ih fun m hm => h m (Nat.le_succ_of_le hm), ite_self]

/-- The longest way decides if no shorter one passes where it fails. -/
theorem tryDown_eq {least : Nat} {k : Rest} {s : Point} {n : Nat} (hleast : least ≤ n)
    (h : k (s.skip n) = none → ∀ m < n, k (s.skip m) = none) :
    tryDown least k s n = k (s.skip n) := by
  cases n with
  | zero => rw [tryDown, if_pos (Nat.le_zero.1 hleast)]; rfl
  | succ n =>
    rw [tryDown, if_neg (Nat.not_lt.2 hleast)]
    cases hk : k (s.skip (n + 1)) with
    | some r => rfl
    | none => exact tryDown_of_forall_eq_none fun m hm => h hk m (Nat.lt_succ_of_le hm)

theorem exists_passes_of_lt_run {t : CharTest} {cs : List Char} {m : Nat}
    (h : m < (cs.takeWhile t.passes).length) :
    ∃ c rest, cs.drop m = c :: rest ∧ t.passes c = true := by
  have hm : m < cs.length := Nat.lt_of_lt_of_le h (List.takeWhile_prefix _).length_le
  refine ⟨cs[m], cs.drop (m + 1), List.drop_eq_getElem_cons hm, ?_⟩
  have hmem : (cs.takeWhile t.passes)[m] ∈ cs.takeWhile t.passes := List.getElem_mem h
  have hget : (cs.takeWhile t.passes)[m] = cs[m] := (List.takeWhile_prefix _).getElem h
  rw [← hget]
  exact List.all_eq_true.1 List.all_takeWhile _ hmem

/-- A run is as long as it gets if what follows always passes, or never does on a character of the
run. -/
theorem tryRun_greedy {t : CharTest} {least : Nat} {k : Rest} {s : Point}
    (hk : (∀ e, (k e).isSome = true) ∨
      ∀ (e : Point) (c : Char) (rest : List Char), e.after = c :: rest → t.passes c = true →
        k e = none) :
    tryRun t least none .greedy k s =
      if (s.after.takeWhile t.passes).length < least then none
      else k (s.skip (s.after.takeWhile t.passes).length) := by
  rw [tryRun, runLength_eq_length_takeWhile]
  by_cases hleast : (s.after.takeWhile t.passes).length < least
  · simp only [if_pos hleast]
  · simp only [if_neg hleast]
    refine tryDown_eq (Nat.not_lt.1 hleast) fun hnone m hm => ?_
    rcases hk with htotal | hrefuses
    · have hsome := htotal (s.skip (s.after.takeWhile t.passes).length)
      rw [hnone] at hsome
      cases hsome
    · -- a shorter run is followed by a character of the run
      obtain ⟨c, rest, hdrop, hc⟩ := exists_passes_of_lt_run hm
      exact hrefuses (s.skip m) c rest hdrop hc

/-- What is left behind a run. -/
theorem after_skip_run (p : Char → Bool) (s : Point) :
    (s.skip (s.after.takeWhile p).length).after = s.after.dropWhile p := by
  have happend : s.after.takeWhile p ++ s.after.dropWhile p = s.after :=
    List.takeWhile_append_dropWhile
  calc s.after.drop (s.after.takeWhile p).length
      = (s.after.takeWhile p ++ s.after.dropWhile p).drop (s.after.takeWhile p).length := by
        rw [happend]
    _ = s.after.dropWhile p := List.drop_left

theorem textFrom_skip (s : Point) (n : Nat) :
    (s.skip n).textFrom s.index = s.after.take n := by
  have hlength : s.index + (s.after.take n).length - s.index = (s.after.take n).reverse.length := by
    rw [List.length_reverse, Nat.add_sub_cancel_left]
  rw [Point.textFrom, Point.skip]
  simp only [hlength, List.take_left, List.reverse_reverse]

theorem take_length_takeWhile (p : Char → Bool) (cs : List Char) :
    cs.take (cs.takeWhile p).length = cs.takeWhile p :=
  List.prefix_iff_eq_take.1 (List.takeWhile_prefix p) |>.symm

/-- Skipping moves the index along. -/
theorem index_skip (s : Point) (n : Nat) :
    (s.skip n).index + (s.skip n).after.length = s.index + s.after.length := by
  have hsplit := congrArg List.length (List.take_append_drop n s.after)
  rw [List.length_append] at hsplit
  simp only [Point.skip]
  omega

/-! ### Reading in one way -/

/-- A try from a place on ends as a reading says: where it stops, with the words it has read. -/
inductive Ends (s : Point) : Option Reading → Option Point → Prop
  | fails : Ends s none none
  | stops {r : Reading} {e : Point} (hafter : e.after = r.rest)
      (hgroups : e.groups = r.words ++ s.groups)
      (hindex : e.index + e.after.length = s.index + s.after.length) : Ends s (some r) (some e)

/-- Where the line is not read, the attempt fails. -/
theorem Ends.eq_none {s : Point} {x : Option Point} (h : Ends s none x) :
    x = none := by
  cases h
  rfl

/-- Where the line is read, the attempt ends behind it, with its words remembered. -/
theorem Ends.exists_eq_some {s : Point} {r : Reading} {x : Option Point}
    (h : Ends s (some r) x) :
    ∃ e, x = some e ∧ e.after = r.rest ∧ e.groups = r.words ++ s.groups
      ∧ e.index + e.after.length = s.index + s.after.length := by
  cases h with
  | stops ha hg hi => exact ⟨_, rfl, ha, hg, hi⟩

/-- An attempt that has moved on without a word ends as the rest of it does. -/
theorem Ends.of_moved {s t : Point} {r : Option Reading} {x : Option Point} (h : Ends t r x)
    (hgroups : t.groups = s.groups)
    (hindex : t.index + t.after.length = s.index + s.after.length) :
    Ends s r x := by
  cases h with
  | fails => exact .fails
  | stops ha hg hi => exact .stops ha (hg.trans (by rw [hgroups])) (hi.trans hindex)

/-- An attempt that has remembered a word ends as the rest of it does, with this word behind. -/
theorem Ends.of_remembered {s t : Point} {r : Option Reading} {x : Option Point} (h : Ends t r x)
    {group : Nat} {word : List Char} (hgroups : t.groups = (group, word) :: s.groups)
    (hindex : t.index + t.after.length = s.index + s.after.length) :
    Ends s (r.map (Reading.behind [(group, word)])) x := by
  cases h with
  | fails => exact .fails
  | stops ha hg hi =>
    refine .stops ha ?_ (hi.trans hindex)
    rw [hg, hgroups, Reading.behind_words, List.append_assoc]
    rfl

/-- A line is attempted item by item. -/
theorem attempt_lineExpr_cons (i : Item) (items : List Item) (s : Point) :
    (lineExpr (i :: items)).attempt some s = i.expr.attempt ((lineExpr items).attempt some) s := by
  cases items with
  | nil => rfl
  | cons j rest => rfl

section Steps

variable {items : List Item}
  (hends : ∀ s, Ends s (readLine items s.after) ((lineExpr items).attempt some s))
include hends

/-- What follows a run in a separated line either always passes, or never does on a character of
the run. -/
theorem passes_or_refuses {t : CharTest}
    (h : items.isEmpty = true ∨
      ∀ c rest, t.passes c = true → readLine items (c :: rest) = none) :
    (∀ e, ((lineExpr items).attempt some e).isSome = true) ∨
      ∀ (e : Point) (c : Char) (rest : List Char), e.after = c :: rest → t.passes c = true →
        (lineExpr items).attempt some e = none := by
  rcases h with hempty | hrefuses
  · rw [List.isEmpty_iff.1 hempty]
    exact Or.inl fun _ => rfl
  · refine Or.inr fun e c rest hafter hc => ?_
    have hnone := hends e
    rw [hafter, hrefuses c rest hc] at hnone
    exact hnone.eq_none

/-- The step for a letter. -/
theorem ends_letter (c : Char) (s : Point) :
    Ends s (readLine (.letter c :: items) s.after)
      ((Item.letter c).expr.attempt ((lineExpr items).attempt some) s) := by
  rw [Item.expr, Expr.attempt]
  cases hafter : s.after with
  | nil => exact .fails
  | cons d rest =>
    by_cases hd : d = c
    · have hnext : s.next.after = rest := by rw [Point.next, hafter]
      have hgroups : s.next.groups = s.groups := by rw [Point.next, hafter]
      have hindex : s.next.index + s.next.after.length = s.index + s.after.length := by
        rw [Point.next, hafter, List.length_cons]
        simp only
        omega
      rw [readLine, if_pos hd]
      simp only [if_pos (passes_letter.2 hd)]
      rw [← hnext]
      exact (hends s.next).of_moved hgroups hindex
    · rw [readLine, if_neg hd]
      simp only [if_neg (mt passes_letter.1 hd)]
      exact .fails

/-- The step for blanks: nothing behind them begins with a blank, so all of them are taken. -/
theorem ends_blanks (h : items.isEmpty = true ∨ refusesBlank items = true) (s : Point) :
    Ends s (readLine (.blanks :: items) s.after)
      (Item.blanks.expr.attempt ((lineExpr items).attempt some) s) := by
  have hk := passes_or_refuses hends (h.imp_right fun hrefuses c rest hc =>
    readLine_of_refusesBlank hrefuses (passes_blank ▸ hc) rest)
  rw [Item.expr, Expr.attempt, tryRun_greedy hk, if_neg (Nat.not_lt_zero _), passes_blank,
    readLine, ← after_skip_run]
  exact (hends _).of_moved rfl (index_skip s _)

/-- The step for a word: nothing behind it begins with a word, so all of it is taken. -/
theorem ends_word (h : items.isEmpty = true ∨ refusesWord items = true) (group : Nat)
    (s : Point) :
    Ends s (readLine (.word group :: items) s.after)
      ((Item.word group).expr.attempt ((lineExpr items).attempt some) s) := by
  have hk := passes_or_refuses hends (h.imp_right fun hrefuses c rest hc =>
    readLine_of_refusesWord hrefuses (passes_word ▸ hc) rest)
  have hremembered := hk.imp
    (fun htotal (e : Point) => htotal (e.remember group (e.textFrom s.index)))
    (fun hrefuses (e : Point) c rest hafter hc =>
      hrefuses (e.remember group (e.textFrom s.index)) c rest hafter hc)
  rw [Item.expr, Expr.attempt, Expr.attempt, tryRun_greedy hremembered, passes_word, readLine]
  by_cases hlength : (s.after.takeWhile isWord).length < 1
  · rw [if_pos hlength, if_pos hlength]
    exact .fails
  · rw [if_neg hlength, if_neg hlength, textFrom_skip, take_length_takeWhile, ← after_skip_run]
    let t := (s.skip (s.after.takeWhile isWord).length).remember group (s.after.takeWhile isWord)
    exact (hends t).of_remembered rfl (index_skip s _)

end Steps

/-- In a separated line the pattern ends where the reading from left to right ends. -/
theorem ends_attempt {items : List Item} (h : separated items = true) (s : Point) :
    Ends s (readLine items s.after) ((lineExpr items).attempt some s) := by
  induction items generalizing s with
  | nil => exact .stops rfl rfl rfl
  | cons i items ih =>
    rw [attempt_lineExpr_cons]
    cases i with
    | letter c => exact ends_letter (ih h) c s
    | blanks =>
      obtain ⟨hnext, hrest⟩ := Bool.and_eq_true_iff.1 h
      exact ends_blanks (ih hrest) (Bool.or_eq_true_iff.1 hnext) s
    | word group =>
      obtain ⟨hnext, hrest⟩ := Bool.and_eq_true_iff.1 h
      exact ends_word (ih hrest) (Bool.or_eq_true_iff.1 hnext) group s

/-! ### All matches -/

/-- Reading a line wherever it can be read yields the words of each reading.  The reading goes on
behind a line that was read, and one character further where it cannot be read. -/
inductive Yields (items : List Item) : List Char → List (List (Nat × List Char)) → Prop
  | done (h : readLine items [] = none) : Yields items [] []
  | skip {c : Char} {cs : List Char} {out : List (List (Nat × List Char))}
      (h : readLine items (c :: cs) = none) (hrest : Yields items cs out) :
      Yields items (c :: cs) out
  | found {cs : List Char} {r : Reading} {out : List (List (Nat × List Char))}
      (h : readLine items cs = some r) (hrest : Yields items r.rest out) :
      Yields items cs (r.words :: out)

/-- A reading takes nothing in front of its text and nothing behind it. -/
theorem rest_suffix_of_readLine {items : List Item} {cs : List Char} {r : Reading}
    (h : readLine items cs = some r) :
    r.rest <:+ cs := by
  fun_induction readLine items cs generalizing r with
  | case1 cs =>
    cases h
    exact List.suffix_refl cs
  | case2 => cases h
  | case3 items c rest ih => exact (ih h).trans (List.suffix_cons c rest)
  | case4 => cases h
  | case5 items cs ih => exact (ih h).trans (List.dropWhile_suffix isBlank)
  | case6 => cases h
  | case7 group items cs hlength ih =>
    obtain ⟨r, hr, rfl⟩ := Option.map_eq_some_iff.1 h
    exact (ih hr).trans (List.dropWhile_suffix isWord)

section Matches

variable {c : Char} {items : List Item}

/-- Something is read by a line that starts with a letter. -/
theorem length_rest_lt {cs : List Char} {r : Reading}
    (h : readLine (.letter c :: items) cs = some r) :
    r.rest.length < cs.length := by
  cases cs with
  | nil => cases h
  | cons d rest =>
    rw [readLine] at h
    split at h
    · exact Nat.lt_succ_of_le (rest_suffix_of_readLine h).length_le
    · cases h

theorem matchAt_eq (p : Expr) (index : Nat) (before after : List Char) :
    Expr.findFrom?.matchAt p false index before after =
      p.attempt some ⟨index, before, after, []⟩ :=
  rfl

/-- Where a pattern does not match, the search goes on one character further. -/
theorem matchesFrom_of_attempt_eq_none {p : Expr} {s : Point} {d : Char} {rest : List Char}
    (hafter : s.after = d :: rest)
    (h : p.attempt some ⟨s.index, s.before, s.after, []⟩ = none) (fuel : Nat) :
    p.matchesFrom fuel false s = p.matchesFrom fuel false s.next := by
  cases fuel with
  | zero => rfl
  | succ fuel =>
    have hfind : p.findFrom? false s.index s.before s.after =
        p.findFrom? false s.next.index s.next.before s.next.after := by
      rw [hafter] at h
      rw [Point.next, hafter, Expr.findFrom?, matchAt_eq, h]
    rw [Expr.matchesFrom, hfind, Expr.matchesFrom]

/-- Where a pattern matches, this match comes first. -/
theorem matchesFrom_of_attempt_eq_some {p : Expr} {s e : Point}
    (h : p.attempt some ⟨s.index, s.before, s.after, []⟩ = some e) (fuel : Nat) :
    p.matchesFrom (fuel + 1) false s = e :: p.matchesFrom fuel (e.index == s.index) e := by
  have hfind : p.findFrom? false s.index s.before s.after = some (s.index, e) := by
    cases hafter : s.after with
    | nil =>
      rw [hafter] at h
      rw [Expr.findFrom?, matchAt_eq, h, Option.map_some]
    | cons d rest =>
      rw [hafter] at h
      rw [Expr.findFrom?, matchAt_eq, h]
  rw [Expr.matchesFrom, hfind]

/-- The end of the text ends the search where the pattern does not match. -/
theorem matchesFrom_of_after_eq_nil {p : Expr} {s : Point} (hafter : s.after = [])
    (h : p.attempt some ⟨s.index, s.before, s.after, []⟩ = none) (fuel : Nat) :
    p.matchesFrom fuel false s = [] := by
  cases fuel with
  | zero => rfl
  | succ fuel =>
    rw [hafter] at h
    rw [Expr.matchesFrom, hafter, Expr.findFrom?, matchAt_eq, h, Option.map_none]

variable (hs : separated (.letter c :: items) = true)
include hs

/-- With a try for each character, the matches from a place on are those that the reading finds. -/
theorem groups_matchesFrom {cs : List Char} {out : List (List (Nat × List Char))}
    (h : Yields (.letter c :: items) cs out) {s : Point} (hafter : s.after = cs) {fuel : Nat}
    (hfuel : cs.length < fuel) :
    ((lineExpr (.letter c :: items)).matchesFrom fuel false s).map Point.groups = out := by
  induction h generalizing s fuel with
  | done h =>
    have hends := ends_attempt hs ⟨s.index, s.before, s.after, []⟩
    rw [hafter, h, ← hafter] at hends
    rw [matchesFrom_of_after_eq_nil hafter hends.eq_none, List.map_nil]
  | @skip d cs out h _ ih =>
    have hends := ends_attempt hs ⟨s.index, s.before, s.after, []⟩
    rw [hafter, h, ← hafter] at hends
    have hnext : s.next.after = cs := by rw [Point.next, hafter]
    rw [matchesFrom_of_attempt_eq_none hafter hends.eq_none]
    exact ih hnext (Nat.lt_of_succ_lt hfuel)
  | @found cs r out h _ ih =>
    subst hafter
    have hends : Ends ⟨s.index, s.before, s.after, []⟩ (readLine (.letter c :: items) s.after) _ :=
      ends_attempt hs ⟨s.index, s.before, s.after, []⟩
    rw [h] at hends
    obtain ⟨e, he, hrest, hgroups, hindex⟩ := hends.exists_eq_some
    have hlt : r.rest.length < s.after.length := length_rest_lt h
    have hmoved : (e.index == s.index) = false := by
      rw [hrest] at hindex
      exact beq_false_of_ne fun heq => by simp only [heq] at hindex; omega
    obtain ⟨fuel, rfl⟩ := Nat.exists_eq_succ_of_ne_zero (Nat.ne_zero_of_lt hfuel)
    rw [matchesFrom_of_attempt_eq_some he, hmoved, List.map_cons, hgroups, List.append_nil,
      ih hrest (by omega)]

/-- The matches in a text have the words that the reading from left to right finds. -/
theorem groups_matches {text : List Char} {out : List (List (Nat × List Char))}
    (h : Yields (.letter c :: items) text out) :
    ((lineExpr (.letter c :: items)).matches text).map Point.groups = out :=
  groups_matchesFrom hs h rfl (by omega)

end Matches

end Pattern

end SurfaceCoverage
