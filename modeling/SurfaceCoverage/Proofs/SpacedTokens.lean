import SurfaceCoverage.Proofs.TokenLines
import Mathlib.Data.List.Forall2

/-!
# Lines of tokens with blanks between them

A line asks for given tokens and for words, with any blanks between them.  On a text that consists
of fitting tokens it reads the words; on a text that departs from it by a mark it fails.  A stretch
of text is silent when the line cannot be read from any place in it.

**Results.**
* `readLine_spaced`: fitting tokens are read, whatever the blanks between them.
* `readLine_of_stray`: a wrong mark behind fitting tokens ends the reading.
* `Silent.of_spaced`: a line that starts with a name is not found inside of other tokens.
-/

namespace SurfaceCoverage

namespace Pattern

open Text

/-- A text of word characters that is not empty. -/
def IsWord (t : String) : Prop :=
  t ≠ "" ∧ ∀ c ∈ t.toList, isWord c = true

instance (t : String) : Decidable (IsWord t) :=
  decidable_of_iff (t ≠ "" ∧ t.toList.all isWord = true) (by rw [IsWord, List.all_eq_true])

/-- Tokens with any blanks between them. -/
inductive Spaced : List String → List Char → Prop
  | single (t : String) : Spaced [t] t.toList
  | cons (t : String) {ts : List String} {ws cs : List Char}
      (hblank : ∀ c ∈ ws, isBlank c = true) (h : Spaced ts cs) :
      Spaced (t :: ts) (t.toList ++ (ws ++ cs))

/-- A place for a token: for a given one, or for a word, which a group remembers. -/
inductive Slot where
  | token (text : String)
  | word (group : Nat)
  deriving Repr, DecidableEq

namespace Slot

def items : Slot → List Item
  | .token t => t.toList.map .letter
  | .word group => [.word group]

/-- A token has its place here. -/
def Fits : Slot → String → Prop
  | .token t, u => u = t
  | .word _, u => IsWord u

/-- The words that are remembered of a token. -/
def words : Slot → String → List (Nat × List Char)
  | .token _, _ => []
  | .word group, u => [(group, u.toList)]

/-- The reading of a place ends before a character. -/
def endsBefore : Slot → Char → Bool
  | .token _, _ => true
  | .word _, c => !isWord c

/-- The token in the next place does not go on with what comes before it. -/
def isApart (s : Slot) : Slot → Bool
  | .token t => t.toList.head?.any fun c => !isBlank c && s.endsBefore c
  | .word _ =>
      match s with
      | .token _ => true
      | .word _ => false

end Slot

/-- The line for places with blanks between them. -/
def spacedItems : List Slot → List Item
  | [] => []
  | [s] => s.items
  | s :: t :: rest => s.items ++ .blanks :: spacedItems (t :: rest)

/-- The words that are remembered of tokens in their places, the latest first. -/
def wordsOf : List Slot → List String → List (Nat × List Char)
  | s :: slots, t :: ts => wordsOf slots ts ++ s.words t
  | _, _ => []

/-! ### Tokens -/

/-- A word begins with a character of words. -/
theorem IsWord.exists_cons {t : String} (h : IsWord t) :
    ∃ c rest, t.toList = c :: rest ∧ isWord c = true := by
  have hne : t.toList ≠ [] := fun hnil => h.1 (String.toList_eq_nil_iff.1 hnil)
  obtain ⟨c, rest, hcons⟩ := List.exists_cons_of_ne_nil hne
  exact ⟨c, rest, hcons, h.2 c (hcons ▸ List.mem_cons_self)⟩

/-- Spaced tokens begin with the first one. -/
theorem Spaced.exists_append {t : String} {ts : List String} {cs : List Char}
    (h : Spaced (t :: ts) cs) :
    ∃ rest, cs = t.toList ++ rest := by
  cases h with
  | single => exact ⟨[], (List.append_nil _).symm⟩
  | cons => exact ⟨_, rfl⟩

/-- Tokens with one run of blanks throughout. -/
theorem Spaced.intercalate {ws : List Char} (hws : ∀ c ∈ ws, isBlank c = true) (t : String)
    (ts : List String) :
    Spaced (t :: ts) (ws.intercalate ((t :: ts).map String.toList)) := by
  induction ts generalizing t with
  | nil =>
    rw [List.map_singleton, List.intercalate_singleton]
    exact .single t
  | cons u ts ih =>
    rw [List.map_cons, List.map_cons, List.intercalate_cons_cons, List.append_assoc,
      ← List.map_cons]
    exact .cons t hws (ih u)

/-- The last of several tokens stands behind the others and blanks. -/
theorem Spaced.exists_of_append_singleton {ts : List String} (hne : ts ≠ []) {mark : String}
    {cs : List Char} (h : Spaced (ts ++ [mark]) cs) :
    ∃ before ws, Spaced ts before ∧ (∀ c ∈ ws, isBlank c = true)
      ∧ cs = before ++ (ws ++ mark.toList) := by
  induction ts generalizing cs with
  | nil => exact absurd rfl hne
  | cons t ts ih =>
    cases ts with
    | nil =>
      cases h with
      | @cons _ _ ws _ hblank hmark =>
        cases hmark with
        | single => exact ⟨t.toList, ws, .single t, hblank, rfl⟩
        | cons _ _ hnil => cases hnil
    | cons u us =>
      cases h with
      | @cons _ _ gap tail hgap htail =>
        obtain ⟨before, ws, hbefore, hblank, rfl⟩ := ih (List.cons_ne_nil u us) htail
        exact ⟨_, ws, .cons t hgap hbefore, hblank, by simp only [List.append_assoc]⟩

theorem endsBefore_word {group : Nat} {c : Char} :
    (Slot.word group).endsBefore c = true ↔ isWord c = false := by
  rw [Slot.endsBefore, Bool.not_eq_true']

/-- What stands behind a place ends it. -/
theorem head_of_isApart {s next : Slot} (h : s.isApart next = true) {t : String}
    (hfits : next.Fits t) :
    ∃ c rest, t.toList = c :: rest ∧ isBlank c = false ∧ s.endsBefore c = true := by
  cases next with
  | token u =>
    cases hfits
    obtain ⟨c, hhead, hc⟩ := (Option.any_eq_true _ _).1 h
    obtain ⟨rest, hcons⟩ := List.head?_eq_some_iff.1 hhead
    rw [Bool.and_eq_true, Bool.not_eq_true'] at hc
    exact ⟨c, rest, hcons, hc⟩
  | word group =>
    obtain ⟨c, rest, hcons, hc⟩ := IsWord.exists_cons hfits
    cases s with
    | token _ => exact ⟨c, rest, hcons, not_isBlank_of_isWord hc, rfl⟩
    | word _ => cases h

/-! ### Reading tokens -/

theorem takeWhile_of_head {p : Char → Bool} {rest : List Char}
    (h : ∀ c ∈ rest.head?, p c = false) :
    rest.takeWhile p = [] := by
  cases rest with
  | nil => rfl
  | cons c rest => rw [List.takeWhile_cons, h c rfl]; rfl

theorem dropWhile_of_head {p : Char → Bool} {rest : List Char}
    (h : ∀ c ∈ rest.head?, p c = false) :
    rest.dropWhile p = rest := by
  cases rest with
  | nil => rfl
  | cons c rest => rw [List.dropWhile_cons, h c rfl]; rfl

/-- Letters are read where they stand. -/
theorem readLine_letters (l : List Char) (items : List Item) (rest : List Char) :
    readLine (l.map .letter ++ items) (l ++ rest) = readLine items rest := by
  induction l with
  | nil => rfl
  | cons c l ih => rw [List.map_cons, List.cons_append, List.cons_append, readLine, if_pos rfl, ih]

/-- Letters are not read where they do not stand. -/
theorem readLine_letters_eq_none {l : List Char} {items : List Item} {cs : List Char}
    (h : ¬ l <+: cs) :
    readLine (l.map .letter ++ items) cs = none := by
  induction l generalizing cs with
  | nil => exact absurd (List.nil_prefix) h
  | cons c l ih =>
    cases cs with
    | nil => rfl
    | cons x cs =>
      rw [List.map_cons, List.cons_append, readLine]
      split
      · next hx => exact ih fun hl => h (List.cons_prefix_cons.2 ⟨hx.symm, hl⟩)
      · rfl

/-- Blanks are read, however many there are. -/
theorem readLine_blanks {ws rest : List Char} (hblank : ∀ c ∈ ws, isBlank c = true)
    (hrest : ∀ c ∈ rest.head?, isBlank c = false) (items : List Item) :
    readLine (.blanks :: items) (ws ++ rest) = readLine items rest := by
  rw [readLine, List.dropWhile_append_of_pos hblank, dropWhile_of_head hrest]

theorem map_behind_nil (x : Option Reading) :
    x.map (Reading.behind []) = x := by
  cases x with
  | none => rfl
  | some r => simp only [Option.map_some, Reading.behind, List.append_nil]

theorem map_behind_map_behind (first last : List (Nat × List Char)) (x : Option Reading) :
    (x.map (Reading.behind last)).map (Reading.behind first) =
      x.map (Reading.behind (last ++ first)) := by
  cases x with
  | none => rfl
  | some r => simp only [Option.map_some, Reading.behind, List.append_assoc]

/-- A fitting token is read if its place ends behind it. -/
theorem readLine_slot {s : Slot} {t : String} (hfits : s.Fits t) {rest : List Char}
    (hends : ∀ c ∈ rest.head?, s.endsBefore c = true) (items : List Item) :
    readLine (s.items ++ items) (t.toList ++ rest) =
      (readLine items rest).map (Reading.behind (s.words t)) := by
  cases s with
  | token u =>
    cases hfits
    rw [Slot.items, readLine_letters, Slot.words, map_behind_nil]
  | word group =>
    have hstop : ∀ c ∈ rest.head?, isWord c = false := fun c hc => endsBefore_word.1 (hends c hc)
    have hlength : ¬ t.toList.length < 1 := fun hlt =>
      hfits.1 (String.toList_eq_nil_iff.1 (List.length_eq_zero_iff.1 (Nat.lt_one_iff.1 hlt)))
    rw [Slot.items, List.singleton_append, readLine, List.takeWhile_append_of_pos hfits.2,
      List.dropWhile_append_of_pos hfits.2, takeWhile_of_head hstop, dropWhile_of_head hstop,
      List.append_nil, if_neg hlength, Slot.words]

/-- Blanks end a word, as does what ends it without them. -/
theorem not_isWord_of_blanks {ws rest : List Char} (hblank : ∀ c ∈ ws, isBlank c = true)
    (hrest : ∀ c ∈ rest.head?, isWord c = false) :
    ∀ c ∈ (ws ++ rest).head?, isWord c = false := by
  cases ws with
  | nil => exact hrest
  | cons w ws =>
    rintro c ⟨⟩
    exact not_isWord_of_isBlank (hblank w List.mem_cons_self)

/-- A place ends before blanks, or before what ends it behind them. -/
theorem endsBefore_blanks {s : Slot} {ws rest : List Char}
    (hblank : ∀ c ∈ ws, isBlank c = true) (hrest : ∀ c ∈ rest.head?, s.endsBefore c = true) :
    ∀ c ∈ (ws ++ rest).head?, s.endsBefore c = true := by
  cases s with
  | token _ => exact fun _ _ => rfl
  | word _ =>
    simp only [endsBefore_word] at hrest ⊢
    exact not_isWord_of_blanks hblank hrest

/-- Tokens that fit are read, whatever the blanks between them. -/
theorem readLine_spaced {ts : List String} {cs : List Char} (h : Spaced ts cs)
    {slots : List Slot} (hfits : List.Forall₂ Slot.Fits slots ts)
    (hapart : slots.IsChain fun s t => s.isApart t = true) {items : List Item} {rest : List Char}
    (hends : ∀ s ∈ slots.getLast?, ∀ c ∈ rest.head?, s.endsBefore c = true) :
    readLine (spacedItems slots ++ items) (cs ++ rest) =
      (readLine items rest).map (Reading.behind (wordsOf slots ts)) := by
  induction h generalizing slots with
  | single t =>
    obtain _ | ⟨hs, hnil⟩ := hfits
    cases hnil
    exact readLine_slot hs (hends _ rfl) items
  | @cons t ts ws cs hblank h ih =>
    obtain _ | @⟨s, _, slots, _, hs, hslots⟩ := hfits
    obtain _ | @⟨next, u, slots, us, hnext, hrest⟩ := hslots
    · cases h
    · obtain ⟨c, tail, hu, hc, hsc⟩ := head_of_isApart (List.isChain_cons_cons.1 hapart).1 hnext
      obtain ⟨more, hcs⟩ := h.exists_append
      have hhead : (cs ++ rest).head? = some c := by
        rw [hcs, hu]
        rfl
      -- the next token starts with neither a blank nor a character of the place before it
      have hread := ih (.cons hnext hrest) (List.isChain_cons_cons.1 hapart).2
        (by rwa [List.getLast?_cons_cons] at hends)
      rw [spacedItems, List.append_assoc, List.cons_append, List.append_assoc, List.append_assoc,
        readLine_slot hs, readLine_blanks hblank, hread, map_behind_map_behind]
      · rfl
      · rw [hhead]
        rintro d ⟨⟩
        exact hc
      · apply endsBefore_blanks hblank
        rw [hhead]
        rintro d ⟨⟩
        exact hsc

/-- Between two lines of places there may be blanks. -/
theorem spacedItems_append {first last : List Slot} (hfirst : first ≠ []) (hlast : last ≠ []) :
    spacedItems (first ++ last) = spacedItems first ++ .blanks :: spacedItems last := by
  induction first with
  | nil => exact absurd rfl hfirst
  | cons s first ih =>
    cases first with
    | nil =>
      obtain ⟨t, rest, rfl⟩ := List.exists_cons_of_ne_nil hlast
      rfl
    | cons t first =>
      have hstep := ih (List.cons_ne_nil t first)
      rw [List.cons_append] at hstep
      rw [List.cons_append, List.cons_append, spacedItems, hstep, spacedItems, List.append_assoc,
        List.cons_append]

/-- A mark that stands in place of a token: it starts with another character, which is no part of
a word. -/
def IsStray (mark u : String) : Prop :=
  ∃ c tail d more, mark.toList = c :: tail ∧ u.toList = d :: more ∧ c ≠ d
    ∧ isBlank c = false ∧ isWord c = false

theorem spacedItems_cons (s : Slot) (more : List Slot) :
    ∃ items, spacedItems (s :: more) = s.items ++ items := by
  cases more with
  | nil => exact ⟨[], (List.append_nil _).symm⟩
  | cons t more => exact ⟨_, rfl⟩

/-- A line that asks for a token cannot be read where another character stands. -/
theorem readLine_token_eq_none {u : String} {d : Char} {tail : List Char}
    (hu : u.toList = d :: tail) {c : Char} (hne : c ≠ d) (more : List Slot) (rest : List Char) :
    readLine (spacedItems (.token u :: more)) (c :: rest) = none := by
  obtain ⟨items, hitems⟩ := spacedItems_cons (.token u) more
  rw [hitems, Slot.items, hu, List.map_cons, List.cons_append, readLine, if_neg hne]

/-- Where fitting tokens are followed by a stray mark, the line cannot be read. -/
theorem readLine_of_stray {ts : List String} {mark : String} {cs : List Char}
    (h : Spaced (ts ++ [mark]) cs) {slots : List Slot} (hne : slots ≠ [])
    (hfits : List.Forall₂ Slot.Fits slots ts)
    (hapart : slots.IsChain fun s t => s.isApart t = true) {u : String}
    (hmark : IsStray mark u) (more : List Slot) (rest : List Char) :
    readLine (spacedItems (slots ++ .token u :: more)) (cs ++ rest) = none := by
  have hts : ts ≠ [] := by
    rintro rfl
    cases hfits
    exact hne rfl
  obtain ⟨before, ws, hbefore, hws, rfl⟩ := h.exists_of_append_singleton hts
  obtain ⟨c, tail, d, utail, hmark, hu, hcd, hblank, hword⟩ := hmark
  have hends : ∀ s ∈ slots.getLast?, ∀ x ∈ (ws ++ c :: (tail ++ rest)).head?,
      s.endsBefore x = true := by
    intro s _
    apply endsBefore_blanks hws
    rintro x ⟨⟩
    cases s with
    | token _ => rfl
    | word _ => exact endsBefore_word.2 hword
  have hstop : ∀ x ∈ (c :: (tail ++ rest)).head?, isBlank x = false := by
    rintro x ⟨⟩
    exact hblank
  rw [spacedItems_append hne (List.cons_ne_nil _ more), List.append_assoc, List.append_assoc, hmark,
    List.cons_append, readLine_spaced hbefore hfits hapart hends, readLine_blanks hws hstop,
    readLine_token_eq_none hu hcd, Option.map_none]

/-! ### Silent text -/

/-- In a stretch of text, with what follows it, the line cannot be read from any place. -/
def Silent (items : List Item) : List Char → List Char → Prop
  | [], _ => True
  | c :: cs, rest => readLine items (c :: (cs ++ rest)) = none ∧ Silent items cs rest

/-- Two pieces of text that are silent are silent one behind the other. -/
theorem Silent.append {items : List Item} {first last rest : List Char}
    (hfirst : Silent items first (last ++ rest)) (hlast : Silent items last rest) :
    Silent items (first ++ last) rest := by
  induction first with
  | nil => exact hlast
  | cons c first ih =>
    have hhere := hfirst.1
    rw [← List.append_assoc] at hhere
    exact ⟨hhere, ih hfirst.2⟩

/-- Silent text adds nothing to what is found. -/
theorem Silent.yields {items : List Item} {cs rest : List Char}
    {out : List (List (Nat × List Char))} (h : Silent items cs rest)
    (hrest : Yields items rest out) :
    Yields items (cs ++ rest) out := by
  induction cs with
  | nil => exact hrest
  | cons c cs ih => exact .skip h.1 (ih h.2)

/-- A line that starts with a letter is not found where the letter is missing. -/
theorem Silent.of_not_mem {c : Char} {items : List Item} {cs : List Char} (h : c ∉ cs)
    (rest : List Char) :
    Silent (.letter c :: items) cs rest := by
  induction cs with
  | nil => trivial
  | cons x cs ih =>
    have hne : x ≠ c := fun heq => h (heq ▸ List.mem_cons_self)
    exact ⟨by rw [readLine, if_neg hne], ih fun hmem => h (List.mem_cons_of_mem x hmem)⟩

section Named

variable {name : List Char} {d : Char} {more : List Item}
  (hname : ∀ x ∈ name, isWord x = true) (hd : isWord d = false)

/-- A letter is not read where no word character stands. -/
theorem readLine_letter_of_not_word {n : Char} (hn : isWord n = true) {cs : List Char}
    (hcs : ∀ c ∈ cs.head?, isWord c = false) (items : List Item) :
    readLine (.letter n :: items) cs = none := by
  cases cs with
  | nil => rfl
  | cons c cs =>
    have hne : c ≠ n := by
      rintro rfl
      rw [hcs c rfl] at hn
      cases hn
    rw [readLine, if_neg hne]

include hd

/-- Blanks and a mark are not read where a word, or its end, is followed by another mark. -/
theorem readLine_mark_of_word {word ws rest : List Char} {x : Char}
    (hword : ∀ x ∈ word, isWord x = true) (hws : ∀ x ∈ ws, isBlank x = true)
    (hblank : isBlank x = false) (hne : x ≠ d) :
    readLine (.blanks :: .letter d :: more) (word ++ (ws ++ x :: rest)) = none := by
  cases word with
  | nil =>
    have hstop : ∀ y ∈ (x :: rest).head?, isBlank y = false := by
      rintro y ⟨⟩
      exact hblank
    rw [List.nil_append, readLine_blanks hws hstop, readLine, if_neg hne]
  | cons w word =>
    have hw := hword w List.mem_cons_self
    have hwd : w ≠ d := by
      rintro rfl
      rw [hd] at hw
      cases hw
    rw [List.cons_append, readLine,
      List.dropWhile_cons_of_neg (Bool.eq_false_iff.1 (not_isBlank_of_isWord hw)), readLine,
      if_neg hwd]

include hname

/-- A name and a mark are not read where a word is followed by another mark: what the word has
behind the name is not the mark, and neither is what follows the word. -/
theorem readLine_name_of_word {word ws rest : List Char} {x : Char}
    (hword : ∀ x ∈ word, isWord x = true) (hws : ∀ x ∈ ws, isBlank x = true)
    (hblank : isBlank x = false) (hx : isWord x = false) (hne : x ≠ d) :
    readLine (name.map .letter ++ .blanks :: .letter d :: more) (word ++ (ws ++ x :: rest)) =
      none := by
  -- name and word are followed side by side; whichever ends first, what is left does not fit
  induction name generalizing word with
  | nil => exact readLine_mark_of_word hd hword hws hblank hne
  | cons n name ih =>
    rw [List.map_cons, List.cons_append]
    cases word with
    | nil =>
      refine readLine_letter_of_not_word (hname n List.mem_cons_self) ?_ _
      apply not_isWord_of_blanks hws
      rintro y ⟨⟩
      exact hx
    | cons w word =>
      rw [List.cons_append, readLine]
      by_cases hwn : w = n
      · rw [if_pos hwn]
        exact ih (fun y hy => hname y (List.mem_cons_of_mem n hy))
          fun y hy => hword y (List.mem_cons_of_mem w hy)
      · rw [if_neg hwn]

/-- A word with something other than the expected sign behind it is silent. -/
theorem Silent.of_word {word ws rest : List Char} {x : Char}
    (hword : ∀ x ∈ word, isWord x = true) (hws : ∀ x ∈ ws, isBlank x = true)
    (hblank : isBlank x = false) (hx : isWord x = false) (hne : x ≠ d) :
    Silent (name.map .letter ++ .blanks :: .letter d :: more) word (ws ++ x :: rest) := by
  induction word with
  | nil => trivial
  | cons w word ih =>
    exact ⟨readLine_name_of_word hname hd hword hws hblank hx hne,
      ih fun y hy => hword y (List.mem_cons_of_mem w hy)⟩

end Named

/-- A token gives no cause to read a name that starts with `c` and the mark `d`: it lacks the
letter, or it is a word and another mark follows. -/
def IsQuiet (c d : Char) (t u : String) : Prop :=
  c ∉ t.toList ∨ (∀ x ∈ t.toList, isWord x = true) ∧
    ∃ x tail, u.toList = x :: tail ∧ x ≠ d ∧ isBlank x = false ∧ isWord x = false

/-- A letter and what follows it are a word in which the letter does not come back. -/
structure IsFresh (c : Char) (name : List Char) : Prop where
  is_word : ∀ x ∈ c :: name, isWord x = true
  not_mem : c ∉ name

section Fresh

variable {c : Char} {name : List Char} (hname : IsFresh c name) {d : Char}
  (hd : isWord d = false) {more : List Item}
include hname

/-- What a fresh name begins with is no blank. -/
theorem IsFresh.not_mem_blanks {ws : List Char} (hws : ∀ x ∈ ws, isBlank x = true) :
    c ∉ ws := by
  intro hmem
  have hblank := not_isBlank_of_isWord (hname.is_word c List.mem_cons_self)
  rw [hws c hmem] at hblank
  cases hblank

include hd

/-- A line that starts with a name and a mark is not found inside of quiet tokens. -/
theorem Silent.of_spaced {ts : List String} {cs : List Char} (h : Spaced ts cs)
    (hquiet : ts.IsChain (IsQuiet c d)) (hlast : ∀ t ∈ ts.getLast?, c ∉ t.toList)
    (rest : List Char) :
    Silent ((c :: name).map .letter ++ .blanks :: .letter d :: more) cs rest := by
  induction h with
  | single t => exact .of_not_mem (hlast t rfl) rest
  | @cons t ts ws cs hws h ih =>
    obtain _ | ⟨u, us⟩ := ts
    · cases h
    · obtain ⟨htu, hus⟩ := List.isChain_cons_cons.1 hquiet
      rw [List.getLast?_cons_cons] at hlast
      refine .append ?_ (.append (.of_not_mem (hname.not_mem_blanks hws) _) (ih hus hlast))
      rcases htu with hmissing | ⟨hword, x, tail, hu, hxd, hblank, hx⟩
      · exact .of_not_mem hmissing _
      · obtain ⟨after, rfl⟩ := h.exists_append
        rw [hu, List.append_assoc, List.append_assoc, List.cons_append]
        exact .of_word hname.is_word hd hword hws hblank hx hxd

/-- A name and quiet tokens behind it are silent if they are not read as a whole. -/
theorem Silent.of_spaced_name {t : String} (ht : t.toList = c :: name) {ts : List String}
    {cs rest : List Char} (h : Spaced (t :: ts) cs)
    (hread : readLine ((c :: name).map .letter ++ .blanks :: .letter d :: more) (cs ++ rest) = none)
    (hquiet : ts.IsChain (IsQuiet c d)) (hlast : ∀ t ∈ ts.getLast?, c ∉ t.toList) :
    Silent ((c :: name).map .letter ++ .blanks :: .letter d :: more) cs rest := by
  cases h with
  | single =>
    rw [ht] at hread ⊢
    exact ⟨hread, .of_not_mem hname.not_mem rest⟩
  | @cons _ _ ws cs hws h =>
    rw [ht] at hread ⊢
    have hblanks := hname.not_mem_blanks hws
    exact ⟨hread, .append (.of_not_mem hname.not_mem _)
      (.append (.of_not_mem hblanks _) (.of_spaced hname hd h hquiet hlast rest))⟩

end Fresh

/-- What is found of a fresh name in front of the same name, or of the end, is complete. -/
theorem IsFresh.prefix_of_prefix_append {c : Char} {name : List Char} (hname : IsFresh c name)
    {cs rest : List Char} (hne : cs ≠ []) (hrest : ∀ x ∈ rest.head?, x = c)
    (h : c :: name <+: cs ++ rest) :
    c :: name <+: cs := by
  rcases List.prefix_or_prefix_of_prefix h (List.prefix_append cs rest) with hwhole | ⟨u, hu⟩
  · exact hwhole
  · rw [← hu] at h
    have hafter : u <+: rest := (List.prefix_append_right_inj cs).1 h
    cases u with
    | nil =>
      rw [List.append_nil] at hu
      exact hu ▸ List.prefix_refl cs
    | cons x u =>
      -- the name would go on with its first letter
      obtain ⟨more, rfl⟩ := hafter
      have hx : x = c := hrest x rfl
      obtain ⟨y, cs, rfl⟩ := List.exists_cons_of_ne_nil hne
      rw [List.cons_append] at hu
      have hmem : x ∈ name := (List.cons.inj hu).2 ▸ List.mem_append_right cs List.mem_cons_self
      exact absurd (hx ▸ hmem) hname.not_mem

end Pattern

end SurfaceCoverage
