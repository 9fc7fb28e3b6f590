import SurfaceCoverage.Pattern.CharTest

/-!
# Patterns

A pattern describes texts: characters, sequences, choices, repetitions, groups that are remembered,
and conditions on the place in the text.  A pattern is tried on a place of a text together with a
test for what follows; choices are tried in order, and the first way that passes counts.  So all
ways of matching are explored without a search stack.
-/

namespace SurfaceCoverage

namespace Pattern

/-- How a repetition goes on. -/
inductive Mode where
  | greedy
  | lazy
  | possessive
  deriving Repr, DecidableEq

/-- A condition on a place. -/
inductive Edge where
  | textStart
  | lineStart
  | lastLineEnd
  | lineEnd
  | textEnd
  | wordEdge (ascii : Bool)
  | noWordEdge (ascii : Bool)
  deriving Repr, DecidableEq

/-- A description of texts. -/
inductive Expr where
  | empty
  | never
  | char (t : CharTest)
  | seq (p q : Expr)
  | alt (p q : Expr)
  | run (t : CharTest) (least : Nat) (most : Option Nat) (mode : Mode)
  | repeated (p : Expr) (least : Nat) (most : Option Nat) (mode : Mode)
  | group (number : Nat) (p : Expr)
  | atomic (p : Expr)
  | same (number : Nat) (rule : CaseRule)
  | whether (number : Nat) (yes no : Expr)
  | ahead (negated : Bool) (p : Expr)
  | behind (negated : Bool) (width : Nat) (p : Expr)
  | edge (e : Edge)
  deriving Repr, DecidableEq

/-- A place in a text, with the groups that have taken part. -/
structure Point where
  index : Nat
  before : List Char
  after : List Char
  groups : List (Nat × List Char)
  deriving Repr, DecidableEq

namespace Point

/-- The start of a text. -/
def start (text : List Char) : Point :=
  ⟨0, [], text, []⟩

/-- The place one character further on. -/
def next (s : Point) : Point :=
  match s.after with
  | [] => s
  | c :: rest => ⟨s.index + 1, c :: s.before, rest, s.groups⟩

/-- The place `n` characters further on. -/
def skip (n : Nat) (s : Point) : Point :=
  ⟨s.index + (s.after.take n).length, (s.after.take n).reverse ++ s.before, s.after.drop n,
    s.groups⟩

/-- The place `n` characters before. -/
def back (n : Nat) (s : Point) : Point :=
  ⟨s.index - n, s.before.drop n, (s.before.take n).reverse ++ s.after, s.groups⟩

/-- The text between an earlier index and the place. -/
def textFrom (index : Nat) (s : Point) : List Char :=
  (s.before.take (s.index - index)).reverse

/-- The text of a group, if it has taken part. -/
def group? (number : Nat) (s : Point) : Option (List Char) :=
  (s.groups.find? fun g => g.1 = number).map Prod.snd

/-- The place with the text of a group. -/
def remember (number : Nat) (text : List Char) (s : Point) : Point :=
  { s with groups := (number, text) :: s.groups }

end Point

/-- What follows: the place at the end of the whole match, if there is one. -/
abbrev Rest := Point → Option Point

/-- Whether a place is between a word character and another one; never in an empty text. -/
def isWordEdge (ascii : Bool) (s : Point) : Bool :=
  let word (c : Option Char) : Bool := c.any (CharClass.word.holds ascii)
  word s.before.head? != word s.after.head?

/-- Whether a place satisfies a condition. -/
def Edge.holds (e : Edge) (s : Point) : Bool :=
  match e with
  | .textStart => s.before.isEmpty
  | .lineStart => s.before.head?.all (· == '\n')
  | .lastLineEnd => s.after.isEmpty || s.after == ['\n']
  | .lineEnd => s.after.head?.all (· == '\n')
  | .textEnd => s.after.isEmpty
  | .wordEdge ascii => isWordEdge ascii s
  | .noWordEdge ascii =>
      !(s.before.isEmpty && s.after.isEmpty) && !isWordEdge ascii s

/-- How many characters at the front pass a test, `most` at most. -/
def runLength (t : CharTest) : Option Nat → List Char → Nat
  | _, [] => 0
  | some 0, _ => 0
  | most, c :: rest => if t.passes c then runLength t (most.map (· - 1)) rest + 1 else 0

/-- Tries the lengths from `n` down to `least`. -/
def tryDown (least : Nat) (k : Rest) (s : Point) : Nat → Option Point
  | 0 => if least = 0 then k s else none
  | n + 1 =>
      if n + 1 < least then none
      else
        match k (s.skip (n + 1)) with
        | some r => some r
        | none => tryDown least k s n

/-- Tries the lengths from `n` on, `fuel` of them. -/
def tryUp (k : Rest) (s : Point) (n : Nat) : Nat → Option Point
  | 0 => none
  | fuel + 1 =>
      match k (s.skip n) with
      | some r => some r
      | none => tryUp k s (n + 1) fuel

/-- Tries characters that pass one test. -/
def tryRun (t : CharTest) (least : Nat) (most : Option Nat) (mode : Mode) (k : Rest) (s : Point) :
    Option Point :=
  let n := runLength t most s.after
  if n < least then none
  else
    match mode with
    | .greedy => tryDown least k s n
    | .lazy => tryUp k s least (n - least + 1)
    | .possessive => k (s.skip n)

/-- Tries a repetition, given how to try one round.  `last` is where the last round that was not
needed started: a round that goes nowhere is the last one. -/
def tryRounds (round : Rest → Rest) (lazy : Bool) (k : Rest) :
    Nat → Nat → Option Nat → Option Nat → Rest
  | 0, _, _, _, _ => none
  | fuel + 1, least, most, last, s =>
      match least with
      | least + 1 => round (tryRounds round lazy k fuel least (most.map (· - 1)) last) s
      | 0 =>
          let more (s : Point) : Option Point :=
            if most = some 0 ∨ last = some s.index then none
            else round (tryRounds round lazy k fuel 0 (most.map (· - 1)) (some s.index)) s
          if lazy then
            match k s with
            | some r => some r
            | none => more s
          else
            match more s with
            | some r => some r
            | none => k s

/-- The place behind rounds that are each taken as they come. -/
def takeRounds (round : Rest) : Nat → Nat → Option Nat → Rest
  | 0, _, _, s => some s
  | fuel + 1, least, most, s =>
      match least with
      | least + 1 =>
          match round s with
          | some r => takeRounds round fuel least (most.map (· - 1)) r
          | none => none
      | 0 =>
          if most = some 0 then some s
          else
            match round s with
            | some r => if r.index = s.index then some r
                else takeRounds round fuel 0 (most.map (· - 1)) r
            | none => some s

/-- Drops a text from the front, up to case. -/
def dropSame? (rule : CaseRule) : List Char → List Char → Option (List Char)
  | [], cs => some cs
  | _ :: _, [] => none
  | x :: xs, c :: cs =>
      let alike :=
        match rule with
        | .exact => x == c
        | .ascii => x.toLower == c.toLower
        | .full => Text.lowerChar x == Text.lowerChar c
      if alike then dropSame? rule xs cs else none

/-- Tries a pattern on a place: the end of the first way to match it that what follows accepts. -/
def Expr.attempt : Expr → Rest → Rest
  | .empty, k, s => k s
  | .never, _, _ => none
  | .char t, k, s =>
      match s.after with
      | [] => none
      | c :: _ => if t.passes c then k s.next else none
  | .seq p q, k, s => p.attempt (q.attempt k) s
  | .alt p q, k, s =>
      match p.attempt k s with
      | some r => some r
      | none => q.attempt k s
  | .run t least most mode, k, s => tryRun t least most mode k s
  | .repeated p least most mode, k, s =>
      let fuel := least + s.after.length + 2
      match mode with
      | .greedy => tryRounds (fun k s => p.attempt k s) false k fuel least most none s
      | .lazy => tryRounds (fun k s => p.attempt k s) true k fuel least most none s
      | .possessive =>
          match takeRounds (fun s => p.attempt some s) fuel least most s with
          | some r => k r
          | none => none
  | .group number p, k, s =>
      p.attempt (fun r => k (r.remember number (r.textFrom s.index))) s
  | .atomic p, k, s =>
      match p.attempt some s with
      | some r => k r
      | none => none
  | .same number rule, k, s =>
      match s.group? number with
      | none => none
      | some text =>
          match dropSame? rule text s.after with
          | some _ => k (s.skip text.length)
          | none => none
  | .whether number yes no, k, s =>
      if (s.group? number).isSome then yes.attempt k s else no.attempt k s
  | .ahead negated p, k, s =>
      match p.attempt some s with
      | some r => if negated then none else k { s with groups := r.groups }
      | none => if negated then k s else none
  | .behind negated width p, k, s =>
      match if width ≤ s.before.length then p.attempt some (s.back width) else none with
      | some r => if negated then none else k { s with groups := r.groups }
      | none => if negated then k s else none
  | .edge e, k, s => if e.holds s then k s else none

/-- The end of the first match from a place on.  If `advance` is set, a match right at the place
must not be empty. -/
def Expr.findFrom? (p : Expr) (advance : Bool) (index : Nat) (before : List Char) :
    List Char → Option (Nat × Point)
  | [] => (matchAt []).map fun r => (index, r)
  | c :: rest =>
      match matchAt (c :: rest) with
      | some r => some (index, r)
      | none => p.findFrom? false (index + 1) (c :: before) rest
where
  /-- The end of the match right at the place. -/
  matchAt (after : List Char) : Option Point :=
    p.attempt (fun r => if advance && r.index == index then none else some r)
      ⟨index, before, after, []⟩

/-- The matches from a place on: none overlaps another one, and an empty match does not stand where
another empty match has just ended. -/
def Expr.matchesFrom (p : Expr) : Nat → Bool → Point → List Point
  | 0, _, _ => []
  | fuel + 1, advance, s =>
      match p.findFrom? advance s.index s.before s.after with
      | none => []
      | some (index, r) => r :: p.matchesFrom fuel (r.index == index) r

/-- The ends of all matches in a text, from left to right. -/
def Expr.matches (p : Expr) (text : List Char) : List Point :=
  p.matchesFrom (2 * text.length + 2) false (.start text)

end Pattern

end SurfaceCoverage
