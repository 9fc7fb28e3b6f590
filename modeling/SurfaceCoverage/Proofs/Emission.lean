import Mathlib
import SurfaceCoverage.Proofs.Resolving
import SurfaceCoverage.Proofs.SpacedTokens
import SurfaceCoverage.Runtime
import SurfaceCoverage.Settings.Basic

/-!
# Registrations that are written and found again

Generated code mentions a constant of a family, and next to it the constructor of the target class.
The standard patterns find the registrations again, one for one: no blanks and no other text between
them change what is found, as long as that text mentions constants of the family as arguments of
constructors only.  A block that is registered by a bare value is left out.

**Results.**
* `Form.readLine_registration`: a registration is read with its identifier and its class.
* `Form.silent_of_onlyArguments`: arguments of constructors are not read.
* `Code.yields`: reading code finds what its registrations contribute, in their order.
* `registrations_of_code`: the standard patterns undo the writing.
-/

namespace SurfaceCoverage

namespace Registry

open Pattern Text

/-! ### Forms of registrations -/

/-- The identifier and the target class of a registration that is written. -/
structure Entry where
  id : String
  target : String
  deriving Repr, DecidableEq

/-- The places behind an identifier, where the constructor of the target class is called. -/
def constructorSlots (closing : List String) : List Slot :=
  [",", "Box", "::", "new", "("].map Slot.token ++ Slot.word 2 :: closing.map Slot.token

/-- The places in a registration: a name and the path to the identifier, the identifier, and the
constructor. -/
def registrationSlots (name : String) (path closing : List String) : List Slot :=
  (name :: "::" :: path).map Slot.token ++ Slot.word 1 :: constructorSlots closing

def constructorTokens (target : String) (closing : List String) : List String :=
  [",", "Box", "::", "new", "("] ++ target :: closing

/-- A form of registrations: the name of the constants of a family, the path from the name to the
identifier, and what follows the target class. -/
structure Form where
  name : String
  path : List String
  closing : List String
  fresh : ∃ c rest, name.toList = c :: rest ∧ IsFresh c rest
  apart : (registrationSlots name path closing).IsChain fun s t => s.isApart t = true
  separated : separated (spacedItems (registrationSlots name path closing)) = true

namespace Form

variable (f : Form)

/-- What stands in front of an identifier. -/
def opening : List String :=
  f.name :: "::" :: f.path

def slots : List Slot :=
  registrationSlots f.name f.path f.closing

/-- What the pattern for registrations asks for. -/
def line : List Item :=
  spacedItems f.slots

def tokens (e : Entry) (closing : List String) : List String :=
  f.opening ++ e.id :: constructorTokens e.target closing

/-- A constant of the family is the argument of a constructor. -/
def IsArgument (cs : List Char) : Prop :=
  ∃ word, IsWord word ∧ Spaced (f.opening ++ [word, ")"]) cs

/-- Wherever a text mentions the name, the constant is the argument of a constructor. -/
def OnlyArguments (gap : List Char) : Prop :=
  ∀ s, s <:+ gap → f.name.toList <+: s → ∃ cs rest, f.IsArgument cs ∧ s = cs ++ rest

end Form

/-- Code: registrations that are written in front of a certain rest, with other text around. -/
inductive Code {α : Type} (f : Form) (Writes : α → List Char → List Char → Prop) :
    List α → List Char → Prop
  | done {gap : List Char} (hgap : f.OnlyArguments gap) : Code f Writes [] gap
  | entry {gap written rest : List Char} {e : α} {es : List α} (hgap : f.OnlyArguments gap)
      (hwritten : Writes e written rest) (hrest : Code f Writes es rest) :
      Code f Writes (e :: es) (gap ++ (written ++ rest))

/-- The form of block registrations. -/
def blockForm : Form where
  name := "vanilla_blocks"
  path := []
  closing := ["::"]
  fresh := ⟨'v', "anilla_blocks".toList, rfl, List.all_eq_true.1 (by decide +kernel), by decide⟩
  apart := by decide +kernel
  separated := by decide +kernel

/-- The form of item registrations. -/
def itemForm : Form where
  name := "vanilla_items"
  path := ["ITEMS", "."]
  closing := []
  fresh := ⟨'v', "anilla_items".toList, rfl, List.all_eq_true.1 (by decide +kernel), by decide⟩
  apart := by decide +kernel
  separated := by decide +kernel

set_option maxRecDepth 4000 in
/-- The pattern for blocks is read as the line for them. -/
theorem blockPattern_reads (d : Dialect) :
    Named.ofText d Settings.blockPattern =
      .ok ⟨lineExpr blockForm.line, [("id", 1), ("type", 2)]⟩ := by
  cbv

set_option maxRecDepth 4000 in
/-- The pattern for items is read as the line for them. -/
theorem itemPattern_reads (d : Dialect) :
    Named.ofText d Settings.itemPattern =
      .ok ⟨lineExpr itemForm.line, [("id", 1), ("type", 2)]⟩ := by
  cbv

/-! ### Reading registrations -/

/-- The words that are remembered of a registration, the latest first. -/
def Entry.words (e : Entry) : List (Nat × List Char) :=
  [(2, e.target.toList), (1, e.id.toList)]

theorem fits_word {group : Nat} {t : String} (h : IsWord t) :
    (Slot.word group).Fits t :=
  h

theorem fits_tokens (ts : List String) {slots : List Slot} {us : List String}
    (h : List.Forall₂ Slot.Fits slots us) :
    List.Forall₂ Slot.Fits (ts.map Slot.token ++ slots) (ts ++ us) := by
  induction ts with
  | nil => exact h
  | cons t ts ih => exact .cons rfl ih

theorem wordsOf_tokens (ts : List String) (slots : List Slot) (us : List String) :
    wordsOf (ts.map Slot.token ++ slots) (ts ++ us) = wordsOf slots us := by
  induction ts with
  | nil => rfl
  | cons t ts ih => rw [List.map_cons, List.cons_append, List.cons_append, wordsOf, ih,
      Slot.words, List.append_nil]

namespace Form

variable {f : Form} {e : Entry}

/-- The line of a form starts with its name and a mark. -/
theorem exists_line_eq (f : Form) :
    ∃ (c : Char) (name : List Char) (more : List Item), f.name.toList = c :: name
      ∧ IsFresh c name
      ∧ f.line = (c :: name).map Item.letter ++ Item.blanks :: Item.letter ':' :: more := by
  obtain ⟨c, name, hname, hfresh⟩ := f.fresh
  let behind := f.path.map Slot.token ++ Slot.word 1 :: constructorSlots f.closing
  obtain ⟨more, hmore⟩ := spacedItems_cons (Slot.token "::") behind
  have hline : f.line = f.name.toList.map Item.letter ++
      Item.blanks :: spacedItems (Slot.token "::" :: behind) := rfl
  refine ⟨c, name, Item.letter ':' :: more, hname, hfresh, ?_⟩
  rw [hline, hmore, hname]
  rfl

/-- A registration fits the places for it. -/
theorem fits_slots (hid : IsWord e.id) (htarget : IsWord e.target) :
    List.Forall₂ Slot.Fits f.slots (f.tokens e f.closing) := by
  have hclosing := fits_tokens f.closing .nil
  rw [List.append_nil, List.append_nil] at hclosing
  exact fits_tokens f.opening (.cons (fits_word hid)
    (fits_tokens [",", "Box", "::", "new", "("] (.cons (fits_word htarget) hclosing)))

/-- What is remembered of a registration are its identifier and its class. -/
theorem wordsOf_slots :
    wordsOf f.slots (f.tokens e f.closing) = e.words := by
  have hclosing := wordsOf_tokens f.closing [] []
  rw [List.append_nil, List.append_nil] at hclosing
  have hconstructor : wordsOf (constructorSlots f.closing) (constructorTokens e.target f.closing) =
      [(2, e.target.toList)] := by
    rw [constructorSlots, constructorTokens, wordsOf_tokens, wordsOf, hclosing]
    rfl
  have hopening : wordsOf f.slots (f.tokens e f.closing) =
      wordsOf (Slot.word 1 :: constructorSlots f.closing)
        (e.id :: constructorTokens e.target f.closing) :=
    wordsOf_tokens f.opening _ _
  rw [hopening, wordsOf, hconstructor]
  rfl

/-- A registration is read with its identifier and its class. -/
theorem readLine_registration {cs rest : List Char} (h : Spaced (f.tokens e f.closing) cs)
    (hid : IsWord e.id) (htarget : IsWord e.target)
    (hends : ∀ s ∈ f.slots.getLast?, ∀ c ∈ rest.head?, s.endsBefore c = true) :
    readLine f.line (cs ++ rest) = some ⟨e.words, rest⟩ := by
  have hread : readLine (spacedItems f.slots ++ []) (cs ++ rest) = _ :=
    readLine_spaced h (fits_slots hid htarget) f.apart hends
  rw [List.append_nil, wordsOf_slots] at hread
  exact hread

/-- Text that fits the first places of a form is not read if a parenthesis closes it there. -/
theorem readLine_of_closed {first more : List Slot} {u : String}
    (hslots : f.slots = first ++ Slot.token u :: more) (hne : first ≠ []) {ts : List String}
    (hfits : List.Forall₂ Slot.Fits first ts) (hu : IsStray ")" u) {cs : List Char}
    (h : Spaced (ts ++ [")"]) cs) (rest : List Char) :
    readLine f.line (cs ++ rest) = none := by
  have hapart : f.slots.IsChain fun s t => s.isApart t = true := f.apart
  rw [hslots] at hapart
  rw [line, hslots]
  exact readLine_of_stray h hne hfits hapart.left_of_append hu more rest

/-- The argument of a constructor is not read: no comma follows it. -/
theorem readLine_argument {cs : List Char} (h : f.IsArgument cs) (rest : List Char) :
    readLine f.line (cs ++ rest) = none := by
  obtain ⟨word, hword, hcs⟩ := h
  have hsplit : f.opening ++ [word, ")"] = (f.opening ++ [word]) ++ [")"] := by
    rw [List.append_assoc]
    rfl
  have hslots : f.slots = (f.opening.map Slot.token ++ [Slot.word 1]) ++
      Slot.token "," :: (constructorSlots f.closing).tail := by
    rw [List.append_assoc]
    rfl
  rw [hsplit] at hcs
  exact readLine_of_closed hslots (List.cons_ne_nil _ _)
    (fits_tokens f.opening (.cons (fits_word hword) .nil))
    ⟨')', [], ',', [], rfl, rfl, by decide, by decide +kernel, by decide +kernel⟩ hcs rest

/-- Text that mentions constants as arguments only is silent in front of a registration, or of the
end. -/
theorem silent_of_onlyArguments {gap rest : List Char} (h : f.OnlyArguments gap)
    (hrest : ∀ c ∈ rest.head?, f.name.toList.head? = some c) :
    Silent f.line gap rest := by
  obtain ⟨first, name, more, hname, hfresh, hline⟩ := f.exists_line_eq
  induction gap with
  | nil => trivial
  | cons c gap ih =>
    refine ⟨?_, ih fun s hs => h s (hs.trans (List.suffix_cons c gap))⟩
    -- the name can only be read where it stands, and there the gap has an argument
    by_cases hprefix : first :: name <+: c :: (gap ++ rest)
    · have hfirst : ∀ x ∈ rest.head?, x = first := fun x hx => by
        have hhead := hrest x hx
        rw [hname] at hhead
        cases hhead
        rfl
      have hwhole : first :: name <+: c :: gap :=
        hfresh.prefix_of_prefix_append (List.cons_ne_nil c gap) hfirst hprefix
      obtain ⟨cs, after, hcs, hsplit⟩ := h _ (List.suffix_refl _) (hname ▸ hwhole)
      rw [← List.cons_append, hsplit, List.append_assoc]
      exact readLine_argument hcs (after ++ rest)
    · rw [hline]
      exact readLine_letters_eq_none hprefix

/-- The matches of the line of a form have the words that are found. -/
theorem groups_matches_line {text : List Char} {out : List (List (Nat × List Char))}
    (h : Yields f.line text out) :
    ((lineExpr f.line).matches text).map Point.groups = out := by
  obtain ⟨first, name, more, -, -, hline⟩ := f.exists_line_eq
  have hseparated : Pattern.separated f.line = true := f.separated
  rw [hline] at h hseparated ⊢
  exact groups_matches hseparated h

end Form

/-! ### Reading code -/

/-- In code, registrations are found as they are read one by one. -/
theorem Code.yields {f : Form} {α : Type} {Writes : α → List Char → List Char → Prop}
    {out : α → List (List (Nat × List Char))}
    {es : List α} {cs : List Char} (h : Code f Writes es cs)
    (hstart : ∀ e written rest, Writes e written rest → f.name.toList <+: written)
    (hstep : ∀ e written rest found, Writes e written rest → Yields f.line rest found →
      Yields f.line (written ++ rest) (out e ++ found)) :
    Yields f.line cs (es.flatMap out) := by
  obtain ⟨first, name, more, hname, -, hline⟩ := f.exists_line_eq
  induction h with
  | @done gap hgap =>
    have hnone : readLine f.line [] = none := by
      rw [hline]
      rfl
    have hsilent := Form.silent_of_onlyArguments hgap fun c (hc : c ∈ [].head?) => nomatch hc
    have hyields := hsilent.yields (.done hnone)
    rwa [List.append_nil] at hyields
  | @entry gap written rest e es hgap hwritten _ ih =>
    refine (Form.silent_of_onlyArguments hgap ?_).yields (hstep e written rest _ hwritten ih)
    obtain ⟨after, rfl⟩ := hstart e written rest hwritten
    rw [hname]
    rintro c ⟨⟩
    rfl

/-! ### The standard families -/

/-- A block registration that is written: the target class is constructed, or it is a bare value. -/
structure BlockEntry extends Entry where
  bare : Bool
  deriving Repr, DecidableEq

/-- A block registration is written, with any blanks between its tokens. -/
structure WritesBlock (e : BlockEntry) (written rest : List Char) : Prop where
  id_word : IsWord e.id
  target_word : IsWord e.target
  spaced : Spaced (blockForm.tokens e.toEntry [if e.bare then ")" else "::"]) written

/-- An item registration is written, with any blanks between its tokens, and its target class ends
where the rest begins. -/
structure WritesItem (e : Entry) (written rest : List Char) : Prop where
  id_word : IsWord e.id
  target_word : IsWord e.target
  spaced : Spaced (itemForm.tokens e []) written
  ends : ∀ c ∈ rest.head?, isWord c = false

/-- A registration begins with the name of its form. -/
theorem Form.prefix_of_spaced {f : Form} {e : Entry} {closing : List String} {written : List Char}
    (h : Spaced (f.tokens e closing) written) :
    f.name.toList <+: written := by
  obtain ⟨rest, rfl⟩ := Spaced.exists_append h
  exact List.prefix_append f.name.toList rest

/-- What is found of a block registration. -/
def BlockEntry.found (e : BlockEntry) : List (List (Nat × List Char)) :=
  if e.bare then [] else [e.words]

/-- The registration that an entry writes. -/
def Entry.registration (e : Entry) : Registration :=
  ⟨some e.id, some e.target⟩

/-- The tokens of the registration of a bare value behind its name. -/
def bareTokens (e : Entry) : List String :=
  ["::", e.id, ",", "Box", "::", "new", "(", e.target, ")"]

/-- Only words in them could contain the name, and a mark follows each that no name has. -/
theorem isChain_isQuiet_bareTokens {e : Entry} (hid : IsWord e.id) (htarget : IsWord e.target) :
    (bareTokens e).IsChain (IsQuiet 'v' ':') := by
  have hidQuiet : IsQuiet 'v' ':' e.id "," :=
    .inr ⟨hid.2, ',', [], rfl, by decide, by decide +kernel, by decide +kernel⟩
  have htargetQuiet : IsQuiet 'v' ':' e.target ")" :=
    .inr ⟨htarget.2, ')', [], rfl, by decide, by decide +kernel, by decide +kernel⟩
  simp only [bareTokens, List.isChain_cons_cons, List.isChain_singleton, and_true]
  exact ⟨.inl (by decide), hidQuiet, .inl (by decide), .inl (by decide), .inl (by decide),
    .inl (by decide), .inl (by decide), htargetQuiet⟩

/-- A bare value is not read, nor is anything inside of its registration. -/
theorem silent_of_bare {e : Entry} {written : List Char} (hid : IsWord e.id)
    (htarget : IsWord e.target) (h : Spaced (blockForm.tokens e [")"]) written)
    (rest : List Char) :
    Silent blockForm.line written rest := by
  obtain ⟨c, name, more, hname, hfresh, hline⟩ := blockForm.exists_line_eq
  have hc : c = 'v' := by
    have hhead := congrArg List.head? hname
    cases hhead
    rfl
  subst hc
  have hread := Form.readLine_of_closed (f := blockForm) rfl (List.cons_ne_nil _ _)
    (fits_tokens blockForm.opening (.cons (fits_word hid)
      (fits_tokens [",", "Box", "::", "new", "("] (.cons (fits_word htarget) .nil))))
    ⟨')', [], ':', [':'], rfl, rfl, by decide, by decide +kernel, by decide +kernel⟩ h rest
  have htokens : blockForm.tokens e [")"] = "vanilla_blocks" :: bareTokens e := rfl
  have hlast : (bareTokens e).getLast? = some ")" := rfl
  rw [htokens] at h
  rw [hline] at hread ⊢
  refine .of_spaced_name hfresh (by decide +kernel) hname h hread
    (isChain_isQuiet_bareTokens hid htarget) ?_
  rw [hlast]
  rintro t ⟨⟩
  decide

/-- A block that is registered by a value adds nothing, any other one its words. -/
theorem yields_block {e : BlockEntry} {written rest : List Char}
    {found : List (List (Nat × List Char))} (h : WritesBlock e written rest)
    (hrest : Yields blockForm.line rest found) :
    Yields blockForm.line (written ++ rest) (e.found ++ found) := by
  obtain ⟨hid, htarget, hspaced⟩ := h
  cases hbare : e.bare with
  | true =>
    rw [hbare, if_pos rfl] at hspaced
    rw [BlockEntry.found, hbare, if_pos rfl]
    exact (silent_of_bare hid htarget hspaced rest).yields hrest
  | false =>
    rw [hbare, if_neg Bool.false_ne_true] at hspaced
    rw [BlockEntry.found, hbare, if_neg Bool.false_ne_true]
    have hread : readLine blockForm.line (written ++ rest) = some ⟨e.words, rest⟩ :=
      Form.readLine_registration hspaced hid htarget (by rintro s ⟨⟩ c _; rfl)
    exact .found hread hrest

/-- An item adds its words. -/
theorem yields_item {e : Entry} {written rest : List Char}
    {found : List (List (Nat × List Char))} (h : WritesItem e written rest)
    (hrest : Yields itemForm.line rest found) :
    Yields itemForm.line (written ++ rest) ([e.words] ++ found) := by
  have hends : ∀ s ∈ itemForm.slots.getLast?, ∀ c ∈ rest.head?, s.endsBefore c = true := by
    rintro s ⟨⟩ c hc
    exact endsBefore_word.2 (h.ends c hc)
  exact .found (Form.readLine_registration h.spaced h.id_word h.target_word hends) hrest

/-- The registration that the words of a match show. -/
def shownBy (words : List (Nat × List Char)) : Registration :=
  registrationOf 1 2 ⟨0, [], [], words⟩

theorem shownBy_words (e : Entry) :
    shownBy e.words = e.registration := by
  have hid : Named.groupText? 1 ⟨0, [], [], e.words⟩ = some (String.ofList e.id.toList) := rfl
  have htarget : Named.groupText? 2 ⟨0, [], [], e.words⟩ = some (String.ofList e.target.toList) :=
    rfl
  rw [shownBy, registrationOf, hid, htarget, String.ofList_toList, String.ofList_toList,
    Entry.registration]

/-- The registrations in code are those that the words of its entries show. -/
theorem registrations_of_yields {f : Form} {text : String} {es : List Entry}
    (h : Yields f.line text.toList (es.map Entry.words)) :
    registrations ⟨lineExpr f.line, [("id", 1), ("type", 2)]⟩ text =
      .ok (es.map Entry.registration) := by
  have hshown : ((lineExpr f.line).matches text.toList).map (registrationOf 1 2) =
      es.map Entry.registration :=
    calc ((lineExpr f.line).matches text.toList).map (registrationOf 1 2)
        = (((lineExpr f.line).matches text.toList).map Point.groups).map shownBy := by
          rw [List.map_map]
          rfl
      _ = es.map Entry.registration := by
          rw [Form.groups_matches_line h, List.map_map]
          exact List.map_congr_left fun e _ => shownBy_words e
  rw [registrations, registrationsOf_eq_ok rfl rfl, hshown]

/-- What is found of blocks are those that are not registered by a value. -/
theorem flatMap_found (es : List BlockEntry) :
    es.flatMap BlockEntry.found =
      ((es.filter fun e => !e.bare).map BlockEntry.toEntry).map Entry.words := by
  induction es with
  | nil => rfl
  | cons e es ih =>
    rw [List.flatMap_cons, ih]
    cases hbare : e.bare with
    | true =>
      rw [BlockEntry.found, hbare, if_pos rfl, List.filter_cons_of_neg (by simp [hbare])]
      rfl
    | false =>
      rw [BlockEntry.found, hbare, if_neg Bool.false_ne_true,
        List.filter_cons_of_pos (by simp [hbare])]
      rfl

/-- In every dialect the standard patterns undo the writing of registrations.  In code with block
registrations the block pattern finds those that are no bare values, and in code with item
registrations the item pattern finds all of them, in their order and each with its own identifier
and target class, whatever blanks stand between the tokens and whatever text stands around the
registrations, as long as it mentions constants of the family as arguments of constructors only. -/
theorem registrations_of_code (d : Dialect) :
    (∃ p, Named.ofText d Settings.blockPattern = .ok p
      ∧ ∀ (es : List BlockEntry) (text : String), Code blockForm WritesBlock es text.toList →
        registrations p text = .ok ((es.filter fun e => !e.bare).map fun e => e.registration))
    ∧ ∃ p, Named.ofText d Settings.itemPattern = .ok p
      ∧ ∀ (es : List Entry) (text : String), Code itemForm WritesItem es text.toList →
        registrations p text = .ok (es.map Entry.registration) := by
  refine ⟨⟨_, blockPattern_reads d, fun es text h => ?_⟩,
    _, itemPattern_reads d, fun es text h => ?_⟩
  · have hyields := h.yields (fun _ _ _ h => Form.prefix_of_spaced h.spaced)
      fun _ _ _ _ => yields_block
    rw [flatMap_found] at hyields
    rw [registrations_of_yields hyields, List.map_map]
    rfl
  · have hyields := h.yields (fun _ _ _ h => Form.prefix_of_spaced h.spaced)
      fun _ _ _ _ => yields_item
    rw [← List.map_eq_flatMap] at hyields
    exact registrations_of_yields hyields

/-! ### Code of both families -/

namespace Form

variable {f : Form}

/-- A registration that is written with one run of blanks throughout. -/
def text (f : Form) (ws : String) (e : Entry) (closing : List String) : List Char :=
  ws.toList.intercalate ((f.tokens e closing).map String.toList)

/-- The argument of a constructor that is written with one run of blanks throughout. -/
def argument (f : Form) (ws word : String) : List Char :=
  ws.toList.intercalate ((f.opening ++ [word, ")"]).map String.toList)

/-- A registration that is written with blanks is spaced. -/
theorem spaced_text {ws : String} (hws : ∀ c ∈ ws.toList, isBlank c = true) (e : Entry)
    (closing : List String) :
    Spaced (f.tokens e closing) (f.text ws e closing) :=
  .intercalate hws f.name _

theorem isArgument_argument {ws word : String} (hws : ∀ c ∈ ws.toList, isBlank c = true)
    (hword : IsWord word) :
    f.IsArgument (f.argument ws word) :=
  ⟨word, hword, .intercalate hws f.name _⟩

/-- Text mentions constants as arguments only if it does so wherever the name stands. -/
theorem onlyArguments_iff {gap : List Char} :
    f.OnlyArguments gap ↔
      ∀ s ∈ gap.tails.filter fun s => f.name.toList.isPrefixOf s, ∃ cs rest,
        f.IsArgument cs ∧ s = cs ++ rest := by
  simp only [OnlyArguments, List.mem_filter, List.mem_tails, List.isPrefixOf_iff_prefix, and_imp]

/-- Text that does not mention the name mentions it as an argument only. -/
theorem onlyArguments_of_not_mentioned {gap : List Char}
    (h : (gap.tails.filter fun s => f.name.toList.isPrefixOf s) = []) :
    f.OnlyArguments gap := by
  rw [onlyArguments_iff, h]
  exact fun s hs => nomatch hs

/-- So does text that mentions it once, as an argument. -/
theorem onlyArguments_of_mentioned_once {before cs after : List Char} (hcs : f.IsArgument cs)
    (h : ((before ++ (cs ++ after)).tails.filter fun s => f.name.toList.isPrefixOf s) =
      [cs ++ after]) :
    f.OnlyArguments (before ++ (cs ++ after)) := by
  rw [onlyArguments_iff, h]
  intro s hs
  exact ⟨cs, after, hcs, List.mem_singleton.1 hs⟩

end Form

/-- Code in which a barrel is registered with its own constant as an argument of the constructor,
and air by a bare value. -/
def blockCode : String :=
  "f(vanilla_blocks :: BARREL , Box :: new ( BarrelBlock :: new(vanilla_blocks::BARREL)));" ++
    "g(vanilla_blocks::AIR,Box::new(AirBlock))"

/-- Code in which stone and a stick are registered, stone with its own constant as an argument of
the constructor. -/
def itemCode : String :=
  "f(vanilla_items :: ITEMS . stone , Box :: new ( BlockItem::new(vanilla_items::ITEMS.stone)));" ++
    "g(vanilla_items::ITEMS.stick,Box::new(Item"

theorem code_blockCode :
    Code blockForm WritesBlock [⟨⟨"BARREL", "BarrelBlock"⟩, false⟩, ⟨⟨"AIR", "AirBlock"⟩, true⟩]
      blockCode.toList := by
  have hspace : ∀ c ∈ " ".toList, isBlank c = true := List.all_eq_true.1 (by decide +kernel)
  have hnone : ∀ c ∈ "".toList, isBlank c = true := List.all_eq_true.1 rfl
  have htext : blockCode.toList = "f(".toList ++
      (blockForm.text " " ⟨"BARREL", "BarrelBlock"⟩ ["::"] ++
        ((" new(".toList ++ (blockForm.argument "" "BARREL" ++ "));g(".toList)) ++
          (blockForm.text "" ⟨"AIR", "AirBlock"⟩ [")"] ++ ")".toList))) := by decide +kernel
  rw [htext]
  refine .entry (Form.onlyArguments_of_not_mentioned (by decide +kernel))
    ⟨by decide +kernel, by decide +kernel, Form.spaced_text hspace _ _⟩
    (.entry (Form.onlyArguments_of_mentioned_once
        (Form.isArgument_argument hnone (by decide +kernel)) (by decide +kernel))
      ⟨by decide +kernel, by decide +kernel, Form.spaced_text hnone _ _⟩
      (.done (Form.onlyArguments_of_not_mentioned (by decide +kernel))))

theorem code_itemCode :
    Code itemForm WritesItem [⟨"stone", "BlockItem"⟩, ⟨"stick", "Item"⟩] itemCode.toList := by
  have hspace : ∀ c ∈ " ".toList, isBlank c = true := List.all_eq_true.1 (by decide +kernel)
  have hnone : ∀ c ∈ "".toList, isBlank c = true := List.all_eq_true.1 rfl
  have htext : itemCode.toList = "f(".toList ++
      (itemForm.text " " ⟨"stone", "BlockItem"⟩ [] ++
        (("::new(".toList ++ (itemForm.argument "" "stone" ++ "));g(".toList)) ++
          (itemForm.text "" ⟨"stick", "Item"⟩ [] ++ []))) := by decide +kernel
  rw [htext]
  refine .entry (Form.onlyArguments_of_not_mentioned (by decide +kernel))
    ⟨by decide +kernel, by decide +kernel, Form.spaced_text hspace _ _,
      by rintro c ⟨⟩; decide +kernel⟩
    (.entry (Form.onlyArguments_of_mentioned_once
        (Form.isArgument_argument hnone (by decide +kernel)) (by decide +kernel))
      ⟨by decide +kernel, by decide +kernel, Form.spaced_text hnone _ _,
        by rintro c ⟨⟩⟩
      (.done (Form.onlyArguments_of_not_mentioned (by decide +kernel))))

/-- The bare value is left out, and no constant that is an argument is taken for another block or
item. -/
theorem registrations_of_blockCode_and_itemCode :
    (∃ p, Named.ofText Runtime.usual.dialect Settings.blockPattern = .ok p
      ∧ registrations p blockCode = .ok [⟨some "BARREL", some "BarrelBlock"⟩])
    ∧ ∃ p, Named.ofText Runtime.usual.dialect Settings.itemPattern = .ok p
      ∧ registrations p itemCode =
        .ok [⟨some "stone", some "BlockItem"⟩, ⟨some "stick", some "Item"⟩] := by
  obtain ⟨⟨p, hp, hblocks⟩, q, hq, hitems⟩ :=
    registrations_of_code Runtime.usual.dialect
  exact ⟨⟨p, hp, hblocks _ _ code_blockCode⟩, q, hq, hitems _ _ code_itemCode⟩

end Registry

end SurfaceCoverage
