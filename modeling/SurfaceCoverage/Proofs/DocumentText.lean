import SurfaceCoverage.Proofs.NumberText

/-!
# The text of a document

A document that is written out is read as the same document, whatever characters its texts have,
and however deep its arrays and objects are nested.  Only floating-point numbers may come back as
others: the reader rounds the digits that it finds.  Whole numbers are left out here, and an object
must not have two members of one name, since the reader keeps the last one only.

**Results.**
* `readText_flatMap_escapeChar`: the characters of a text are read back.
* `readValue_chars`: a document is read up to its end, and no further.
* `parse_render`: a document is read from its text.
-/

namespace SurfaceCoverage

namespace Json

/-! ### Texts -/

/-- Control characters are written with four digits, and read back. -/
theorem hexDigits_of_lt : ∀ n < 0x20,
    Text.hexDigits 4 n = ['0', '0', Nat.digitChar (n / 16), Nat.digitChar (n % 16)]
      ∧ hexQuad? '0' '0' (Nat.digitChar (n / 16)) (Nat.digitChar (n % 16)) = some n := by
  decide

/-- A control character is read back from its code. -/
theorem readText_code (start : Nat) (acc : List Char) {c : Char} (hc : c.toNat < 0x20) (e : Char)
    (rest : List Char) :
    readText start acc ('\\' :: 'u' :: Text.hexDigits 4 c.toNat ++ e :: rest) =
      readText start (c :: acc) (e :: rest) := by
  obtain ⟨hdigits, hquad⟩ := hexDigits_of_lt c.toNat hc
  have halone : pairedChar? c.toNat (e :: rest) = none := by
    rw [pairedChar?, if_neg (by omega)]
  have hchar : codeChar? c.toNat = some c := by
    rw [codeChar?, if_neg (by omega), Char.ofNat_toNat]
  rw [hdigits]
  simp only [List.cons_append, List.nil_append]
  rw [readText]
  simp only [hquad, halone, hchar]

/-- Every character is read back. -/
theorem readText_escapeChar (start : Nat) (acc : List Char) (c e : Char) (rest : List Char) :
    readText start acc (escapeChar c ++ e :: rest) = readText start (c :: acc) (e :: rest) := by
  -- one case for each escape that is written as a letter, one for codes, one for plain characters
  unfold escapeChar
  split
  · next h => subst h; simp [readText, escaped?]
  split
  · next h => subst h; simp [readText, escaped?]
  split
  · next h => subst h; simp [readText, escaped?]
  split
  · next h => subst h; simp [readText, escaped?]
  split
  · next h => subst h; simp [readText, escaped?]
  split
  · next h =>
    have hc : c = Char.ofNat 8 := by rw [← h, Char.ofNat_toNat]
    subst hc
    simp [readText, escaped?]
  split
  · next h =>
    have hc : c = Char.ofNat 12 := by rw [← h, Char.ofNat_toNat]
    subst hc
    simp [readText, escaped?]
  split
  · next h => exact readText_code start acc h e rest
  · next hquote hslash _ _ _ _ _ hcontrol =>
    rw [List.cons_append, List.nil_append, readText.eq_def]
    split
    · next h => cases h
    · next h => exact absurd (List.cons.inj h).1 hquote
    · next h => exact absurd (List.cons.inj h).1 hslash
    · next h => exact absurd (List.cons.inj h).1 hslash
    · next h => exact absurd (List.cons.inj h).1 hslash
    · next h => exact absurd (List.cons.inj h).1 hslash
    · next h =>
      obtain ⟨rfl, rfl⟩ := List.cons.inj h
      rw [if_neg hcontrol]

/-- The characters of a text are read back, up to the closing quote. -/
theorem readText_flatMap_escapeChar (start : Nat) (acc cs rest : List Char) :
    readText start acc (cs.flatMap escapeChar ++ '"' :: rest) =
      .ok (String.ofList (acc.reverse ++ cs), rest) := by
  induction cs generalizing acc with
  | nil => simp [readText]
  | cons c cs ih =>
    obtain ⟨e, more, hmore⟩ : ∃ e more, cs.flatMap escapeChar ++ '"' :: rest = e :: more :=
      List.exists_cons_of_ne_nil (by simp)
    have hstep := readText_escapeChar start acc c e more
    rw [← hmore, ih] at hstep
    rw [List.flatMap_cons, List.append_assoc, hstep]
    simp

/-- A text that is written is read back. -/
theorem readText_textChars (s : String) (start : Nat) (rest : List Char) :
    readText start [] (s.toList.flatMap escapeChar ++ '"' :: rest) = .ok (s, rest) := by
  rw [readText_flatMap_escapeChar]
  simp

/-! ### Documents that are read back -/

/-- The floating-point number that is read from the text of another one. -/
def rereadFloat (x : Float) : Float :=
  match readValue 1 (floatChars x ++ ['\n']) with
  | .ok (.float y, _) => y
  | _ => x

/-- A number that is written is read back, up to how it is stored. -/
theorem readValue_floatChars (x : Float) (fuel : Nat) {rest : List Char} (hrest : Ends rest) :
    readValue (fuel + 1) (floatChars x ++ rest) = .ok (.float (rereadFloat x), rest) := by
  obtain ⟨y, hy⟩ := exists_readValue_floatChars x
  have hreread : rereadFloat x = y := by
    rw [rereadFloat, hy 0 ['\n'] ⟨'\n', [], rfl, Or.inr rfl⟩]
  rw [hy fuel rest hrest, hreread]

mutual

/-- There are no whole numbers, and no object has two members of one name. -/
def Storable : Json → Prop
  | .int _ => False
  | .list items => StorableItems items
  | .object members => (members.map Prod.fst).Nodup ∧ StorableMembers members
  | _ => True

/-- All items can be read back. -/
def StorableItems : List Json → Prop
  | [] => True
  | item :: rest => item.Storable ∧ StorableItems rest

/-- The values of all members can be read back. -/
def StorableMembers : List (String × Json) → Prop
  | [] => True
  | (_, value) :: rest => value.Storable ∧ StorableMembers rest

end

mutual

/-- The document with every floating-point number as it is read from its text. -/
def reread : Json → Json
  | .float x => .float (rereadFloat x)
  | .list items => .list (rereadItems items)
  | .object members => .object (rereadMembers members)
  | j => j

/-- The items as they are read from their text. -/
def rereadItems : List Json → List Json
  | [] => []
  | item :: rest => item.reread :: rereadItems rest

/-- The members as they are read from their text. -/
def rereadMembers : List (String × Json) → List (String × Json)
  | [] => []
  | (name, value) :: rest => (name, value.reread) :: rereadMembers rest

end

theorem storableItems_map {α : Type} {f : α → Json} (hf : ∀ a, (f a).Storable) (l : List α) :
    StorableItems (l.map f) := by
  induction l with
  | nil => trivial
  | cons a l ih => exact ⟨hf a, ih⟩

theorem rereadItems_map {α : Type} (f : α → Json) (l : List α) :
    rereadItems (l.map f) = l.map fun a => (f a).reread := by
  induction l with
  | nil => rfl
  | cons a l ih => rw [List.map_cons, rereadItems, ih, List.map_cons]

/-! ### Layout -/

/-- A line break and the blanks behind it are skipped. -/
theorem skipBlanks_lineBreak (level : Nat) (rest : List Char) :
    skipBlanks (lineBreak level ++ rest) = skipBlanks rest := by
  have hblanks : ∀ c ∈ lineBreak level, isBlank c = true := by
    intro c hc
    rcases List.mem_cons.1 hc with rfl | hspace
    · rfl
    · rw [List.eq_of_mem_replicate hspace]
      rfl
  exact List.dropWhile_append_of_pos hblanks

theorem skipBlanks_lineBreak_cons (level : Nat) {c : Char} (hc : isBlank c = false)
    (rest : List Char) :
    skipBlanks (lineBreak level ++ c :: rest) = c :: rest := by
  rw [skipBlanks_lineBreak, skipBlanks_cons rest hc]

theorem ends_lineBreak (level : Nat) (rest : List Char) :
    Ends (lineBreak level ++ rest) :=
  ⟨'\n', _, rfl, Or.inr rfl⟩

/-- Behind a value there is a comma, or the end of its list. -/
theorem ends_moreItems (level level' : Nat) (items : List Json) (rest : List Char) :
    Ends (moreItems level items ++ (lineBreak level' ++ rest)) := by
  cases items with
  | nil => exact ends_lineBreak level' rest
  | cons item items => exact ⟨',', _, rfl, Or.inl rfl⟩

theorem ends_moreMembers (level level' : Nat) (members : List (String × Json))
    (rest : List Char) :
    Ends (moreMembers level members ++ (lineBreak level' ++ rest)) := by
  cases members with
  | nil => exact ends_lineBreak level' rest
  | cons member members => exact ⟨',', _, rfl, Or.inl rfl⟩

/-- A document can start with the character: it is no blank, does not end an array, and is not the
mark that the reader refuses. -/
def Opens (c : Char) : Prop :=
  isBlank c = false ∧ c ≠ ']' ∧ c ≠ Char.ofNat 0xFEFF

instance (c : Char) : Decidable (Opens c) :=
  inferInstanceAs (Decidable (_ ∧ _ ∧ _))

theorem opens_of_isDigit {c : Char} (hc : c.isDigit = true) :
    Opens c := by
  have hother : ∀ d : Char, d.isDigit = false → c ≠ d := by
    rintro d hd rfl
    rw [hd] at hc
    cases hc
  refine ⟨?_, hother ']' rfl, hother _ rfl⟩
  simp only [isBlank, Bool.or_eq_false_iff, decide_eq_false_iff_not]
  exact ⟨⟨⟨hother ' ' rfl, hother '\t' rfl⟩, hother '\n' rfl⟩, hother '\r' rfl⟩

/-- What is written of a number begins with a character that opens a value. -/
theorem exists_floatChars_eq (x : Float) :
    ∃ c cs, floatChars x = c :: cs ∧ Opens c := by
  unfold floatChars
  cases Decimal.Double.ofFloat x with
  | notANumber => exact ⟨'N', _, rfl, by decide⟩
  | infinite negative =>
    cases negative with
    | true => exact ⟨'-', _, rfl, by decide⟩
    | false => exact ⟨'I', _, rfl, by decide⟩
  | finite negative m e =>
    obtain ⟨f, hf, hchars⟩ := Decimal.exists_form_write negative m e
    obtain ⟨c, more, hc, hhead | hhead⟩ := exists_chars_eq hf
    · exact ⟨c, more, by rw [← hhead, hchars], opens_of_isDigit hc⟩
    · exact ⟨'-', _, by rw [← hhead, hchars], by decide⟩

/-- What is written of a value begins with a character that opens one. -/
theorem exists_chars_cons {j : Json} (hj : j.Storable) (level : Nat) :
    ∃ c cs, j.chars level = c :: cs ∧ Opens c := by
  cases j with
  | null => exact ⟨'n', _, rfl, by decide⟩
  | bool b =>
    cases b with
    | true => exact ⟨'t', _, rfl, by decide⟩
    | false => exact ⟨'f', _, rfl, by decide⟩
  | int n => exact hj.elim
  | float x => exact exists_floatChars_eq x
  | text s => exact ⟨'"', _, rfl, by decide⟩
  | list items =>
    cases items with
    | nil => exact ⟨'[', _, rfl, by decide⟩
    | cons item items => exact ⟨'[', _, rfl, by decide⟩
  | object members =>
    cases members with
    | nil => exact ⟨'\x7b', _, rfl, by decide⟩
    | cons member members => exact ⟨'\x7b', _, rfl, by decide⟩

/-! ### Reading what was written -/

/-- A new name comes last. -/
theorem put_of_not_mem {name : String} {value : Json} {acc : List (String × Json)}
    (h : name ∉ acc.map Prod.fst) :
    OrderedMap.put name value acc = acc ++ [(name, value)] := by
  induction acc with
  | nil => rfl
  | cons p acc ih =>
    rw [List.map_cons, List.mem_cons, not_or] at h
    rw [OrderedMap.put, if_neg (Ne.symm h.1), ih h.2]
    rfl

/-- The text of a value is read where a value is expected. -/
theorem readValue_textChars (s : String) (fuel : Nat) (rest : List Char) :
    readValue (fuel + 1) (textChars s ++ rest) = .ok (.text s, rest) := by
  have hread := readText_textChars s (textChars s ++ rest).length rest
  simp only [textChars, List.cons_append, List.append_assoc, List.nil_append] at hread ⊢
  rw [readValue]
  simp only [hread]

/-- A member is read from its name on, and the object ends behind it or goes on with the next one.
-/
theorem readMembers_textChars {fuel : Nat} {cs rest : List Char} {value : Json}
    (hvalue : readValue fuel (skipBlanks cs) = .ok (value, rest)) (name : String)
    (acc : List (String × Json)) (tail : List Char) :
    (skipBlanks rest = '\x7d' :: tail →
        readMembers (fuel + 1) acc (textChars name ++ ':' :: ' ' :: cs) =
          .ok (.object (OrderedMap.put name value acc), tail))
      ∧ (skipBlanks rest = ',' :: tail →
        readMembers (fuel + 1) acc (textChars name ++ ':' :: ' ' :: cs) =
          readMembers fuel (OrderedMap.put name value acc) (skipBlanks tail)) := by
  have hread := readText_textChars name (textChars name ++ ':' :: ' ' :: cs).length
    (':' :: ' ' :: cs)
  have hspace : skipBlanks (' ' :: cs) = skipBlanks cs := rfl
  simp only [textChars, List.cons_append, List.append_assoc, List.nil_append] at hread ⊢
  constructor
  · intro hend
    rw [readMembers]
    simp only [hread, skipBlanks_cons (c := ':') _ rfl, hspace, hvalue, hend]
  · intro hmore
    rw [readMembers]
    simp only [hread, skipBlanks_cons (c := ':') _ rfl, hspace, hvalue, hmore]

/-- No blanks stand in front of what is written of a value. -/
theorem skipBlanks_chars {j : Json} (hj : j.Storable) (level : Nat) (rest : List Char) :
    skipBlanks (j.chars level ++ rest) = j.chars level ++ rest := by
  obtain ⟨c, cs, hchars, hblank, _⟩ := exists_chars_cons hj level
  rw [hchars, List.cons_append, skipBlanks_cons _ hblank]

theorem skipBlanks_lineBreak_chars {j : Json} (hj : j.Storable) (level : Nat)
    (rest : List Char) :
    skipBlanks (lineBreak level ++ (j.chars level ++ rest)) = j.chars level ++ rest := by
  rw [skipBlanks_lineBreak, skipBlanks_chars hj]

theorem not_mem_of_nodup_names {name : String} {value : Json} {acc members : List (String × Json)}
    (h : ((acc ++ (name, value) :: members).map Prod.fst).Nodup) :
    name ∉ acc.map Prod.fst := by
  rw [List.map_append, List.map_cons, List.perm_middle.nodup_iff, List.nodup_cons] at h
  exact fun hmem => h.1 (List.mem_append_left _ hmem)

mutual

/-- A document is read up to its end, and no further. -/
theorem readValue_chars : ∀ (j : Json), j.Storable → ∀ (level fuel : Nat) (rest : List Char),
    Ends rest → (j.chars level).length ≤ fuel →
    readValue fuel (j.chars level ++ rest) = .ok (j.reread, rest)
  | .null, _, level, fuel + 1, rest, _, _ => rfl
  | .bool true, _, level, fuel + 1, rest, _, _ => rfl
  | .bool false, _, level, fuel + 1, rest, _, _ => rfl
  | .int _, hj, _, _, _, _, _ => hj.elim
  | .float x, _, level, fuel + 1, rest, hrest, _ => readValue_floatChars x fuel hrest
  | .text s, _, level, fuel + 1, rest, _, _ => readValue_textChars s fuel rest
  | .list [], _, level, fuel + 1, rest, _, _ => rfl
  | .list (item :: items), hj, level, fuel + 1, rest, _, hfuel => by
      obtain ⟨hitem, hitems⟩ := hj
      have hlen : (item.chars (level + 1) ++ moreItems (level + 1) items).length < fuel := by
        simp only [chars, lineBreak, List.length_cons, List.length_append] at hfuel ⊢
        omega
      have hread := readItems_chars item items hitem hitems (level + 1) level fuel [] rest hlen
      have hskip := skipBlanks_lineBreak_chars hitem (level + 1)
        (moreItems (level + 1) items ++ (lineBreak level ++ ']' :: rest))
      simp only [chars, List.cons_append, List.append_assoc, List.nil_append]
      rw [readValue, hskip]
      -- an item never starts with the bracket that closes the array
      split
      · next h =>
        obtain ⟨c, cs, hchars, _, hclose, _⟩ := exists_chars_cons hitem (level + 1)
        rw [hchars] at h
        exact absurd (List.cons.inj h).1 hclose
      · exact hread
  | .object [], _, level, fuel + 1, rest, _, _ => rfl
  | .object ((name, value) :: members), hj, level, fuel + 1, rest, _, hfuel => by
      obtain ⟨hnames, hvalue, hmembers⟩ := hj
      have hlen : (textChars name ++ ':' :: ' ' :: (value.chars (level + 1) ++
          moreMembers (level + 1) members)).length < fuel := by
        simp only [chars, lineBreak, List.length_cons, List.length_append] at hfuel ⊢
        omega
      have hread := readMembers_chars name value members hvalue hmembers (level + 1) level fuel []
        rest hnames hlen
      have hskip := skipBlanks_lineBreak_cons (level + 1) (c := '"') rfl
        (name.toList.flatMap escapeChar ++ '"' :: ':' :: ' ' :: (value.chars (level + 1) ++
          (moreMembers (level + 1) members ++ (lineBreak level ++ '\x7d' :: rest))))
      simp only [chars, textChars, List.cons_append, List.append_assoc, List.nil_append] at hread ⊢
      rw [readValue, hskip]
      exact hread
  | j, hj, level, 0, rest, _, hfuel => by
      -- no text is empty, so there is fuel
      obtain ⟨c, cs, hchars, _⟩ := exists_chars_cons hj level
      rw [hchars] at hfuel
      cases hfuel
  termination_by structural _ _ _ fuel => fuel

/-- The items of an array are read up to its end. -/
theorem readItems_chars : ∀ (item : Json) (items : List Json), item.Storable →
    StorableItems items → ∀ (level level' fuel : Nat) (acc : List Json) (rest : List Char),
    (item.chars level ++ moreItems level items).length < fuel →
    readItems fuel acc
        (item.chars level ++ (moreItems level items ++ (lineBreak level' ++ ']' :: rest))) =
      .ok (.list (acc.reverse ++ item.reread :: rereadItems items), rest)
  | item, [], hitem, _, level, level', fuel + 1, acc, rest, hfuel => by
      have hlen : (item.chars level).length ≤ fuel := by
        simp only [List.length_append] at hfuel
        omega
      have hread := readValue_chars item hitem level fuel (lineBreak level' ++ ']' :: rest)
        (ends_lineBreak level' _) hlen
      rw [moreItems, List.nil_append, readItems, hread]
      simp only [skipBlanks_lineBreak_cons level' (c := ']') rfl rest]
      simp [rereadItems]
  | item, item' :: items, hitem, ⟨hitem', hitems⟩, level, level', fuel + 1, acc, rest, hfuel => by
      have hlen : (item.chars level).length ≤ fuel
          ∧ (item'.chars level ++ moreItems level items).length < fuel := by
        simp only [moreItems, lineBreak, List.length_cons, List.length_append] at hfuel ⊢
        omega
      have hread := readValue_chars item hitem level fuel
        (moreItems level (item' :: items) ++ (lineBreak level' ++ ']' :: rest))
        (ends_moreItems level level' (item' :: items) _) hlen.1
      have hnext := readItems_chars item' items hitem' hitems level level' fuel
        (item.reread :: acc) rest hlen.2
      have hskip := skipBlanks_lineBreak_chars hitem' level
        (moreItems level items ++ (lineBreak level' ++ ']' :: rest))
      rw [readItems, hread]
      simp only [moreItems, List.cons_append, List.append_assoc,
        skipBlanks_cons (c := ',') _ rfl, hskip, hnext]
      simp [rereadItems]
  termination_by structural _ _ _ _ _ _ fuel => fuel

/-- The members of an object are read up to its end. -/
theorem readMembers_chars : ∀ (name : String) (value : Json) (members : List (String × Json)),
    value.Storable → StorableMembers members →
    ∀ (level level' fuel : Nat) (acc : List (String × Json)) (rest : List Char),
    ((acc ++ (name, value) :: members).map Prod.fst).Nodup →
    (textChars name ++ ':' :: ' ' :: (value.chars level ++ moreMembers level members)).length
      < fuel →
    readMembers fuel acc
        (textChars name ++ ':' :: ' ' :: (value.chars level ++
          (moreMembers level members ++ (lineBreak level' ++ '\x7d' :: rest)))) =
      .ok (.object (acc ++ (name, value.reread) :: rereadMembers members), rest)
  | name, value, [], hvalue, _, level, level', fuel + 1, acc, rest, hnames, hfuel => by
      have hlen : (value.chars level).length ≤ fuel := by
        simp only [List.length_append, List.length_cons] at hfuel
        omega
      have hread := readValue_chars value hvalue level fuel (lineBreak level' ++ '\x7d' :: rest)
        (ends_lineBreak level' _) hlen
      have hvalueStart := skipBlanks_chars hvalue level (lineBreak level' ++ '\x7d' :: rest)
      have hnew : name ∉ acc.map Prod.fst := not_mem_of_nodup_names hnames
      rw [← hvalueStart] at hread
      rw [moreMembers, List.nil_append, (readMembers_textChars hread name acc rest).1
        (skipBlanks_lineBreak_cons level' (c := '\x7d') rfl rest), put_of_not_mem hnew,
        rereadMembers]
  | name, value, (name', value') :: members, hvalue, ⟨hvalue', hmembers⟩, level, level', fuel + 1,
      acc, rest, hnames, hfuel => by
      have hlen : (value.chars level).length ≤ fuel
          ∧ (textChars name' ++ ':' :: ' ' :: (value'.chars level ++
              moreMembers level members)).length < fuel := by
        simp only [moreMembers, lineBreak, List.length_cons, List.length_append] at hfuel ⊢
        omega
      have hread := readValue_chars value hvalue level fuel
        (moreMembers level ((name', value') :: members) ++ (lineBreak level' ++ '\x7d' :: rest))
        (ends_moreMembers level level' ((name', value') :: members) _) hlen.1
      have hvalueStart := skipBlanks_chars hvalue level
        (moreMembers level ((name', value') :: members) ++ (lineBreak level' ++ '\x7d' :: rest))
      have hnew : name ∉ acc.map Prod.fst := not_mem_of_nodup_names hnames
      have hnames' : ((acc ++ [(name, value.reread)] ++ (name', value') :: members).map
          Prod.fst).Nodup := by
        simpa using hnames
      have hnext := readMembers_chars name' value' members hvalue' hmembers level level' fuel
        (acc ++ [(name, value.reread)]) rest hnames' hlen.2
      have hskip := skipBlanks_lineBreak_cons level (c := '"') rfl
        (name'.toList.flatMap escapeChar ++ '"' :: ':' :: ' ' :: (value'.chars level ++
          (moreMembers level members ++ (lineBreak level' ++ '\x7d' :: rest))))
      rw [← hvalueStart] at hread
      have hcomma : skipBlanks (moreMembers level ((name', value') :: members) ++
          (lineBreak level' ++ '\x7d' :: rest)) =
          ',' :: (lineBreak level ++ (textChars name' ++ ':' :: ' ' :: (value'.chars level ++
            (moreMembers level members ++ (lineBreak level' ++ '\x7d' :: rest))))) := by
        simp only [moreMembers, List.cons_append, List.append_assoc,
          skipBlanks_cons (c := ',') _ rfl]
      rw [(readMembers_textChars hread name acc _).2 hcomma, put_of_not_mem hnew]
      simp only [textChars, List.cons_append, List.append_assoc, List.nil_append] at hnext
      simp only [textChars, List.cons_append, List.append_assoc, List.nil_append, hskip, hnext,
        rereadMembers]
  termination_by structural _ _ _ _ _ _ _ fuel => fuel

end

/-! ### Whole documents -/

/-- A document is read from its text, with its floating-point numbers as they are read. -/
theorem parse_render {j : Json} (hj : j.Storable) :
    parse j.render = .ok j.reread := by
  obtain ⟨c, cs, hchars, _, _, hmark⟩ := exists_chars_cons hj 0
  have hhead : (j.chars 0 ++ ['\n']).head? ≠ some (Char.ofNat 0xFEFF) := by
    rw [hchars]
    exact fun h => hmark (Option.some.inj h)
  have hlen : (j.chars 0).length ≤ 2 * (j.chars 0 ++ ['\n']).length + 3 := by
    rw [List.length_append]
    omega
  have hread := readValue_chars j hj 0 _ ['\n'] ⟨'\n', [], rfl, Or.inr rfl⟩ hlen
  have hall : readAll (j.chars 0 ++ ['\n']) = .ok j.reread := by
    rw [readAll, if_neg hhead, skipBlanks_chars hj 0, hread]
    rfl
  rw [parse, render, String.toList_ofList, hall]

end Json

end SurfaceCoverage
