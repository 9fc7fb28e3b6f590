import SurfaceCoverage.Yaml.Node
import SurfaceCoverage.Yaml.Number
import SurfaceCoverage.Yaml.Value

/-!
# Documents

A document is read as a value.  Its collections are gone through level by level: what is wrong with
a node shows before what is wrong inside another one on its level.
-/

namespace SurfaceCoverage

namespace Yaml

/-- Why a text cannot be read: it is no YAML document, a scalar has no value of its kind, or the
reader breaks down over it. -/
inductive Error where
  | malformed (fault : Fault)
  | value (fault : ValueFault)
  | broken (message : String)
  deriving Repr, DecidableEq

/-- What is wrong with a text. -/
def Error.message : Error → String
  | .malformed (.badCodePoint n) =>
      if n < Fault.codeLimit then "chr() arg not in range(0x110000)"
      else "Python int too large to convert to C int"
  | .malformed fault => fault.message
  | .value fault => fault.message
  | .broken message => message

/-- Whether the text as a whole is refused, rather than a value in it that does not exist. -/
def Error.isFormat : Error → Bool
  | .malformed (.badCodePoint _) | .malformed .loneHalf => false
  | .malformed _ => true
  | .value _ | .broken _ => false

/-- The first faults of a part of a document, by depth. -/
abbrev Faults := List (Option Error)

/-- The faults of two parts that stand side by side. -/
def alongside : Faults → Faults → Faults
  | [], right => right
  | left, [] => left
  | a :: left, b :: right => a.or b :: alongside left right

/-- A part of a document: its value, and its faults. -/
structure Part where
  value : Value
  faults : Faults

/-- A part with a value. -/
def Part.good (v : Value) : Part :=
  ⟨v, []⟩

/-- A part with a fault that shows at once. -/
def Part.bad (f : Fault) : Part :=
  ⟨.null, [some (.malformed f)]⟩

/-- A part with a fault that shows one level deeper. -/
def Part.badInside (f : Fault) : Part :=
  ⟨.null, [none, some (.malformed f)]⟩

/-- The part for a scalar that was read. -/
def Part.ofScalar {α : Type} (wrap : α → Value) : Except ValueFault α → Part
  | .ok a => .good (wrap a)
  | .error e => ⟨.null, [some (.value e)]⟩

/-- A part as a key: what can be no key is a fault. -/
def Part.asKey (p : Part) : Part :=
  if p.value.isKey then p
  else ⟨p.value, alongside p.faults [some (.malformed .badKey)]⟩

/-- The faults of parts that stand side by side, seen from the collection around them. -/
def inside (parts : List Part) : Faults :=
  none :: parts.foldl (fun faults p => alongside faults p.faults) []

/-- What is made of a node. -/
structure Built where
  part : Part
  isMapping : Bool
  written : List (Part × Part)
  entries : Except Fault (List (Part × Part))
  text : Except Fault String

/-- The value of a digit to the base 64. -/
def base64Value? (c : Char) : Option Nat :=
  if 'A' ≤ c ∧ c ≤ 'Z' then some (c.toNat - 65)
  else if 'a' ≤ c ∧ c ≤ 'z' then some (c.toNat - 71)
  else if c.isDigit then some (c.toNat + 4)
  else if c = '+' then some 62
  else if c = '/' then some 63
  else none

/-- Reads binary data to the base 64; other characters are skipped.  `place` counts the digits of
the group, `left` holds the bits of the last digit that are not used up, `pads` counts signs of
padding. -/
def base64From (place left pads : Nat) : List Char → Option (List UInt8)
  | [] => if place = 0 then some [] else none
  | c :: rest =>
      if c = '=' then
        if 2 ≤ place ∧ 4 ≤ place + pads + 1 then some []
        else base64From place left (if 2 ≤ place then pads + 1 else pads) rest
      else
        match base64Value? c with
        | none => base64From place left pads rest
        | some v =>
            match place with
            | 0 => base64From 1 v 0 rest
            | 1 => (base64From 2 (v % 16) 0 rest).map ((left * 4 + v / 16).toUInt8 :: ·)
            | 2 => (base64From 3 (v % 4) 0 rest).map ((left * 16 + v / 4).toUInt8 :: ·)
            | _ => (base64From 0 0 0 rest).map ((left * 64 + v).toUInt8 :: ·)

/-- The part for binary data. -/
def binaryPart (text : String) : Part :=
  if text.toList.all fun c => c.toNat < 128 then
    match base64From 0 0 0 text.toList with
    | some bytes => .good (.bytes bytes)
    | none => .bad .badBinary
  else .bad .badBinary

/-- The part for a scalar with a tag of scalars. -/
def scalarPart (tag : Tag) (text : String) : Part :=
  match tag with
  | .null => .good .null
  | .bool => .ofScalar Value.bool (truthOf text)
  | .int => .ofScalar Value.int (wholeOf text)
  | .float => .ofScalar Value.float (decimalOf text)
  | .binary => binaryPart text
  | .timestamp =>
      .ofScalar
        (fun r =>
          match r.2 with
          | none => Value.date r.1
          | some (time, offset) => Value.dateTime ⟨r.1, time, offset⟩)
        (timeOf text)
  | _ => .good (.text text)

/-- The part for a node, given its text, its parts as a sequence, and its parts as a mapping. -/
def taggedPart (tag : Tag) (text : Except Fault String) (sequence pairs mapping set : Part) :
    Part :=
  match tag with
  | .merge => .bad (.unknownTag "merge")
  | .value => .bad (.unknownTag "value")
  | .other name => .bad (.unknownTag name)
  | .seq => sequence
  | .orderedMap => pairs
  | .pairs => pairs
  | .map => mapping
  | .set => set
  | tag =>
      match text with
      | .ok t => scalarPart tag t
      | .error e => .bad e

/-- The part for a mapping with the given entries. -/
def mappingPart (entries : Except Fault (List (Part × Part))) : Part :=
  match entries with
  | .error e => .badInside e
  | .ok entries =>
      ⟨.map (entries.foldl (fun acc e => putEntry e.1.value e.2.value acc) []),
        inside (entries.flatMap fun e => [e.1.asKey, e.2])⟩

/-- The part for a set with the given entries. -/
def setPart (entries : Except Fault (List (Part × Part))) : Part :=
  match entries with
  | .error e => .badInside e
  | .ok entries =>
      ⟨.set ((entries.foldl (fun acc e => putEntry e.1.value .null acc) []).map Prod.fst),
        inside (entries.flatMap fun e => [e.1.asKey, e.2])⟩

/-- The part for a sequence of mappings with one entry each. -/
def pairsPart (items : List Built) : Part :=
  let parts (b : Built) : List Part :=
    match b.isMapping, b.written with
    | true, [(k, v)] => [k, v]
    | _, _ => [.bad .wrongKind]
  let pair (b : Built) : Value :=
    match b.written with
    | (k, v) :: _ => .pair k.value v.value
    | [] => .null
  ⟨.list (items.map pair), inside (items.flatMap parts)⟩

/-- What a node contributes where it is merged: a mapping its entries, a sequence of mappings
theirs, the last mapping first. -/
def mergedFrom (items : List Built) : Except Fault (List (Part × Part)) :=
  items.foldl
    (fun acc b =>
      match acc with
      | .error e => .error e
      | .ok entries =>
          if b.isMapping then b.entries.map (· ++ entries) else .error .badMerge)
    (.ok [])

/-- What a key says about its entry. -/
inductive KeyRole where
  | plain
  | merge
  | value (text : String)

/-- The role of a key. -/
def Node.keyRole : Node → KeyRole
  | .scalar .merge _ | .sequence .merge _ | .mapping .merge _ => .merge
  | .scalar .value text => .value text
  | .loop _ n => n.keyRole
  | _ => .plain

/-- What is made of an entry of a mapping. -/
structure BuiltEntry where
  role : KeyRole
  key : Built
  value : Built

/-- The entry as it is written. -/
def BuiltEntry.written (e : BuiltEntry) : Part × Part :=
  (e.key.part, e.value.part)

/-- The entry as one of the mapping, unless it is merged. -/
def BuiltEntry.own? (e : BuiltEntry) : Option (Part × Part) :=
  match e.role with
  | .plain => some e.written
  | .merge => none
  | .value text => some (.good (.text text), e.value.part)

/-- What the entries of a mapping merge into it. -/
def mergedInto : List BuiltEntry → Except Fault (List (Part × Part))
  | [] => .ok []
  | e :: rest =>
      match e.role with
      | .merge =>
          match e.value.entries with
          | .error f => .error f
          | .ok entries => (mergedInto rest).map (entries ++ ·)
      | _ => mergedInto rest

/-- The text of the value that stands for a mapping. -/
def textOfEntries : List BuiltEntry → Except Fault String
  | [] => .error .wrongKind
  | e :: rest =>
      match e.role with
      | .value _ => e.value.text
      | _ => textOfEntries rest

mutual

/-- What is made of a node. -/
def Node.build : Node → Built
  | .scalar tag text =>
      { part :=
          taggedPart tag (.ok text) (.badInside .wrongKind) (.badInside .wrongKind)
            (.badInside .wrongKind) (.badInside .wrongKind)
        isMapping := false
        written := []
        entries := .error .badMerge
        text := .ok text }
  | .sequence tag items =>
      let built := buildItems items
      { part :=
          taggedPart tag (.error .wrongKind)
            ⟨.list (built.map fun b => b.part.value), inside (built.map Built.part)⟩
            (pairsPart built) (.badInside .wrongKind) (.badInside .wrongKind)
        isMapping := false
        written := []
        entries := mergedFrom built
        text := .error .wrongKind }
  | .mapping tag entries =>
      let built := buildEntries entries
      let all := (mergedInto built).map (· ++ built.filterMap BuiltEntry.own?)
      let text := textOfEntries built
      { part :=
          taggedPart tag text (.badInside .wrongKind) (.badInside .wrongKind)
            (mappingPart all) (setPart all)
        isMapping := true
        written := built.map BuiltEntry.written
        entries := all
        text := text }
  | .within place isMapping =>
      { part := .good (.loop [] place)
        isMapping := isMapping
        written := []
        entries := if isMapping then .ok [] else .error .badMerge
        text := .error .wrongKind }
  | .loop place n =>
      let built := n.build
      { built with part := ⟨.loop [] place, built.part.faults⟩ }

/-- What is made of several nodes. -/
def buildItems : List Node → List Built
  | [] => []
  | n :: rest => n.build :: buildItems rest

/-- What is made of the entries of a mapping. -/
def buildEntries : List (Node × Node) → List BuiltEntry
  | [] => []
  | (k, v) :: rest => ⟨k.keyRole, k.build, v.build⟩ :: buildEntries rest

end

mutual

/-- The collections of a node that lie on loops, with their places. -/
def Node.loops : Node → List (Nat × Value)
  | .scalar _ _ | .within _ _ => []
  | .sequence _ items => loopsAmong items
  | .mapping _ entries => loopsAmongEntries entries
  | .loop place n => (place, n.build.part.value) :: n.loops

/-- The collections of nodes that lie on loops. -/
def loopsAmong : List Node → List (Nat × Value)
  | [] => []
  | n :: rest => n.loops ++ loopsAmong rest

/-- The collections of entries that lie on loops. -/
def loopsAmongEntries : List (Node × Node) → List (Nat × Value)
  | [] => []
  | (k, v) :: rest => k.loops ++ v.loops ++ loopsAmongEntries rest

end

/-- Reads a document as a value; a text without a document holds none. -/
def read (text : String) : Except Error Value :=
  let (tokens, fault) := Token.ofText text.toList
  match Node.ofTokens tokens.toList fault with
  | .error e => .error (.malformed e)
  | .ok none => .ok .null
  | .ok (some n) =>
      let part := n.build.part
      match part.faults.findSome? id with
      | some e => .error e
      | none => .ok (part.value.attach n.loops)

end Yaml

end SurfaceCoverage
