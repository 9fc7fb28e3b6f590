import SurfaceCoverage.Yaml.Tag
import SurfaceCoverage.Yaml.Token

/-!
# Nodes

The tokens of a document are gathered into a tree of tagged nodes.  An alias stands for a copy of
the anchored node; inside the anchored collection itself it stands for the collection as a whole,
which is a loop then.
-/

namespace SurfaceCoverage

namespace Yaml

/-- A node of a document.  A collection has a place if an alias inside leads back to it or to a
collection around it; such an alias stands for the collection at a place. -/
inductive Node where
  | scalar (tag : Tag) (text : String)
  | sequence (tag : Tag) (items : List Node)
  | mapping (tag : Tag) (entries : List (Node × Node))
  | within (place : Nat) (isMapping : Bool)
  | loop (place : Nat) (n : Node)

namespace Node

/-- The node that is not written. -/
def absent : Node :=
  .scalar .null ""

mutual

/-- Whether an alias inside a node leads back to a collection around it. -/
def leadsBack : Node → Bool
  | .scalar _ _ => false
  | .sequence _ items => anyLeadsBack items
  | .mapping _ entries => anyEntryLeadsBack entries
  | .within _ _ | .loop _ _ => true

/-- Whether one of several nodes leads back. -/
def anyLeadsBack : List Node → Bool
  | [] => false
  | n :: rest => n.leadsBack || anyLeadsBack rest

/-- Whether the key or the value of an entry leads back. -/
def anyEntryLeadsBack : List (Node × Node) → Bool
  | [] => false
  | (k, v) :: rest => k.leadsBack || v.leadsBack || anyEntryLeadsBack rest

end

/-- A collection at its place. -/
def placed (place : Nat) (n : Node) : Node :=
  if n.leadsBack then .loop place n else n

/-- What the composition of nodes works on. -/
structure Source where
  tokens : List Token
  fault : Option Fault
  handles : List (String × String)
  anchors : List (String × Node)

/-- A reader of nodes. -/
abbrev Composes (α : Type) := Except Fault (α × Source)

/-- The handles that need no directive. -/
def standardHandles : List (String × String) :=
  [("!", "!"), ("!!", Tag.standard)]

/-- What is wrong when the next token is none that may stand here. -/
def Source.stop (s : Source) : Fault :=
  if s.tokens.isEmpty then s.fault.getD .unexpectedToken else .unexpectedToken

/-- The source with other tokens. -/
def Source.goOn (s : Source) (tokens : List Token) : Source :=
  { s with tokens := tokens }

/-- Anchors a node, if it has an anchor. -/
def Source.define (s : Source) (name : Option String) (n : Node) : Source :=
  match name with
  | some name => { s with anchors := (name, n) :: s.anchors }
  | none => s

/-- The anchored node. -/
def Source.anchored? (s : Source) (name : String) : Option Node :=
  (s.anchors.find? fun a => a.1 = name).map Prod.snd

/-- What is written in front of the content of a node. -/
structure Properties where
  anchor : Option String
  tag : Option String

/-- The full name of a tag. -/
def fullTag (s : Source) (handle : Option String) (suffix : String) : Except Fault String :=
  match handle with
  | none => .ok suffix
  | some h =>
      match s.handles.find? fun p => p.1 = h with
      | some p => .ok (p.2 ++ suffix)
      | none => .error (.unknownHandle h)

/-- Reads the anchor and the tag of a node, in any order. -/
def properties (s : Source) : Composes Properties :=
  match s.tokens with
  | .anchor name :: .tag handle suffix :: rest =>
      (fullTag s handle suffix).map fun t => (⟨some name, some t⟩, s.goOn rest)
  | .anchor name :: rest => .ok (⟨some name, none⟩, s.goOn rest)
  | .tag handle suffix :: .anchor name :: rest =>
      (fullTag s handle suffix).map fun t => (⟨some name, some t⟩, s.goOn rest)
  | .tag handle suffix :: rest =>
      (fullTag s handle suffix).map fun t => (⟨none, some t⟩, s.goOn rest)
  | _ => .ok (⟨none, none⟩, s)

/-- The tag of a node that has one of its own. -/
def Properties.ownTag (p : Properties) : Option Tag :=
  (p.tag.filter (· ≠ "!")).map Tag.ofName

/-- The tag of a scalar: its own, or the one that its form tells if it is plain or marked. -/
def Properties.scalarTag (p : Properties) (plain : Bool) (text : String) : Tag :=
  match p.ownTag with
  | some t => t
  | none => if plain || p.tag.isSome then Tag.ofForm text else .str

/-- Whether the first token is one of those that end an entry of a block mapping. -/
def endsBlockPart (ts : List Token) : Bool :=
  match ts with
  | .key :: _ | .value :: _ | .blockEnd :: _ => true
  | _ => false

/-- Whether the first token is one of those that end an entry of a flow sequence. -/
def endsSequencePart (ts : List Token) : Bool :=
  match ts with
  | .comma :: _ | .flowSequenceEnd :: _ => true
  | _ => false

/-- Whether the first token is one of those that end an entry of a flow mapping. -/
def endsMappingPart (ts : List Token) : Bool :=
  match ts with
  | .comma :: _ | .flowMappingEnd :: _ => true
  | _ => false

/-- Whether the first token introduces a value. -/
def startsValue (ts : List Token) : Bool :=
  match ts with
  | .value :: _ => true
  | _ => false

mutual

/-- Reads a node.  `block` tells whether block collections may stand here, `loose` whether the
entries of a sequence may stand here without indentation. -/
def compose (block loose : Bool) : Nat → Source → Composes Node
  | 0, _ => .error .unexpectedToken
  | fuel + 1, s =>
      match s.tokens with
      | .alias name :: rest =>
          match s.anchored? name with
          | some n => .ok (n, s.goOn rest)
          | none => .error (.unknownAlias name)
      | _ =>
          match properties s with
          | .error e => .error e
          | .ok (p, s) =>
              match p.anchor.filter fun a => (s.anchored? a).isSome with
              | some a => .error (.repeatedAnchor a)
              | none => content block loose p fuel s

/-- Reads the content of a node.  How many tokens are left at its start is the place of a
collection. -/
def content (block loose : Bool) (p : Properties) : Nat → Source → Composes Node
  | 0, _ => .error .unexpectedToken
  | fuel + 1, s =>
      let place := s.tokens.length
      let sequence (items : Composes (List Node)) : Composes Node :=
        items.map fun r =>
          let n := Node.placed place (.sequence (p.ownTag.getD .seq) r.1)
          (n, r.2.define p.anchor n)
      let mapping (entries : Composes (List (Node × Node))) : Composes Node :=
        entries.map fun r =>
          let n := Node.placed place (.mapping (p.ownTag.getD .map) r.1)
          (n, r.2.define p.anchor n)
      let inSequence := s.define p.anchor (.within place false)
      let inMapping := s.define p.anchor (.within place true)
      let unexpected : Composes Node :=
        if p.anchor.isSome || p.tag.isSome then
          let n := Node.scalar (p.scalarTag true "") ""
          .ok (n, s.define p.anchor n)
        else .error s.stop
      match s.tokens with
      | .scalar plain text :: rest =>
          let n := Node.scalar (p.scalarTag plain text) text
          .ok (n, (s.goOn rest).define p.anchor n)
      | .entry :: _ =>
          if loose then sequence (looseItems fuel [] inSequence) else unexpected
      | .flowSequenceStart :: rest =>
          sequence (flowItems true fuel [] (inSequence.goOn rest))
      | .flowMappingStart :: rest =>
          mapping (flowEntries true fuel [] (inMapping.goOn rest))
      | .sequenceStart :: rest =>
          if block then sequence (blockItems fuel [] (inSequence.goOn rest)) else unexpected
      | .mappingStart :: rest =>
          if block then mapping (blockEntries fuel [] (inMapping.goOn rest)) else unexpected
      | _ => unexpected

/-- Reads the entries of an indented block sequence. -/
def blockItems : Nat → List Node → Source → Composes (List Node)
  | 0, _, _ => .error .unexpectedToken
  | fuel + 1, acc, s =>
      match s.tokens with
      | .entry :: .entry :: rest => blockItems fuel (absent :: acc) (s.goOn (.entry :: rest))
      | .entry :: .blockEnd :: rest => blockItems fuel (absent :: acc) (s.goOn (.blockEnd :: rest))
      | .entry :: rest =>
          match compose true false fuel (s.goOn rest) with
          | .error e => .error e
          | .ok (n, s) => blockItems fuel (n :: acc) s
      | .blockEnd :: rest => .ok (acc.reverse, s.goOn rest)
      | _ => .error s.stop

/-- Reads the entries of a block sequence that is not indented. -/
def looseItems : Nat → List Node → Source → Composes (List Node)
  | 0, _, _ => .error .unexpectedToken
  | fuel + 1, acc, s =>
      match s.tokens with
      | .entry :: .entry :: rest => looseItems fuel (absent :: acc) (s.goOn (.entry :: rest))
      | .entry :: rest =>
          if endsBlockPart rest then looseItems fuel (absent :: acc) (s.goOn rest)
          else
            match compose true false fuel (s.goOn rest) with
            | .error e => .error e
            | .ok (n, s) => looseItems fuel (n :: acc) s
      | _ => .ok (acc.reverse, s)

/-- Reads a part of an entry of a block mapping. -/
def blockPart : Nat → Source → Composes Node
  | 0, _ => .error .unexpectedToken
  | fuel + 1, s =>
      if endsBlockPart s.tokens then .ok (absent, s) else compose true true fuel s

/-- Reads the entries of a block mapping. -/
def blockEntries : Nat → List (Node × Node) → Source → Composes (List (Node × Node))
  | 0, _, _ => .error .unexpectedToken
  | fuel + 1, acc, s =>
      match s.tokens with
      | .key :: rest =>
          match blockPart fuel (s.goOn rest) with
          | .error e => .error e
          | .ok (k, s) =>
              if startsValue s.tokens then
                match blockPart fuel (s.goOn s.tokens.tail) with
                | .error e => .error e
                | .ok (v, s) => blockEntries fuel ((k, v) :: acc) s
              else blockEntries fuel ((k, absent) :: acc) s
      | .blockEnd :: rest => .ok (acc.reverse, s.goOn rest)
      | _ => .error s.stop

/-- Reads the entries of a flow sequence.  A key makes an entry a mapping with one entry. -/
def flowItems (first : Bool) : Nat → List Node → Source → Composes (List Node)
  | 0, _, _ => .error .unexpectedToken
  | fuel + 1, acc, s =>
      let entry (s : Source) : Composes (List Node) :=
        match s.tokens with
        | .flowSequenceEnd :: rest => .ok (acc.reverse, s.goOn rest)
        | .key :: rest =>
            match flowKey endsSequencePart fuel (s.goOn rest) with
            | .error e => .error e
            | .ok (k, s) =>
                match flowValue endsSequencePart fuel s with
                | .error e => .error e
                | .ok (v, s) =>
                    let n := Node.placed (rest.length + 1) (.mapping .map [(k, v)])
                    flowItems false fuel (n :: acc) s
        | _ =>
            match compose false false fuel s with
            | .error e => .error e
            | .ok (n, s) => flowItems false fuel (n :: acc) s
      match s.tokens with
      | .flowSequenceEnd :: rest => .ok (acc.reverse, s.goOn rest)
      | .comma :: rest => if first then entry s else entry (s.goOn rest)
      | _ => if first then entry s else .error s.stop

/-- Reads the entries of a flow mapping. -/
def flowEntries (first : Bool) :
    Nat → List (Node × Node) → Source → Composes (List (Node × Node))
  | 0, _, _ => .error .unexpectedToken
  | fuel + 1, acc, s =>
      let entry (s : Source) : Composes (List (Node × Node)) :=
        match s.tokens with
        | .flowMappingEnd :: rest => .ok (acc.reverse, s.goOn rest)
        | .key :: rest =>
            match flowKey endsMappingPart fuel (s.goOn rest) with
            | .error e => .error e
            | .ok (k, s) =>
                match flowValue endsMappingPart fuel s with
                | .error e => .error e
                | .ok (v, s) => flowEntries false fuel ((k, v) :: acc) s
        | _ =>
            match compose false false fuel s with
            | .error e => .error e
            | .ok (k, s) => flowEntries false fuel ((k, absent) :: acc) s
      match s.tokens with
      | .flowMappingEnd :: rest => .ok (acc.reverse, s.goOn rest)
      | .comma :: rest => if first then entry s else entry (s.goOn rest)
      | _ => if first then entry s else .error s.stop

/-- Reads the key of an entry of a flow collection. -/
def flowKey (ends : List Token → Bool) : Nat → Source → Composes Node
  | 0, _ => .error .unexpectedToken
  | fuel + 1, s =>
      if startsValue s.tokens || ends s.tokens then .ok (absent, s)
      else compose false false fuel s

/-- Reads the value of an entry of a flow collection, if there is one. -/
def flowValue (ends : List Token → Bool) : Nat → Source → Composes Node
  | 0, _ => .error .unexpectedToken
  | fuel + 1, s =>
      if startsValue s.tokens then
        let s := s.goOn s.tokens.tail
        if ends s.tokens then .ok (absent, s) else compose false false fuel s
      else .ok (absent, s)

end

/-- Goes over the marks behind a document. -/
def afterEnds : List Token → List Token
  | .documentEnd :: rest => afterEnds rest
  | ts => ts

/-- Reads the directives before a document: whether a version was given, and the handles. -/
def directives : Bool → List (String × String) → List Token →
    Except Fault (List (String × String) × List Token)
  | versioned, handles, .directive (.version major) :: rest =>
      if versioned || major ≠ 1 then .error .refusedDirective
      else directives true handles rest
  | versioned, handles, .directive (.handle h meaning) :: rest =>
      if handles.any fun p => p.1 = h then .error .refusedDirective
      else directives versioned ((h, meaning) :: handles) rest
  | versioned, handles, .directive .other :: rest => directives versioned handles rest
  | _, handles, ts => .ok (handles ++ standardHandles, ts)

/-- Whether a document without content stands here. -/
def isEmptyDocument (ts : List Token) : Bool :=
  match ts with
  | [] | .directive _ :: _ | .documentStart :: _ | .documentEnd :: _ => true
  | _ => false

/-- Nothing but the end of the document may follow. -/
def closed (n : Node) (s : Source) : Except Fault (Option Node) :=
  match s.fault, s.tokens with
  | some e, [] => .error e
  | none, [] => .ok (some n)
  | _, .documentEnd :: rest =>
      match afterEnds rest, s.fault with
      | [], none => .ok (some n)
      | [], some e => .error e
      | _, _ => .error .secondDocument
  | _, .documentStart :: _ => .error .secondDocument
  | _, .directive _ :: _ => .error .secondDocument
  | _, _ => .error .unexpectedToken

/-- The document that tokens hold, if they hold one. -/
def ofTokens (tokens : List Token) (fault : Option Fault) : Except Fault (Option Node) :=
  let fuel := 4 * tokens.length + 16
  let explicit (ts : List Token) : Except Fault (Option Node) :=
    match directives false [] ts with
    | .error e => .error e
    | .ok (handles, .documentStart :: rest) =>
        let s : Source := ⟨rest, fault, handles, []⟩
        if isEmptyDocument rest then closed absent s
        else
          match compose true false fuel s with
          | .error e => .error e
          | .ok (n, s) => closed n s
    | .ok (_, rest) => .error (Source.stop ⟨rest, fault, [], []⟩)
  match tokens with
  | [] =>
      match fault with
      | some e => .error e
      | none => .ok none
  | .directive _ :: _ => explicit tokens
  | .documentStart :: _ => explicit tokens
  | _ =>
      match compose true false fuel ⟨tokens, fault, standardHandles, []⟩ with
      | .error e => .error e
      | .ok (n, s) => closed n s

end Node

end Yaml

end SurfaceCoverage
