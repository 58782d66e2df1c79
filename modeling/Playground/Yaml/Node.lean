import Playground.Yaml.Lexer
import Playground.Yaml.Tag

/-!
# Nodes

The tokens of a document make up nodes, which are numbered. A collection names its members by their
numbers, so a reference to an anchor is the number of the node that carries it, even inside that
node itself.

* `Node` — a node.
* `Document` — the nodes of a document.
* `Node.Reading` — a step in reading a document.
* `Document.ofText` — the document in a text that holds at most one.
-/

namespace Playground.Yaml

open Playground.Text

/-- A node, with the place where it begins. -/
inductive Node where
  | scalar (tag : Tag) (text : String) (start : Mark)
  | sequence (tag : Tag) (items : List Nat) (start : Mark)
  | mapping (tag : Tag) (entries : List (Nat × Nat)) (start : Mark)
  deriving DecidableEq, Repr, Inhabited

/-- The nodes of a document and the number of the outermost one. -/
structure Document where
  nodes : Array Node
  root : Nat
  deriving Repr, Inhabited

namespace Node

def tag : Node → Tag
  | scalar t _ _ | sequence t _ _ | mapping t _ _ => t

def start : Node → Mark
  | scalar _ _ m | sequence _ _ m | mapping _ _ m => m

def withTag (t : Tag) : Node → Node
  | scalar _ text m => scalar t text m
  | sequence _ items m => sequence t items m
  | mapping _ entries m => mapping t entries m

def kindName : Node → String
  | scalar .. => "scalar"
  | sequence .. => "sequence"
  | mapping .. => "mapping"

def usualHandles : List (String × String) := [("!", "!"), ("!!", Tag.home)]

/-- What is known in reading: the tokens that are left, the nodes made and the anchors met so far,
and the starts that tag handles stand for. -/
structure Progress where
  lexer : Lexer
  nodes : Array Node := #[]
  anchors : List (String × Nat) := []
  /-- The number of collections around the place. -/
  depth : Nat := 0
  handles : List (String × String) := usualHandles

abbrev Reading := StateT Progress (Except Problem)

namespace Reading

/-- Refuses the document for something at a place, met in an activity that began at `since`. -/
def refuse {α : Type} (activity : String) (since : Mark) (what : String) (mark : Mark) :
    Reading α :=
  throw (.marked (some ⟨activity, some since⟩) what mark)

def refuseAt {α : Type} (what : String) (mark : Mark) : Reading α :=
  throw (.marked none what mark)

def next : Reading Placed := do
  let p ← get
  let (t, lexer) ← p.lexer.next
  set { p with lexer }
  pure t

def drop : Reading Unit := modify fun p => { p with lexer := p.lexer.drop }

def sees (ts : List Token) : Reading Bool := do pure (ts.contains (← next).token)

/-- Takes the next token, which must be this one; else the complaint ends with the token found. -/
def need (t : Token) (activity : String) (since : Mark) (complaint : String) : Reading Unit := do
  let found ← next
  if found.token = t then drop
  else refuse activity since (complaint ++ quote found.token.name) found.start

def add (node : Node) : Reading Nat := do
  let number := (← get).nodes.size
  modify fun p => { p with nodes := p.nodes.push node }
  pure number

/-- Puts another node under a number. -/
def replace (number : Nat) (node : Node) : Reading Unit :=
  modify fun p => { p with nodes := p.nodes.setIfInBounds number node }

/-- How many collections may lie within one another. -/
def deepestNesting : Nat := 480

def within {α : Type} (content : Reading α) : Reading α := do
  let depth := (← get).depth
  if deepestNesting ≤ depth then throw .tooDeep
  modify fun p => { p with depth := depth + 1 }
  let result ← content
  modify fun p => { p with depth }
  pure result

def remember (anchor : Option String) (number : Nat) : Reading Unit :=
  match anchor with
  | none => pure ()
  | some name => modify fun p => { p with anchors := (name, number) :: p.anchors }

/-- The number of the node that carries an anchor, if one does. -/
def carrier? (name : String) : Reading (Option Nat) := do
  pure (((← get).anchors.find? fun e => e.1 = name).map (·.2))

def referent (name : String) (mark : Mark) : Reading Nat := do
  match ← carrier? name with
  | some number => pure number
  | none => refuseAt ("found undefined alias " ++ quote name) mark

end Reading

open Reading

/-! ### What stands in front of a node -/

/-- The anchor and the tag of a node, and the place where it begins. -/
structure Properties where
  anchor : Option String := none
  tag : Option String := none
  start : Mark

def takeAnchor : Reading (Option String) := do
  match (← next).token with
  | .anchor name => drop; pure (some name)
  | _ => pure none

/-- The tag that comes next, if one does, with its place. -/
def takeTag : Reading (Option (Option String × String × Mark)) := do
  let t ← next
  match t.token with
  | .tag handle suffix => drop; pure (some (handle, suffix, t.start))
  | _ => pure none

/-- The full name of a tag of a node that begins at `start`. -/
def fullTag (start : Mark) : Option String × String × Mark → Reading String
  | (none, suffix, _) => pure suffix
  | (some handle, suffix, mark) => do
    match (← get).handles.find? fun e => e.1 = handle with
    | some e => pure (e.2 ++ suffix)
    | none =>
      refuse "while parsing a node" start ("found undefined tag handle " ++ quote handle) mark

/-- The anchor and the tag in front of a node, in either order; an anchor may not be used twice. -/
def properties : Reading Properties := do
  let start := (← next).start
  let first ← takeAnchor
  let tag ← takeTag
  let anchor ← if first.isNone && tag.isSome then takeAnchor else pure first
  let tag ← tag.mapM (fullTag start)
  let _ ← next
  match anchor with
  | none => pure ()
  | some name =>
    match ← carrier? name with
    | none => pure ()
    | some number =>
      let first := (← get).nodes.getD number default
      refuse ("found duplicate anchor " ++ quote name ++ "; first occurrence") first.start
        "second occurrence" start
  pure { anchor, tag, start }

def empty (start : Mark) : Reading Nat := add (scalar .null "" start)

def collectionTag (tag : Option String) (usual : Tag) : Tag :=
  match tag with
  | none => usual
  | some name => if name = "!" then usual else Tag.ofName name

/-- The tag of a scalar: its own, or what its text looks like if it is plain, or else text. -/
def scalarTag (tag : Option String) (isPlain : Bool) (text : String) : Tag :=
  match tag with
  | none => if isPlain then Tag.ofText text.toList else .str
  | some name => if name = "!" then Tag.ofText text.toList else Tag.ofName name

/-! ### Nodes -/

def finishScalar (p : Properties) (isPlain : Bool) (text : String) : Reading Nat := do
  let number ← add (scalar (scalarTag p.tag isPlain text) text p.start)
  remember p.anchor number
  pure number

/-- A collection with what stands in front of it; its anchor counts within it, too. -/
def finishCollection {α : Type} (p : Properties) (usual : Tag)
    (make : Tag → List α → Mark → Node) (content : Reading (List α)) : Reading Nat := do
  let t := collectionTag p.tag usual
  let number ← add (make t [] p.start)
  remember p.anchor number
  replace number (make t (← within content) p.start)
  pure number

/-- A node without content, which has something in front of it. -/
def finishEmpty (p : Properties) (inBlock : Bool) : Reading Nat := do
  if p.anchor.isSome || p.tag.isSome then finishScalar p true ""
  else
    let found ← next
    refuse (if inBlock then "while parsing a block node" else "while parsing a flow node") p.start
      ("expected the node content, but found " ++ quote found.token.name) found.start

/-- Reads a node unless one of the tokens comes next, which leave it empty. -/
def orEmpty (ts : List Token) (start : Mark) (read : Reading Nat) : Reading Nat := do
  if ← sees ts then empty start else read

mutual

/-- Reads a node. Blocks are allowed where `inBlock` holds, and sequences that are not indented
where `indentless` holds. -/
def read (inBlock indentless : Bool) : Nat → Reading Nat
  | 0 => throw .endless
  | fuel + 1 => do
    let first ← next
    match first.token with
    | .reference name => drop; referent name first.start
    | _ =>
      let p ← properties
      let items := finishCollection p .seq sequence
      let entries := finishCollection p .map mapping
      let t ← next
      match t.token with
      | .scalar text isPlain => drop; finishScalar p isPlain text
      | .blockEntry =>
        if indentless then items (readIndentless fuel) else finishEmpty p inBlock
      | .flowSequenceStart => drop; items (readFlowItems t.start true fuel)
      | .flowMappingStart => drop; entries (readFlowEntries t.start true fuel)
      | .blockSequenceStart =>
        if inBlock then do drop; items (readBlockItems t.start fuel) else finishEmpty p inBlock
      | .blockMappingStart =>
        if inBlock then do drop; entries (readBlockEntries t.start fuel) else finishEmpty p inBlock
      | _ => finishEmpty p inBlock

/-- Reads the items of an indented sequence that begins at `since`. -/
def readBlockItems (since : Mark) : Nat → Reading (List Nat)
  | 0 => throw .endless
  | fuel + 1 => do
    let t ← next
    match t.token with
    | .blockEntry =>
      drop
      let item ← orEmpty [.blockEntry, .blockEnd] t.after (read true false fuel)
      let others ← readBlockItems since fuel
      pure (item :: others)
    | _ =>
      need .blockEnd "while parsing a block collection" since "expected <block end>, but found "
      pure []

def readIndentless : Nat → Reading (List Nat)
  | 0 => throw .endless
  | fuel + 1 => do
    let t ← next
    match t.token with
    | .blockEntry =>
      drop
      let item ← orEmpty [.blockEntry, .key, .value, .blockEnd] t.after (read true false fuel)
      let others ← readIndentless fuel
      pure (item :: others)
    | _ => pure []

/-- Reads the entries of an indented mapping that begins at `since`. -/
def readBlockEntries (since : Mark) : Nat → Reading (List (Nat × Nat))
  | 0 => throw .endless
  | fuel + 1 => do
    let t ← next
    match t.token with
    | .key =>
      drop
      let key ← orEmpty [.key, .value, .blockEnd] t.after (read true true fuel)
      let value ← readBlockValue fuel
      let others ← readBlockEntries since fuel
      pure ((key, value) :: others)
    | _ =>
      need .blockEnd "while parsing a block mapping" since "expected <block end>, but found "
      pure []

def readBlockValue : Nat → Reading Nat
  | 0 => throw .endless
  | fuel + 1 => do
    let t ← next
    match t.token with
    | .value =>
      drop
      orEmpty [.key, .value, .blockEnd] t.after (read true true fuel)
    | _ => empty t.start

/-- Reads the items of a sequence in brackets that begins at `since`; behind the first a comma
stands between them. -/
def readFlowItems (since : Mark) (isFirst : Bool) : Nat → Reading (List Nat)
  | 0 => throw .endless
  | fuel + 1 => do
    if ← sees [.flowSequenceEnd] then drop; pure []
    else
      if !isFirst then
        need .flowEntry "while parsing a flow sequence" since "expected ',' or ']', but got "
      let t ← next
      match t.token with
      | .flowSequenceEnd => drop; pure []
      | .key =>
        drop
        let entry ← within do
          let key ← orEmpty [.value, .flowEntry, .flowSequenceEnd] t.after (read false false fuel)
          let value ← readFlowValue .flowSequenceEnd fuel
          pure (key, value)
        let pair ← add (mapping .map [entry] t.start)
        let others ← readFlowItems since false fuel
        pure (pair :: others)
      | _ =>
        let item ← read false false fuel
        let others ← readFlowItems since false fuel
        pure (item :: others)

/-- Reads the entries of a mapping in braces that begins at `since`; behind the first a comma
stands between them. -/
def readFlowEntries (since : Mark) (isFirst : Bool) : Nat → Reading (List (Nat × Nat))
  | 0 => throw .endless
  | fuel + 1 => do
    if ← sees [.flowMappingEnd] then drop; pure []
    else
      if !isFirst then
        need .flowEntry "while parsing a flow mapping" since
          "expected ',' or '\x7d', but got "
      let t ← next
      match t.token with
      | .flowMappingEnd => drop; pure []
      | .key =>
        drop
        let key ← orEmpty [.value, .flowEntry, .flowMappingEnd] t.after (read false false fuel)
        let value ← readFlowValue .flowMappingEnd fuel
        let others ← readFlowEntries since false fuel
        pure ((key, value) :: others)
      | _ =>
        let key ← read false false fuel
        let value ← empty (← next).start
        let others ← readFlowEntries since false fuel
        pure ((key, value) :: others)

/-- Reads the value of an entry in brackets or braces that `closing` ends. -/
def readFlowValue (closing : Token) : Nat → Reading Nat
  | 0 => throw .endless
  | fuel + 1 => do
    let t ← next
    match t.token with
    | .value =>
      drop
      orEmpty [.flowEntry, closing] t.after (read false false fuel)
    | _ => empty t.start

end

/-! ### Documents -/

/-- Reads the directives in front of a document: at most one version, of the first major one, and
no handle twice. Each takes a character, so the length of the text bounds their number. -/
def readDirectives (versioned : Bool) (handles : List (String × String)) :
    Nat → Reading (List (String × String))
  | 0 => throw .endless
  | fuel + 1 => do
    let t ← next
    match t.token with
    | .directive (.version major) =>
      drop
      if versioned then refuseAt "found duplicate YAML directive" t.start
      else if major ≠ 1 then
        refuseAt "found incompatible YAML document (version 1.* is required)" t.start
      else readDirectives true handles fuel
    | .directive (.handle name tagStart) =>
      drop
      if handles.any fun e => e.1 = name then
        refuseAt ("duplicate tag handle " ++ quote name) t.start
      else readDirectives versioned ((name, tagStart) :: handles) fuel
    | .directive .other => drop; readDirectives versioned handles fuel
    | _ => pure (handles ++ usualHandles)

/-- Reads the explicit start of a document, with the directives in front of it. -/
def readStart (fuel : Nat) : Reading Unit := do
  let handles ← readDirectives false [] fuel
  modify fun p => { p with handles }
  let t ← next
  if t.token = .documentStart then drop
  else refuseAt ("expected '<document start>', but found " ++ quote t.token.name) t.start

/-- Does the document end in front of this token? -/
def isOver : Token → Bool
  | .directive _ | .documentStart | .documentEnd | .streamEnd => true
  | _ => false

/-- Reads a document. Only behind an explicit start it may be empty. -/
def readDocument (fuel : Nat) : Reading Nat := do
  match (← next).token with
  | .directive _ | .documentStart =>
    readStart fuel
    let t ← next
    if isOver t.token then empty t.start else read true false fuel
  | _ => read true false fuel

def skipEnds : Nat → Reading Unit
  | 0 => throw .endless
  | fuel + 1 => do
    if ← sees [.documentEnd] then
      drop
      skipEnds fuel

def readOnly (fuel : Nat) : Reading (Option Document) := do
  if ← sees [.streamEnd] then pure none
  else
    let root ← readDocument fuel
    let nodes := (← get).nodes
    skipEnds fuel
    let t ← next
    if t.token = .streamEnd then pure (some ⟨nodes, root⟩)
    else
      readStart fuel
      refuse "expected a single document in the stream" (nodes.getD root default).start
        "but found another document" t.start

/-- A bound on the steps that one character of a text gives rise to. -/
def stepsPerCharacter : Nat := 24

end Node

/-- The document in a text that holds at most one. Where the text breaks off, `beyond` says why. -/
def Document.ofText (text : List Char) (beyond : Option Problem) :
    Except Problem (Option Document) := do
  let lexer ← Lexer.ofText text beyond
  let (document, _) ←
    (Node.readOnly (Node.stepsPerCharacter * (text.length + 1))).run { lexer }
  pure document

end Playground.Yaml
