import Playground.Yaml.Node
import Playground.Yaml.Scalar

/-!
# The values of documents

Values are made of nodes one after the other. A collection is first made without content and filled
later, in the order in which collections came up, so a collection may be a member of itself. Before
a mapping is filled it takes over the entries of the mappings that are merged into it.

* `Making` — a step in making values.
* `Making.make` — makes something of a node.
* `Making.fill` — fills the collection of a node.
* `valueOf` — the value of a node when all collections are filled.
* `Yaml.read` — the value of a text.
-/

namespace Playground.Yaml

open Playground.Text

/-- What has been made of a node. Collections name their members by their numbers. -/
inductive Made where
  | value (v : Value)
  | list (items : List Nat)
  | pairs (items : List (Nat × Nat))
  | set (keys : List Value)
  | dict (entries : List (Value × Nat))
  deriving Repr, Inhabited

/-- The nodes of a document, what has been made of them, and the collections that are still to be
filled, the last one first. -/
structure Workshop where
  nodes : Array Node
  made : Array (Option Made)
  waiting : List Nat := []

abbrev Making := StateT Workshop (Except Problem)

/-- The problem of a node that is not of the kind that its tag asks for. -/
def Node.wrongKind (n : Node) (wanted : String) : Problem :=
  .marked none (Problem.instead (wanted ++ " node") n.kindName) n.start

namespace Making

def node (number : Nat) : Making Node := do pure ((← get).nodes.getD number default)

def changeNode (number : Nat) (n : Node) : Making Unit :=
  modify fun w => { w with nodes := w.nodes.setIfInBounds number n }

def made? (number : Nat) : Making (Option Made) := do pure ((← get).made.getD number none)

def note (number : Nat) (m : Made) : Making Unit :=
  modify fun w => { w with made := w.made.setIfInBounds number (some m) }

/-! ### Scalars -/

/-- The text of a node; of a mapping that of its default entry. Only a mapping that is its own
default entry leads through more nodes than there are. -/
def text : Nat → Nat → Making String
  | 0, _ => throw .tooDeep
  | fuel + 1, number => do
    match ← node number with
    | .scalar _ text _ => pure text
    | .sequence tag items start => throw ((Node.sequence tag items start).wrongKind "a scalar")
    | .mapping tag entries start =>
      let nodes := (← get).nodes
      match entries.find? fun e => (nodes.getD e.1 default).tag = .default with
      | some e => text fuel e.2
      | none => throw ((Node.mapping tag entries start).wrongKind "a scalar")

/-- The value of a node whose tag does not ask for a collection. -/
def scalar (number : Nat) : Making Value := do
  let n ← node number
  match n.tag with
  | .merge | .default | .other _ => unknownTag n.tag n.start
  | tag =>
    let content ← text ((← get).nodes.size + 1) number
    match tag, n with
    | .timestamp, .mapping _ _ _ => worthless "expected string or bytes-like object, got 'list'"
    | _, _ => scalarValue tag n.start content

def emptyOf : Tag → Made
  | .seq => .list []
  | .omap | .pairs => .pairs []
  | .set => .set []
  | _ => .dict []

/-- Makes something of a node, unless that has been done: a value, or a collection that is still to
be filled. -/
def make (number : Nat) : Making Unit := do
  match ← made? number with
  | some _ => pure ()
  | none =>
    let tag := (← node number).tag
    if tag.isCollection then
      note number (emptyOf tag)
      modify fun w => { w with waiting := number :: w.waiting }
    else note number (.value (← scalar number))

/-! ### Merging -/

def readingMapping : String := "while constructing a mapping"

/-- The problem of something else where a mapping that begins at `since` should take entries
over. -/
def noMapping (since : Mark) (wanted : String) (n : Node) : Problem :=
  .marked (some ⟨readingMapping, some since⟩)
    (Problem.instead (wanted ++ " for merging") n.kindName) n.start

def entriesOf (number : Nat) : Making (List (Nat × Nat)) := do
  match ← node number with
  | .mapping _ entries _ => pure entries
  | _ => pure []

def changeEntries (number : Nat) (entries : List (Nat × Nat)) : Making Unit := do
  let n ← node number
  changeNode number (.mapping n.tag entries n.start)

/-- Makes a text of a key that stands for the default entry. -/
def plainKey (entry : Nat × Nat) : Making Unit := do
  let key ← node entry.1
  if key.tag = .default then changeNode entry.1 (key.withTag .str)

/-- Replaces the merge entries of a mapping, from the one at `index` on, by what they take over,
which is put in front of its own entries, behind what is `taken` already. Every round removes a
merge entry before it looks at other mappings, so their number bounds the rounds. -/
def merge : Nat → Nat → Nat → List (Nat × Nat) → Making Unit
  | 0, _, _, _ => throw .endless
  | fuel + 1, number, index, taken => do
    let nodes := (← get).nodes
    let isPlain (e : Nat × Nat) : Bool := (nodes.getD e.1 default).tag ≠ .merge
    let entries ← entriesOf number
    let (plain, rest) := (entries.drop index).span isPlain
    plain.forM plainKey
    match rest with
    | [] => if !taken.isEmpty then changeEntries number (taken ++ (← entriesOf number))
    | (_, source) :: after =>
      let index := index + plain.length
      changeEntries number (entries.take index ++ after)
      let since := (← node number).start
      let more ←
        match ← node source with
        | .mapping .. => do
          merge fuel source 0 []
          entriesOf source
        | .sequence _ items _ => do
          let groups ← items.mapM fun item => do
            match ← node item with
            | .mapping .. => do
              merge fuel item 0 []
              entriesOf item
            | n => throw (noMapping since "a mapping" n)
          pure groups.reverse.flatten
        | n => throw (noMapping since "a mapping or list of mappings" n)
      merge fuel number index (taken ++ more)

def mergeCount (nodes : Array Node) : Nat :=
  nodes.foldl (fun count n =>
    match n with
    | .mapping _ entries _ =>
      count + entries.countP fun e => (nodes.getD e.1 default).tag = .merge
    | _ => count) 0

/-! ### Collections -/

/-- The number that tells apart keys that are no numbers: all that are written as such are one. -/
def keyNumber (number : Nat) : Making Nat := do
  let w ← get
  match w.nodes.getD number default with
  | .scalar .float text _ => pure (if isNanWord text.toList then w.nodes.size else number)
  | _ => pure number

/-- A key, with the number that tells it apart if it is no number. -/
abbrev Key := Nat × Value

def sameKey (a b : Key) : Bool := a.1 = b.1 || a.2.sameKey b.2

/-- Puts a member under a key: an existing key keeps its place. -/
def insertKey (entries : List (Key × Nat)) (key : Key) (member : Nat) : List (Key × Nat) :=
  if entries.any fun e => sameKey e.1 key then
    entries.map fun e => if sameKey e.1 key then (e.1, member) else e
  else entries ++ [(key, member)]

/-- The key that a node of a mapping stands for; no collection is one. -/
def key (since : Mark) (number : Nat) : Making Key := do
  make number
  match ← made? number with
  | some (.value v) => pure (← keyNumber number, v)
  | _ =>
    throw (.marked (some ⟨readingMapping, some since⟩) "found unhashable key"
      (← node number).start)

/-- The entries of a mapping by their keys; of equal keys the first keeps its place and the last its
value. -/
def table (number : Nat) : Making (List (Value × Nat)) := do
  match ← node number with
  | .mapping .. =>
    merge (mergeCount (← get).nodes + 1) number 0 []
    let since := (← node number).start
    let entries ← (← entriesOf number).foldlM (fun acc (e : Nat × Nat) => do
      let k ← key since e.1
      make e.2
      pure (insertKey acc k e.2)) []
    pure (entries.map fun e => (e.1.2, e.2))
  | n => throw (n.wrongKind "a mapping")

/-- The members of mappings with one entry each, which the sequence of a node holds. -/
def pairs (number : Nat) : Making (List (Nat × Nat)) := do
  let n ← node number
  let product := if n.tag = .omap then "an ordered map" else "pairs"
  let refuse (what : String) (mark : Mark) : Making (List (Nat × Nat)) :=
    throw (.marked (some ⟨"while constructing " ++ product, some n.start⟩) what mark)
  match n with
  | .sequence _ items _ =>
    items.foldlM (fun acc item => do
      match ← node item with
      | .mapping _ [(k, v)] _ =>
        make k
        make v
        pure (acc ++ [(k, v)])
      | .mapping _ entries start =>
        refuse (Problem.instead "a single mapping item"
          (Decimal.naturalText entries.length ++ " items")) start
      | other => refuse (Problem.instead "a mapping of length 1" other.kindName) other.start) []
  | n => refuse (Problem.instead "a sequence" n.kindName) n.start

def fill (number : Nat) : Making Unit := do
  let n ← node number
  match n.tag with
  | .seq =>
    match n with
    | .sequence _ items _ =>
      items.forM make
      note number (.list items)
    | n => throw (n.wrongKind "a sequence")
  | .omap | .pairs => note number (.pairs (← pairs number))
  | .set => note number (.set ((← table number).map (·.1)))
  | _ => note number (.dict (← table number))

/-- Fills the collections that wait, and those that come up in doing so. Every round fills a
collection of its own, so the number of nodes bounds the rounds. -/
def fillAll : Nat → Making Unit
  | 0 => pure ()
  | fuel + 1 => do
    let wave := (← get).waiting.reverse
    if !wave.isEmpty then
      modify fun w => { w with waiting := [] }
      wave.forM fill
      fillAll fuel

/-- Makes something of the outermost node and all that belongs to it. -/
def makeAll (root : Nat) : Making Unit := do
  make root
  fillAll ((← get).nodes.size + 1)

end Making

/-! ### Values -/

/-- A value, with the numbers of the collections around it that it refers to. -/
abbrev Open := Value × List Nat

/-- The values that are known already; none of them refers to a collection around it. -/
abbrev Known := Array (Option Value)

/-- The value of a node inside the collections `around`. A node that is none of them lies on no
longer way than there are nodes. -/
def valueOf (made : Array (Option Made)) : Nat → List Nat → Nat → StateM Known Open
  | 0, _, number => pure (.again number, [number])
  | fuel + 1, around, number => do
    if around.contains number then return (.again number, [number])
    match (← get).getD number none with
    | some v => return (v, [])
    | none => pure ()
    let member := valueOf made fuel (number :: around)
    let (v, free) ← match made.getD number none with
      | none => pure (.null, [])
      | some (.value v) => pure (v, [])
      | some (.set keys) => pure (.set keys, [])
      | some (.list items) => do
        let xs ← items.mapM member
        pure (.list (xs.map (·.1)), xs.flatMap (·.2))
      | some (.pairs items) => do
        let xs ← items.mapM fun e => do pure (← member e.1, ← member e.2)
        pure (.list (xs.map fun x => .pair x.1.1 x.2.1), xs.flatMap fun x => x.1.2 ++ x.2.2)
      | some (.dict entries) => do
        let xs ← entries.mapM fun e => do pure (e.1, ← member e.2)
        pure (.dict (xs.map fun x => (x.1, x.2.1)), xs.flatMap (·.2.2))
    let v := if free.isEmpty then v else .loop number v
    let outer := (free.filter (· ≠ number)).eraseDups
    if outer.isEmpty then modify fun known => known.setIfInBounds number (some v)
    pure (v, outer)

def Document.value (d : Document) : Except Problem Value := do
  let size := d.nodes.size
  let start : Workshop := { nodes := d.nodes, made := Array.replicate size none }
  let (_, w) ← (Making.makeAll d.root).run start
  let ((v, _), _) := (valueOf w.made (size + 1) [] d.root).run (Array.replicate size none)
  pure v

/-- The value of a text that holds at most one document; a text without one stands for null. Where
the text breaks off, `beyond` says why. -/
def read (text : List Char) (beyond : Option Problem) : Except Problem Value := do
  match ← Document.ofText text beyond with
  | none => pure .null
  | some document => document.value

end Playground.Yaml
