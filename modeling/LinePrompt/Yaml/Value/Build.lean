/-
From the graph of a document to its value.

Collections are filled one after another, in the order in which they were met: first the document itself, then the
collections that stand in it, then those that stand in these. So of two faults the one in the shallower place shows,
and of two at the same depth the first. A mapping takes in the mappings under its merge keys before it is filled; its
own entries win over theirs. Of two equal keys the first stays, with the value of the last.
-/
import LinePrompt.Yaml.Node
import LinePrompt.Yaml.Value.Scalar

namespace LinePrompt.Yaml

open LinePrompt.Decimal

/-! ## Merging -/

def tagOf (nodes : List Node) (n : Nat) : Option Tag :=
  match nodes[n]? with
  | some (.scalar tag _) => some tag
  | some (.sequence tag _) => some tag
  | some (.mapping tag _) => some tag
  | none => none

/-- a node given another type -/
def retag (nodes : List Node) (n : Nat) (tag : Tag) : List Node :=
  nodes.modify n fun
    | .scalar _ text => .scalar tag text
    | .sequence _ items => .sequence tag items
    | .mapping _ pairs => .mapping tag pairs

def pairsOf? (nodes : List Node) (n : Nat) : Option (List (Nat × Nat)) :=
  match nodes[n]? with
  | some (.mapping _ pairs) => some pairs
  | _ => none

def setPairs (nodes : List Node) (n : Nat) (pairs : List (Nat × Nat)) : List Node :=
  nodes.modify n fun
    | .mapping tag _ => .mapping tag pairs
    | node => node

mutual

/-- take the mappings under the merge keys of mapping `n` into it -/
def flatten : Nat → List Node → Nat → Except Fault (List Node)
  | 0, nodes, _ => .ok nodes
  | bound + 1, nodes, n =>
    match pairsOf? nodes n with
    | none => .ok nodes
    | some pairs => do
      let (nodes, merged, kept) ← flattenPairs bound nodes n [] [] pairs
      pure (setPairs nodes n (merged ++ kept))

/-- the pairs of mapping `n` one after another: what its merge keys bring, and its own pairs -/
def flattenPairs : Nat → List Node → Nat → List (Nat × Nat) → List (Nat × Nat) → List (Nat × Nat) →
    Except Fault (List Node × List (Nat × Nat) × List (Nat × Nat))
  | 0, nodes, _, merged, kept, _ => .ok (nodes, merged, kept)
  | _ + 1, nodes, _, merged, kept, [] => .ok (nodes, merged, kept)
  | bound + 1, nodes, n, merged, kept, (k, v) :: rest =>
    match tagOf nodes k with
    | some .merge => do
      let nodes := setPairs nodes n (kept ++ rest)
      match nodes[v]? with
      | some (.mapping _ _) =>
        let nodes ← flatten bound nodes v
        flattenPairs bound nodes n (merged ++ (pairsOf? nodes v).getD []) kept rest
      | some (.sequence _ items) =>
        let (nodes, found) ← flattenItems bound nodes items
        flattenPairs bound nodes n (merged ++ found) kept rest
      | _ => .error .unreadable
    | some .value => flattenPairs bound (retag nodes k .text) n merged (kept ++ [(k, v)]) rest
    | _ => flattenPairs bound nodes n merged (kept ++ [(k, v)]) rest

/-- the pairs of several mappings, those of the last one first -/
def flattenItems : Nat → List Node → List Nat → Except Fault (List Node × List (Nat × Nat))
  | 0, nodes, _ => .ok (nodes, [])
  | _ + 1, nodes, [] => .ok (nodes, [])
  | bound + 1, nodes, i :: rest =>
    match pairsOf? nodes i with
    | none => .error .unreadable
    | some _ => do
      let nodes ← flatten bound nodes i
      let pairs := (pairsOf? nodes i).getD []
      let (nodes, later) ← flattenItems bound nodes rest
      pure (nodes, later ++ pairs)

end

/-- a bound on the nesting of merges -/
def mergeBound (nodes : List Node) : Nat :=
  2 * nodes.length + 2 + (nodes.map fun
    | .mapping _ pairs => pairs.length
    | .sequence _ items => items.length
    | .scalar _ _ => 0).foldl (· + ·) 0

/-! ## Keys -/

/-- the number of a day, counted from the beginning of the calendar -/
def dayNumber (d : Date) : Nat :=
  let y := d.year - 1
  365 * y + y / 4 - y / 100 + y / 400 +
    ((List.range (d.month - 1)).map fun m => daysInMonth d.year (m + 1)).foldl (· + ·) 0 + d.day

/-- millionths of a second from the beginning of the calendar, by universal time if the zone is known -/
def Moment.instant (m : Moment) : Int :=
  let minutes : Int := (dayNumber m.date * 1440 + m.hour * 60 + m.minute : Nat) - m.offset.getD 0
  (minutes * 60 + m.second) * 1000000 + m.micro

/-- are two moments equal? One with a zone never equals one without. -/
def Moment.same (a b : Moment) : Bool := a.offset.isSome == b.offset.isSome && a.instant == b.instant

/-- a scalar as a whole number, if it counts as one -/
def Scalar.whole? : Scalar → Option Int
  | .bool b => some (if b then 1 else 0)
  | .int n => some n
  | _ => none

/-- are two scalars equal as keys? Numbers of all types are equal by value. -/
def Scalar.same (a b : Scalar) : Bool :=
  match a, b with
  | .float x, .float y => x.same y
  | .float x, b => b.whole?.any x.equalsInt
  | a, .float y => a.whole?.any y.equalsInt
  | a, b =>
    match a.whole?, b.whole? with
    | some n, some m => n == m
    | none, none => a == b
    | _, _ => false

/-- are two places equal as keys? -/
def sameKey (cells : List (Nat × Cell)) (a b : Item) : Bool :=
  match a, b with
  | .scalar a, .scalar b => a.same b
  | .cell a, .cell b =>
    match cells.lookup a, cells.lookup b with
    | some (.date a), some (.date b) => a == b
    | some (.moment a), some (.moment b) => a.same b
    | _, _ => false
  | _, _ => false

/-- can this be a key? Collections cannot. -/
def canBeKey (cells : List (Nat × Cell)) : Item → Bool
  | .scalar _ => true
  | .cell n =>
    match cells.lookup n with
    | some (.date _) => true
    | some (.moment _) => true
    | _ => false

/-- an entry put into a mapping -/
def putEntry (cells : List (Nat × Cell)) (entries : List (Item × Item)) (k v : Item) : List (Item × Item) :=
  if entries.any fun e => sameKey cells e.1 k then
    entries.map fun e => if sameKey cells e.1 k then (e.1, v) else e
  else entries ++ [(k, v)]

/-! ## Building -/

structure Builder where
  nodes : List Node
  /-- what each node met so far became -/
  built : List (Nat × Item)
  cells : List (Nat × Cell)
  /-- the collections still to be filled, oldest first -/
  pending : List Nat

namespace Builder

/-- the text of a scalar; a mapping with a value key has the text of that key's value -/
def scalarText (nodes : List Node) : Nat → Nat → Except Fault String
  | 0, _ => .error .unreadable
  | bound + 1, n =>
    match nodes[n]? with
    | some (.scalar _ text) => .ok text
    | some (.mapping _ pairs) =>
      match pairs.find? fun (k, _) => tagOf nodes k == some .value with
      | some (_, v) => scalarText nodes bound v
      | none => .error .unreadable
    | _ => .error .unreadable

def emptyCell : Tag → Cell
  | .omap => .pairs []
  | .pairs => .pairs []
  | .set => .set []
  | .mapping => .mapping []
  | _ => .sequence []

/-- a collection that is filled later -/
def defer (b : Builder) (n : Nat) (tag : Tag) : Except Fault (Item × Builder) :=
  .ok (.cell n, { b with
    built := (n, .cell n) :: b.built
    cells := (n, emptyCell tag) :: b.cells
    pending := b.pending ++ [n] })

def keep (b : Builder) (n : Nat) (s : Scalar) : Item × Builder :=
  (.scalar s, { b with built := (n, .scalar s) :: b.built })

/-- what a node becomes: a scalar at once, a collection to be filled later -/
def construct (b : Builder) (n : Nat) : Except Fault (Item × Builder) :=
  match b.built.lookup n with
  | some item => .ok (item, b)
  | none =>
    let text := scalarText b.nodes (b.nodes.length + 1) n
    match tagOf b.nodes n with
    | none => .error .unreadable
    | some .null => text.map fun _ => b.keep n .null
    | some .bool => (text.bind readBool).map (b.keep n)
    | some .int => (text.bind readWhole).map (b.keep n)
    | some .float => (text.bind readFloating).map (b.keep n)
    | some .binary => (text.bind readBytes).map (b.keep n)
    | some .text => text.map fun s => b.keep n (.text s)
    | some .timestamp =>
      if (pairsOf? b.nodes n).isSome then text.bind fun _ => .error .noText
      else (text.bind readMoment).map fun cell =>
        (.cell n, { b with built := (n, .cell n) :: b.built, cells := (n, cell) :: b.cells })
    | some .merge => .error .unreadable
    | some .value => .error .unreadable
    | some (.other _) => .error .unreadable
    | some tag => b.defer n tag

/-- several nodes one after another -/
def constructAll (b : Builder) : List Nat → Except Fault (List Item × Builder)
  | [] => .ok ([], b)
  | n :: rest => do
    let (item, b) ← b.construct n
    let (items, b) ← b.constructAll rest
    pure (item :: items, b)

/-- the entries of a mapping one after another -/
def constructEntries (b : Builder) (entries : List (Item × Item)) :
    List (Nat × Nat) → Except Fault (List (Item × Item) × Builder)
  | [] => .ok (entries, b)
  | (k, v) :: rest => do
    let (key, b) ← b.construct k
    if !canBeKey b.cells key then throw .unreadable
    let (value, b) ← b.construct v
    b.constructEntries (putEntry b.cells entries key value) rest

/-- the pairs of a list of pairs: each item is a mapping of one entry -/
def constructPairs (b : Builder) : List Nat → Except Fault (List (Item × Item) × Builder)
  | [] => .ok ([], b)
  | n :: rest =>
    match pairsOf? b.nodes n with
    | some [(k, v)] => do
      let (key, b) ← b.construct k
      let (value, b) ← b.construct v
      let (pairs, b) ← b.constructPairs rest
      pure ((key, value) :: pairs, b)
    | _ => .error .unreadable

def setCell (b : Builder) (n : Nat) (cell : Cell) : Builder := { b with cells := (n, cell) :: b.cells }

/-- the entries of mapping `n`, merged -/
def mappingEntries (b : Builder) (n : Nat) : Except Fault (List (Item × Item) × Builder) :=
  match pairsOf? b.nodes n with
  | none => .error .unreadable
  | some _ => do
    let nodes ← flatten (mergeBound b.nodes) b.nodes n
    { b with nodes }.constructEntries [] ((pairsOf? nodes n).getD [])

def sequenceItems (b : Builder) (n : Nat) : Except Fault (List Nat) :=
  match b.nodes[n]? with
  | some (.sequence _ items) => .ok items
  | _ => .error .unreadable

/-- fill collection `n` -/
def fill (b : Builder) (n : Nat) : Except Fault Builder :=
  match tagOf b.nodes n with
  | some .mapping => (b.mappingEntries n).map fun (entries, b) => b.setCell n (.mapping entries)
  | some .set => (b.mappingEntries n).map fun (entries, b) => b.setCell n (.set (entries.map (·.1)))
  | some .omap => do
    let (pairs, b) ← b.constructPairs (← b.sequenceItems n)
    pure (b.setCell n (.pairs pairs))
  | some .pairs => do
    let (pairs, b) ← b.constructPairs (← b.sequenceItems n)
    pure (b.setCell n (.pairs pairs))
  | _ => do
    let (items, b) ← b.constructAll (← b.sequenceItems n)
    pure (b.setCell n (.sequence items))

/-- fill collections until none is pending. Each is filled once, so the number of nodes is a bound. -/
def fillAll : Nat → Builder → Except Fault Builder
  | 0, b => .ok b
  | bound + 1, b =>
    match b.pending with
    | [] => .ok b
    | n :: pending => ({ b with pending }.fill n).bind (fillAll bound)

end Builder

/-- the value of a document -/
def Value.ofGraph (g : Graph) : Except Fault Value := do
  let (root, b) ← Builder.construct ⟨g.nodes, [], [], []⟩ g.root
  let b ← Builder.fillAll (g.nodes.length + 1) b
  pure ⟨b.cells, root⟩

end LinePrompt.Yaml
