/-
From events to the graph of a document's nodes.

Nodes have numbers. An alias gives the number of the node its anchor names, so a node can stand at several places and
even inside itself. A collection gets its number when it starts, which is when its anchor begins to name it.
-/
import LinePrompt.Yaml.Event

namespace LinePrompt.Yaml

inductive Node where
  | scalar (tag : Tag) (text : String)
  | sequence (tag : Tag) (items : List Nat)
  | mapping (tag : Tag) (pairs : List (Nat × Nat))
deriving DecidableEq, Repr

/-- the nodes of a document, by number, and the one it consists of -/
structure Graph where
  nodes : List Node
  root : Nat
deriving DecidableEq, Repr

/-- a collection that has started and not ended -/
structure OpenNode where
  number : Nat
  tag : Tag
  /-- the numbers of its children, newest first; of a mapping keys and values in turn -/
  children : List Nat
  isMapping : Bool
deriving DecidableEq, Repr

structure Composer where
  nodes : List Node
  anchors : List (String × Nat)
  opened : List OpenNode
  root : Option Nat
deriving DecidableEq, Repr

namespace Composer

def empty : Composer := ⟨[], [], [], none⟩

/-- keys and values in turn, newest first, as pairs in order -/
def pairUp : List Nat → List (Nat × Nat)
  | value :: key :: rest => pairUp rest ++ [(key, value)]
  | _ => []

/-- put a finished node, or a node named by an alias, where it stands -/
def place (c : Composer) (number : Nat) : Composer :=
  match c.opened with
  | [] => { c with root := some number }
  | o :: rest => { c with opened := { o with children := number :: o.children } :: rest }

/-- name the next node by its anchor; a name is given once -/
def name (c : Composer) (props : Props) : Except Fault Composer :=
  match props.anchor with
  | none => .ok c
  | some a =>
    if (c.anchors.lookup a).isSome then .error .unreadable
    else .ok { c with anchors := (a, c.nodes.length) :: c.anchors }

/-- the type of a scalar: as its tag says, or by its form if it is plain or its tag names none -/
def scalarTag (props : Props) (text : String) (style : Style) : Tag :=
  match props.tag with
  | none => if style = .plain then resolve text else .text
  | some "!" => resolve text
  | some t => .ofName t

def collectionTag (props : Props) (default : Tag) : Tag :=
  match props.tag with
  | none => default
  | some "!" => default
  | some t => .ofName t

/-- a collection starts -/
def openNode (c : Composer) (props : Props) (isMapping : Bool) : Except Fault Composer := do
  let number := c.nodes.length
  let c ← c.name props
  let tag := collectionTag props (if isMapping then .mapping else .sequence)
  pure { c with nodes := c.nodes ++ [Node.sequence tag []], opened := ⟨number, tag, [], isMapping⟩ :: c.opened }

/-- the innermost collection ends -/
def closeNode (c : Composer) : Except Fault Composer :=
  match c.opened with
  | [] => .error .unreadable
  | o :: opened =>
    let node := if o.isMapping then Node.mapping o.tag (pairUp o.children) else .sequence o.tag o.children.reverse
    .ok ({ c with nodes := c.nodes.set o.number node, opened }.place o.number)

def step (c : Composer) : Event → Except Fault Composer
  | .alias a =>
    match c.anchors.lookup a with
    | some number => .ok (c.place number)
    | none => .error .unreadable
  | .scalar props text style => do
    let number := c.nodes.length
    let c ← c.name props
    pure ({ c with nodes := c.nodes ++ [Node.scalar (scalarTag props text style) text] }.place number)
  | .sequenceStart props => c.openNode props false
  | .mappingStart props => c.openNode props true
  | .sequenceEnd => c.closeNode
  | .mappingEnd => c.closeNode
  | .broken fault => .error fault

end Composer

/-- the graph of a document's events; none if there is no document -/
def Graph.ofEvents (events : List Event) : Except Fault (Option Graph) := do
  let c ← events.foldlM Composer.step .empty
  match c.root with
  | none => pure none
  | some root => pure (some ⟨c.nodes, root⟩)

end LinePrompt.Yaml
