/-
A value as it is written: a tree of blocks, in which what is used twice has an anchor and stands once.

Anchors are given to collections, dates and times that are met more than once, numbered by the order in which they are
met for the second time; a mapping is met before its keys and values, and these in turn.
-/
import LinePrompt.Text.Base64
import LinePrompt.Yaml.Tag
import LinePrompt.Yaml.Value.Display

namespace LinePrompt.Yaml.Printer

open LinePrompt.Decimal

inductive Block where
  | alias (anchor : Nat)
  | scalar (anchor : Option Nat) (tag : Tag) (text : List Char)
  | sequence (anchor : Option Nat) (tag : Tag) (items : List Block)
  /-- keys and values in turn -/
  | mapping (anchor : Option Nat) (tag : Tag) (items : List Block)
deriving Repr

/-! ## What is met twice -/

/-- what stands directly in a cell, a set's members with nothing as their values -/
def children : Cell → List Item
  | .sequence items => items
  | .pairs pairs => pairs.flatMap fun (a, b) => [a, b]
  | .mapping entries => entries.flatMap fun (k, v) => [k, v]
  | .set items => items
  | .date _ => []
  | .moment _ => []

/-- the cells met on a walk, the last one first; a cell is entered the first time only -/
def walk (v : Value) : Nat → List Nat → Item → List Nat
  | 0, met, _ => met
  | _ + 1, met, .scalar _ => met
  | bound + 1, met, .cell n =>
    if met.contains n then n :: met
    else (((v.cell? n).map children).getD []).foldl (walk v bound) (n :: met)

/-- those of a list that occur again later on, by the place of their second occurrence -/
def repeated (seen twice : List Nat) : List Nat → List Nat
  | [] => twice
  | n :: rest =>
    if seen.contains n then repeated seen (if twice.contains n then twice else twice ++ [n]) rest
    else repeated (n :: seen) twice rest

/-- The cells that need an anchor, in the order of their numbers. Each cell is entered once, so their number bounds the
depth. -/
def anchored (v : Value) : List Nat := repeated [] [] (walk v (v.cells.length + 2) [] v.root).reverse

/-! ## Blocks -/

/-- the text of a floating number; one that has an exponent has a point too -/
def floatText (x : Binary) : String :=
  match x with
  | .notANumber => ".nan"
  | .infinite false => ".inf"
  | .infinite true => "-.inf"
  | .finite .. =>
    let t := x.text.toList
    if t.contains '.' || !t.contains 'e' then x.text
    else String.ofList (t.takeWhile (· != 'e') ++ ".0".toList ++ t.dropWhile (· != 'e'))

/-- type and text of a scalar -/
def scalarForm : Scalar → Except Fault (Tag × String)
  | .null => .ok (.null, "null")
  | .bool true => .ok (.bool, "true")
  | .bool false => .ok (.bool, "false")
  | .int n => (intText n).map fun t => (.int, t)
  | .float x => .ok (.float, floatText x)
  | .text s => .ok (.text, s)
  | .bytes bs => .ok (.binary, String.ofList (Text.Base64.encode bs))

/-- the type of a pair in a list of pairs -/
def pairTag : Tag := .other "tag:yaml.org,2002:python/tuple"

def nullBlock : Block := .scalar none .null "null".toList

/-- items one after another, with the cells written so far -/
def eachBlock (block : List Nat → Item → Except Fault (Block × List Nat)) :
    List Nat → List Item → Except Fault (List Block × List Nat)
  | done, [] => .ok ([], done)
  | done, i :: rest => do
    let (b, done) ← block done i
    let (bs, done) ← eachBlock block done rest
    pure (b :: bs, done)

/-- items two by two, each two as a block -/
def pairBlocks : List Block → List Block
  | a :: b :: rest => .sequence none pairTag [a, b] :: pairBlocks rest
  | _ => []

/-- the block of what stands at one place; `done` are the cells written so far -/
def blockOf (v : Value) (anchors : List Nat) : Nat → List Nat → Item → Except Fault (Block × List Nat)
  | 0, done, _ => .ok (nullBlock, done)
  | _ + 1, done, .scalar s => (scalarForm s).map fun (tag, t) => (.scalar none tag t.toList, done)
  | bound + 1, done, .cell n =>
    let anchor := anchors.idxOf? n
    if done.contains n then .ok (.alias (anchor.getD 0), done)
    else
      let each := eachBlock (blockOf v anchors bound) (n :: done)
      match v.cell? n with
      | some (.sequence items) => (each items).map fun (bs, done) => (.sequence anchor .sequence bs, done)
      | some (.pairs pairs) =>
        (each (children (.pairs pairs))).map fun (bs, done) => (.sequence anchor .sequence (pairBlocks bs), done)
      | some (.mapping entries) =>
        (each (children (.mapping entries))).map fun (bs, done) => (.mapping anchor .mapping bs, done)
      | some (.set items) =>
        (each items).map fun (bs, done) => (.mapping anchor .set (bs.flatMap fun b => [b, nullBlock]), done)
      | some (.date d) => .ok (.scalar anchor .timestamp d.text.toList, n :: done)
      | some (.moment m) => .ok (.scalar anchor .timestamp m.text.toList, n :: done)
      | none => .ok (nullBlock, done)

def Block.ofValue (v : Value) : Except Fault Block :=
  (blockOf v (anchored v) (v.cells.length + 2) [] v.root).map (·.1)

end LinePrompt.Yaml.Printer
