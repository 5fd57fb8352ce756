/-
The text of a value as a YAML document, one entry a line.

A collection is indented by two columns below the one it stands in; only a sequence that is the value of a key stands
right below the key. A key stands in front of its value if it is a short scalar on one line; otherwise key and value
stand each behind a mark of its own.
-/
import LinePrompt.Yaml.Cursor
import LinePrompt.Yaml.Printer.Block
import LinePrompt.Yaml.Printer.Written

namespace LinePrompt.Yaml.Printer

/-! ## Names -/

/-- an anchor's name: a number of three digits or more -/
def anchorName (k : Nat) : List Char := ("id" ++ padded 3 (k + 1)).toList

/-- a tag as it is written -/
def tagName : Tag → List Char
  | .null => "!!null".toList
  | .bool => "!!bool".toList
  | .int => "!!int".toList
  | .float => "!!float".toList
  | .binary => "!!binary".toList
  | .timestamp => "!!timestamp".toList
  | .omap => "!!omap".toList
  | .pairs => "!!pairs".toList
  | .set => "!!set".toList
  | .text => "!!str".toList
  | .sequence => "!!seq".toList
  | .mapping => "!!map".toList
  | .merge => "!!merge".toList
  | .value => "!!value".toList
  | .other name =>
    if standardPart.toList.isPrefixOf name.toList then "!!".toList ++ name.toList.drop standardPart.length
    else "!<".toList ++ name.toList ++ ['>']

/-- the form a scalar is written in; bytes stand in lines of their own -/
def scalarStyle (tag : Tag) (text : List Char) : Style :=
  if tag = .binary then (if text.isEmpty then .double else .literal) else formFor tag text

/-- does the form alone tell the type? -/
def tellsTag (tag : Tag) (style : Style) (text : List Char) : Bool :=
  if style = .plain then resolveChars text = tag else tag = .text

/-! ## Blocks -/

/-- where a block stands -/
inductive Place where
  | item
  | entry
  | shortKey
deriving DecidableEq, Repr

/-- how long a key may be, with anchor and tag, to stand in front of its value -/
def keyLimit : Nat := 128

def anchorLength (anchor : Option Nat) : Nat := (anchor.map fun k => (anchorName k).length).getD 0

def isShortKey : Block → Bool
  | .alias k => (anchorName k).length < keyLimit
  | .scalar anchor tag text =>
    anchorLength anchor + (tagName tag).length + text.length < keyLimit && !text.isEmpty && !text.any isBreak
  | .sequence anchor tag items => anchorLength anchor + (tagName tag).length < keyLimit && items.isEmpty
  | .mapping anchor tag items => anchorLength anchor + (tagName tag).length < keyLimit && items.isEmpty

def writeAnchor (anchor : Option Nat) (p : Pen) : Pen :=
  match anchor with
  | none => p
  | some k => p.mark ('&' :: anchorName k)

/-- an empty collection -/
def writeEmpty (opening closing : Char) (p : Pen) : Pen := (p.mark [opening]).attach [closing]

mutual

/-- write a block below column `n` -/
def writeBlock (n : Nat) (place : Place) : Block → Pen → Pen
  | .alias k, p => p.mark ('*' :: anchorName k)
  | .scalar anchor tag text, p =>
    let p := writeAnchor anchor p
    let style := scalarStyle tag text
    let p := if tellsTag tag style text then p else p.mark (tagName tag)
    writeScalar (n + 2) (place != .shortKey) style text p
  | .sequence anchor tag items, p =>
    let p := writeAnchor anchor p
    let p := if tag = .sequence then p else p.mark (tagName tag)
    if items.isEmpty then writeEmpty '[' ']' p
    else if place != .item && !p.fresh then writeItems n items p
    else writeItems (n + 2) items p
  | .mapping anchor tag items, p =>
    let p := writeAnchor anchor p
    let p := if tag = .mapping then p else p.mark (tagName tag)
    if items.isEmpty then writeEmpty '\x7b' '\x7d' p else writeEntries (n + 2) items p

/-- the items of a sequence, each from column `n` on -/
def writeItems (n : Nat) : List Block → Pen → Pen
  | [], p => p
  | b :: rest, p => writeItems n rest (writeBlock n .item b ((p.indent n).entryMark '-'))

/-- the entries of a mapping, each from column `n` on -/
def writeEntries (n : Nat) : List Block → Pen → Pen
  | k :: v :: rest, p =>
    let p := p.indent n
    let p :=
      if isShortKey k then writeBlock n .entry v ((writeBlock n .shortKey k p).attach [':'])
      else
        let p := (writeBlock n .entry k (p.entryMark '?')).indent n
        writeBlock n .entry v (p.entryMark ':')
    writeEntries n rest p
  | _, p => p

end

/-- write the block that a document consists of -/
def writeRoot (b : Block) (p : Pen) : Pen :=
  match b with
  | .mapping anchor .mapping items =>
    if items.isEmpty then writeEmpty '\x7b' '\x7d' p else writeEntries 0 items (writeAnchor anchor p)
  | b => writeBlock 0 .entry b p

end Printer

/-- the text of a value as a document -/
def Value.print (v : Value) : Except Fault String := do
  let b ← Printer.Block.ofValue v
  pure ((Printer.writeRoot b .start).indent 0).written

end LinePrompt.Yaml
