/-
Literal and folded block scalars of a YAML text.

The text is what is indented deeper than the block it belongs to. A literal keeps its lines. In a folded one a line
break between two lines that both start with more than blank space becomes a blank, or nothing when empty lines follow
it. What happens to the breaks at the end the header decides: they are cut to one, all kept, or all taken off.
-/
import LinePrompt.Yaml.Token.Word

namespace LinePrompt.Yaml

/-- what happens to the line breaks at the end -/
inductive Chomping where
  | clip
  | keep
  | strip
deriving DecidableEq, Repr

/-- the header of a block scalar -/
structure BlockHeader where
  chomping : Chomping
  /-- the indentation, if the header says so -/
  increment : Option Nat
deriving DecidableEq, Repr

def chompingOf? : Option Char → Option Chomping
  | some '+' => some .keep
  | some '-' => some .strip
  | _ => none

/-- an indentation digit; zero is none -/
def incrementOf (c : Option Char) : Except Fault (Option Nat) :=
  match c with
  | some d => if d.isDigit then (if d = '0' then .error .unreadable else .ok (some (d.toNat - 48))) else .ok none
  | none => .ok none

/-- the indicators after the mark, in either order -/
def readHeader (c : Cursor) : Except Fault (BlockHeader × Cursor) := do
  let (header, c) ← (
    match chompingOf? c.peek with
    | some chomping => do
      let increment ← incrementOf c.next.peek
      pure (⟨chomping, increment⟩, if increment.isSome then c.skip 2 else c.next)
    | none => do
      let increment ← incrementOf c.peek
      let c := if increment.isSome then c.next else c
      match increment, chompingOf? c.peek with
      | some _, some chomping => pure (⟨chomping, increment⟩, c.next)
      | _, _ => pure (⟨.clip, increment⟩, c) : Except Fault (BlockHeader × Cursor))
  require (endsIndicator c.peek)
  pure (header, c)

/-- blanks up to a column -/
def skipIndent (column : Nat) (c : Cursor) : Cursor :=
  c.skip (min (column - c.column) (c.run (· = ' ')).length)

/-- empty lines, given the indentation of the text -/
def blockBreaks (indent : Nat) : Nat → Cursor → List Char × Cursor
  | 0, c => ([], c)
  | bound + 1, c =>
    let c := skipIndent indent c
    match c.lineBreak? with
    | none => ([], c)
    | some b =>
      let (bs, c) := blockBreaks indent bound c.next
      (b :: bs, c)

/-- the empty lines before a text whose indentation is not given, with the widest of them and of its first line -/
def leadingBreaks : Nat → Nat → Cursor → List Char × Nat × Cursor
  | 0, widest, c => ([], widest, c)
  | bound + 1, widest, c =>
    let c := c.skipRun (· = ' ')
    let widest := max widest c.column
    match c.lineBreak? with
    | none => ([], widest, c)
    | some b =>
      let (bs, widest, c) := leadingBreaks bound widest c.next
      (b :: bs, widest, c)

/-- does the line start with more than blank space? -/
def startsSolid (c : Cursor) : Bool := c.peek != some ' ' && c.peek != some '\t'

/-- the lines of the text: their characters and the breaks after the last one, which the header decides about.
`before` are the empty lines in front. -/
def blockLines (folded : Bool) (indent : Nat) : Nat → List Char → Cursor → List Char × List Char × Cursor
  | 0, _, c => ([], [], c)
  | bound + 1, before, c =>
    if c.column = indent && !c.rest.isEmpty then
      let solid := startsSolid c
      let line := c.run fun ch => !isBreak ch
      let c := c.skip line.length
      let lineBreak := c.lineBreak?.toList
      let c := if lineBreak.isEmpty then c else c.next
      let (breaks, c) := blockBreaks indent c.rest.length c
      if c.column = indent && !c.rest.isEmpty then
        let joint :=
          if folded && lineBreak == ['\n'] && solid && startsSolid c then (if breaks.isEmpty then [' '] else [])
          else lineBreak
        let (text, tail, c) := blockLines folded indent bound breaks c
        (before ++ line ++ joint ++ text, tail, c)
      else (before ++ line, lineBreak ++ breaks, c)
    else ([], before, c)

/-- the breaks at the end, as the header wants them. `isEmpty` says that the text has no line. -/
def chomp (chomping : Chomping) (isEmpty : Bool) (tail : List Char) : List Char :=
  match chomping with
  | .strip => []
  | .clip => if isEmpty then [] else tail.take 1
  | .keep => tail

/-- a block scalar inside a block at column `indent`, from its mark on -/
def readBlock (indent : Int) (c : Cursor) : Except Fault (Token × Cursor) := do
  let folded := c.peek == some '>'
  let (header, c) ← readHeader c.next
  let c ← skipRestOfLine c
  let least := (max (indent + 1) 1).toNat
  let (column, before, c) :=
    match header.increment with
    | none =>
      let (bs, widest, c) := leadingBreaks (c.rest.length + 1) 0 c
      (max least widest, bs, c)
    | some n =>
      let column := least + n - 1
      let (bs, c) := blockBreaks column (c.rest.length + 1) c
      (column, bs, c)
  let isEmpty := !(c.column = column && !c.rest.isEmpty)
  let (text, tail, c) := blockLines folded column (c.rest.length + 1) before c
  let style := if folded then Style.folded else Style.literal
  pure (.scalar (String.ofList (text ++ chomp header.chomping isEmpty tail)) style, c)

end LinePrompt.Yaml
