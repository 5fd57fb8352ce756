/-
Plain scalars of a YAML text: words without quotes, which may go on over several lines.

A plain scalar ends at a colon with a blank or an end after it, at a comment, at the end of its block, and inside
brackets at any of their indicators. Line breaks inside it are folded.
-/
import LinePrompt.Yaml.Token.Quoted

namespace LinePrompt.Yaml

/-- the indicators of flow collections -/
def isFlowIndicator (c : Char) : Bool := c = ',' || c = '?' || c = '[' || c = ']' || c = '\x7b' || c = '\x7d'

/-- does a colon, with this after it, end a plain scalar? -/
def colonEnds (inFlow : Bool) (after : Option Char) : Bool :=
  endOr (fun c => isWhite c || (inFlow && c != '?' && isFlowIndicator c)) after

/-- the characters of a plain scalar up to the next blank or its end -/
def plainRun (inFlow : Bool) : List Char → List Char
  | [] => []
  | c :: rest =>
    if isWhite c || (c = ':' && colonEnds inFlow rest.head?) || (inFlow && isFlowIndicator c) then []
    else c :: plainRun inFlow rest

/-- can a plain scalar start here? -/
def startsPlain (inFlow : Bool) (c : Cursor) : Bool :=
  match c.peek with
  | none => false
  | some ch =>
    (!isWhite ch && !("-?:,[]\x7b\x7d#&*!|>'\"%@\x60".toList.contains ch)) ||
      (!endsWord (c.peekAt 1) && (ch = '-' || (!inFlow && (ch = '?' || ch = ':'))))

/-- the empty lines inside a plain scalar; none if a mark between documents follows -/
def plainBreaks : Nat → Cursor → Option (List Char) × Cursor
  | 0, c => (some [], c)
  | bound + 1, c =>
    if c.atDocumentMark then (none, c)
    else
      let c := c.skipRun (· = ' ')
      match c.lineBreak? with
      | none => (some [], c)
      | some b =>
        let (bs, c) := plainBreaks bound c.next
        (bs.map (b :: ·), c)

/-- what stands between two words of a plain scalar: the characters it becomes, and whether a line ended -/
structure PlainGap where
  chars : List Char
  broken : Bool
deriving DecidableEq, Repr

/-- the gap after a word. No characters mean that the scalar is over. -/
def plainGap (c : Cursor) : PlainGap × Cursor :=
  let blanks := c.run (· = ' ')
  let c := c.skip blanks.length
  match c.lineBreak? with
  | none => (⟨blanks, false⟩, c)
  | some b =>
    match plainBreaks (c.rest.length + 1) c.next with
    | (none, c) => (⟨[], true⟩, c)
    | (some bs, c) => (⟨fold b bs, true⟩, c)

/-- the words of a plain scalar that starts here, `gap` before them. `indent` is the column of the block around it. The
answer tells also whether a line ended after the last word. -/
def plainWords (inFlow : Bool) (indent : Int) : Nat → PlainGap → Cursor → List Char × Bool × Cursor
  | 0, gap, c => ([], gap.broken, c)
  | bound + 1, gap, c =>
    let word := plainRun inFlow c.rest
    if c.peek = some '#' || word.isEmpty then ([], gap.broken, c)
    else
      let (after, d) := plainGap (c.skip word.length)
      if after.chars.isEmpty || d.peek = some '#' || (!inFlow && (d.column : Int) < indent + 1) then
        (gap.chars ++ word, after.broken, d)
      else
        let (text, broken, e) := plainWords inFlow indent bound after d
        (gap.chars ++ word ++ text, broken, e)

/-- a plain scalar, with whether a line ended after it -/
def readPlain (inFlow : Bool) (indent : Int) (c : Cursor) : Token × Bool × Cursor :=
  let (text, broken, c) := plainWords inFlow indent (c.rest.length + 1) ⟨[], false⟩ c
  (.scalar (String.ofList text) .plain, broken, c)

end LinePrompt.Yaml
