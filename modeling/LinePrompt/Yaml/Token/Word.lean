/-
Names, tags, directives and the like: the tokens of a YAML text that are one word, or a few on a line.

Every reader takes the place where its token starts and gives what it read and the place after it.
-/
import LinePrompt.Decimal.Numeral
import LinePrompt.Text.Hex
import LinePrompt.Yaml.Cursor
import LinePrompt.Yaml.Token

namespace LinePrompt.Yaml

/-- go on if a condition holds; the text is unreadable if not -/
def require (b : Bool) : Except Fault Unit := if b then .ok () else .error .unreadable

/-- past a comment, if there is one -/
def skipComment (c : Cursor) : Cursor :=
  if c.peek = some '#' then c.skipRun fun ch => !isBreak ch else c

/-- past the rest of a line that may hold blanks and a comment alone -/
def skipRestOfLine (c : Cursor) : Except Fault Cursor := do
  let c := skipComment (c.skipRun (· = ' '))
  require (endsLine c.peek)
  pure (if c.lineBreak?.isSome then c.next else c)

/-! ## Anchors and aliases -/

/-- what may follow the name of an anchor or alias -/
def endsAnchor (c : Option Char) : Bool := endOr (fun c => isWhite c || "?:,]\x7d%@\x60".toList.contains c) c

/-- the name after the mark of an anchor or alias -/
def readAnchor (c : Cursor) : Except Fault (String × Cursor) := do
  let c := c.next
  let name := c.run isNameChar
  let c := c.skip name.length
  require (!name.isEmpty && endsAnchor c.peek)
  pure (String.ofList name, c)

/-! ## Tags -/

def isUriChar (c : Char) : Bool :=
  c.isAlphanum || "-;/?:@&=+$,_.!~*'()[]".toList.contains c

/-- one byte written as a percent sign and two hexadecimal digits -/
def escapedByte? (cs : List Char) : Option (UInt8 × List Char) :=
  match cs with
  | '%' :: a :: b :: rest => (Text.hexNumber? [a, b]).map fun n => (n.toUInt8, rest)
  | _ => none

/-- bytes in front that are written as escapes; none if an escape is broken -/
def escapedBytes : Nat → List Char → Option (List UInt8 × List Char)
  | 0, cs => some ([], cs)
  | bound + 1, cs =>
    match cs with
    | '%' :: _ =>
      match escapedByte? cs with
      | none => none
      | some (b, rest) => (escapedBytes bound rest).map fun (bs, rest) => (b :: bs, rest)
    | _ => some ([], cs)

/-- the characters of a tag, escapes read as UTF-8 -/
def uriChars : Nat → List Char → Except Fault (List Char × List Char)
  | 0, cs => .ok ([], cs)
  | _ + 1, [] => .ok ([], [])
  | bound + 1, c :: rest =>
    if c = '%' then
      match escapedBytes (rest.length + 1) (c :: rest) with
      | none => .error .unreadable
      | some (bytes, rest) =>
        match String.fromUTF8? ⟨bytes.toArray⟩ with
        | none => .error .unreadable
        | some s => (uriChars bound rest).map fun (text, rest) => (s.toList ++ text, rest)
    else if isUriChar c then (uriChars bound rest).map fun (text, rest) => (c :: text, rest)
    else .ok ([], c :: rest)

def readUri (c : Cursor) : Except Fault (String × Cursor) := do
  let (text, rest) ← uriChars (c.rest.length + 1) c.rest
  let used := c.rest.length - rest.length
  require (0 < used)
  pure (String.ofList text, c.skip used)

/-- a tag handle: an exclamation mark, or a name between two -/
def readHandle (c : Cursor) : Except Fault (String × Cursor) := do
  require (c.peek = some '!')
  if c.peekAt 1 = some ' ' then pure ("!", c.next)
  else
    let name := c.next.run isNameChar
    require (c.peekAt (name.length + 1) = some '!')
    pure (String.ofList ('!' :: name ++ ['!']), c.skip (name.length + 2))

/-- does another exclamation mark stand in the word? -/
def hasSecondMark (c : Cursor) : Bool :=
  let between := c.next.run fun ch => ch != '!' && ch != ' ' && !isBreak ch
  c.peekAt (between.length + 1) = some '!'

/-- a tag: in full between angle brackets, an exclamation mark alone, or a handle and a suffix -/
def readTag (c : Cursor) : Except Fault (TagName × Cursor) := do
  let (name, c) ← (
    if c.peekAt 1 = some '<' then do
      let (suffix, c) ← readUri (c.skip 2)
      require (c.peek = some '>')
      pure (⟨none, suffix⟩, c.next)
    else if endsWord (c.peekAt 1) then pure (⟨none, "!"⟩, c.next)
    else if hasSecondMark c then do
      let (handle, c) ← readHandle c
      let (suffix, c) ← readUri c
      pure (⟨some handle, suffix⟩, c)
    else do
      let (suffix, c) ← readUri c.next
      pure (⟨some "!", suffix⟩, c) : Except Fault (TagName × Cursor))
  require (endsIndicator c.peek)
  pure (name, c)

/-! ## Directives -/

def readNumber (c : Cursor) : Except Fault (Nat × Cursor) := do
  let digits := c.run Char.isDigit
  require (!digits.isEmpty)
  if Decimal.digitLimit < digits.length then throw (.longInt digits.length)
  pure (digits.foldl (fun n d => 10 * n + (d.toNat - 48)) 0, c.skip digits.length)

/-- the two numbers of a version -/
def readVersion (c : Cursor) : Except Fault (Token × Cursor) := do
  let (major, c) ← readNumber (c.skipRun (· = ' '))
  require (c.peek = some '.')
  let (minor, c) ← readNumber c.next
  require (endsIndicator c.peek)
  pure (.versionDirective major minor, c)

/-- a handle and what it stands for -/
def readTagDirective (c : Cursor) : Except Fault (Token × Cursor) := do
  let (handle, c) ← readHandle (c.skipRun (· = ' '))
  require (c.peek = some ' ')
  let (replacement, c) ← readUri (c.skipRun (· = ' '))
  require (endsIndicator c.peek)
  pure (.tagDirective handle replacement, c)

/-- a directive with the rest of its line -/
def readDirective (c : Cursor) : Except Fault (Token × Cursor) := do
  let c := c.next
  let name := c.run isNameChar
  let c := c.skip name.length
  require (!name.isEmpty && endsIndicator c.peek)
  let (token, c) ← (
    if name = "YAML".toList then readVersion c
    else if name = "TAG".toList then readTagDirective c
    else pure (.otherDirective, c.skipRun fun ch => !isBreak ch) : Except Fault (Token × Cursor))
  let c ← skipRestOfLine c
  pure (token, c)

end LinePrompt.Yaml
