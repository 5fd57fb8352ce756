/-
Quoted scalars of a YAML text.

Between single quotes a doubled quote stands for one and nothing else is special. Between double quotes a backslash
starts an escape. In both a line break with the blanks around it is folded: into a blank, or, when lines are empty,
into their breaks.
-/
import LinePrompt.Yaml.Token.Word

namespace LinePrompt.Yaml

/-- what an escape of one letter stands for -/
def simpleEscape? : Char → Option Char
  | '0' => some '\x00'
  | 'a' => some '\x07'
  | 'b' => some '\x08'
  | 't' => some '\t'
  | '\t' => some '\t'
  | 'n' => some '\n'
  | 'v' => some '\x0b'
  | 'f' => some '\x0c'
  | 'r' => some '\r'
  | 'e' => some '\x1b'
  | ' ' => some ' '
  | '"' => some '"'
  | '\\' => some '\\'
  | '/' => some '/'
  | 'N' => some '\u0085'
  | '_' => some '\u00a0'
  | 'L' => some '\u2028'
  | 'P' => some '\u2029'
  | _ => none

/-- how many hexadecimal digits follow an escape letter -/
def escapeWidth? : Char → Option Nat
  | 'x' => some 2
  | 'u' => some 4
  | 'U' => some 8
  | _ => none

/-- the character with a code -/
def charOfCode (n : Nat) : Except Fault Char :=
  if h : n.isValidChar then .ok (Char.ofNatAux n h)
  else if n < 0x110000 then .error .unreadable
  else .error (.badCode n)

/-- empty lines in a folded text, with the blanks at the beginning of the line after them; a mark between documents
may not stand there -/
def foldedBreaks : Nat → Cursor → Except Fault (List Char × Cursor)
  | 0, c => .ok ([], c)
  | bound + 1, c =>
    if c.atDocumentMark then .error .unreadable
    else
      let c := c.skipRun fun ch => ch = ' ' || ch = '\t'
      match c.lineBreak? with
      | none => .ok ([], c)
      | some b => (foldedBreaks bound c.next).map fun (bs, c) => (b :: bs, c)

/-- what a line break and the empty lines after it become -/
def fold (lineBreak : Char) (breaks : List Char) : List Char :=
  if lineBreak != '\n' then lineBreak :: breaks else if breaks.isEmpty then [' '] else breaks

/-- blanks inside a quoted text: kept, or folded with the line break after them -/
def quotedBlanks (c : Cursor) : Except Fault (List Char × Cursor) :=
  let blanks := c.run fun ch => ch = ' ' || ch = '\t'
  let c := c.skip blanks.length
  match c.lineBreak? with
  | some b => (foldedBreaks c.rest.length c.next).map fun (bs, c) => (fold b bs, c)
  | none => if c.rest.isEmpty then .error .unreadable else .ok (blanks, c)

/-- an escape, its backslash already read -/
def readEscape (c : Cursor) : Except Fault (List Char × Cursor) :=
  match c.peek with
  | none => .error .unreadable
  | some ch =>
    match simpleEscape? ch with
    | some r => .ok ([r], c.next)
    | none =>
      match escapeWidth? ch with
      | some width => do
        let digits := c.next.rest.take width
        require (digits.length = width)
        match Text.hexNumber? digits with
        | none => .error .unreadable
        | some n =>
          let r ← charOfCode n
          pure ([r], c.next.skip width)
      | none =>
        if isBreak ch then foldedBreaks c.rest.length c.next else .error .unreadable

/-- the inside of a text between single quotes, and the place after the closing one -/
def singleBody : Nat → Cursor → Except Fault (List Char × Cursor)
  | 0, _ => .error .unreadable
  | bound + 1, c =>
    match c.rest with
    | [] => .error .unreadable
    | ch :: rest =>
      if ch = '\x27' then
        if rest.head? = some '\x27' then (singleBody bound (c.skip 2)).map fun (s, c) => (ch :: s, c)
        else .ok ([], c.next)
      else if isWhite ch then do
        let (blanks, c) ← quotedBlanks c
        let (s, c) ← singleBody bound c
        pure (blanks ++ s, c)
      else (singleBody bound c.next).map fun (s, c) => (ch :: s, c)

/-- the inside of a text between double quotes, and the place after the closing one -/
def doubleBody : Nat → Cursor → Except Fault (List Char × Cursor)
  | 0, _ => .error .unreadable
  | bound + 1, c =>
    match c.rest with
    | [] => .error .unreadable
    | ch :: _ =>
      if ch = '"' then .ok ([], c.next)
      else if ch = '\\' then do
        let (escaped, c) ← readEscape c.next
        let (s, c) ← doubleBody bound c
        pure (escaped ++ s, c)
      else if isWhite ch then do
        let (blanks, c) ← quotedBlanks c
        let (s, c) ← doubleBody bound c
        pure (blanks ++ s, c)
      else (doubleBody bound c.next).map fun (s, c) => (ch :: s, c)

/-- a quoted scalar, from its opening quote on -/
def readQuoted (c : Cursor) : Except Fault (Token × Cursor) :=
  if c.peek = some '"' then
    (doubleBody c.rest.length c.next).map fun (s, c) => (.scalar (String.ofList s) .double, c)
  else (singleBody c.rest.length c.next).map fun (s, c) => (.scalar (String.ofList s) .single, c)

end LinePrompt.Yaml
