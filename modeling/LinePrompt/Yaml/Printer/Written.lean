/-
The written forms of scalars.

Bare scalars and those between apostrophes are folded at a lone blank past column 80: the blank becomes a line break.
Between apostrophes a line feed is written as a break with an empty line. Between double quotes a line is broken by a
backslash, and a blank that would start the next line gets one as well.
-/
import LinePrompt.Text.Hex
import LinePrompt.Yaml.Printer.Form
import LinePrompt.Yaml.Printer.Pen

namespace LinePrompt.Yaml.Printer

/-- the column past which lines are folded -/
def foldColumn : Nat := 80

/-! ## Bare, and between apostrophes -/

/-- a run of characters of one kind -/
inductive Run where
  | word (cs : List Char)
  | blanks (n : Nat)
  | breaks (n : Nat)
deriving DecidableEq, Repr

/-- a character put in front of runs -/
def Run.cons (c : Char) (runs : List Run) : List Run :=
  if c = ' ' then
    match runs with
    | .blanks n :: rest => .blanks (n + 1) :: rest
    | _ => .blanks 1 :: runs
  else if c = '\n' then
    match runs with
    | .breaks n :: rest => .breaks (n + 1) :: rest
    | _ => .breaks 1 :: runs
  else
    match runs with
    | .word cs :: rest => .word (c :: cs) :: rest
    | _ => .word [c] :: runs

/-- the runs that make up a text -/
def Run.split (cs : List Char) : List Run := cs.foldr Run.cons []

/-- several line feeds -/
def breakLines : Nat → Pen → Pen
  | 0, p => p
  | n + 1, p => breakLines n p.breakLine

/-- write runs, in lines that start at column `n`; `folds` says whether a blank may be folded, `first` whether nothing
of the text stands yet -/
def writeRuns (n : Nat) (folds : Bool) (spell : List Char → List Char) : Bool → List Run → Pen → Pen
  | _, [], p => p
  | first, .word cs :: rest, p => writeRuns n folds spell (first && cs.isEmpty) rest (p.put (spell cs))
  | first, .blanks k :: rest, p =>
    let p :=
      if k = 1 && folds && foldColumn < p.column && !first && !rest.isEmpty then p.indent n
      else p.put (List.replicate k ' ')
    writeRuns n folds spell false rest p
  | _, .breaks k :: rest, p => writeRuns n folds spell false rest ((breakLines (k + 1) p).indent n)

/-- a bare scalar -/
def writePlain (n : Nat) (folds : Bool) (cs : List Char) (p : Pen) : Pen :=
  (writeRuns n folds id true (Run.split cs) (p.mark [])).attach []

/-- an apostrophe is written twice -/
def doubled (cs : List Char) : List Char := cs.flatMap fun c => if c = '\x27' then ['\x27', '\x27'] else [c]

def writeSingle (n : Nat) (folds : Bool) (cs : List Char) (p : Pen) : Pen :=
  (writeRuns n folds doubled true (Run.split cs) (p.mark ['\x27'])).attach ['\x27']

/-! ## Between double quotes -/

/-- the letter that stands for a character behind a backslash -/
def escapeLetter? (c : Char) : Option Char :=
  match c.toNat with
  | 0x00 => some '0'
  | 0x07 => some 'a'
  | 0x08 => some 'b'
  | 0x09 => some 't'
  | 0x0A => some 'n'
  | 0x0B => some 'v'
  | 0x0C => some 'f'
  | 0x0D => some 'r'
  | 0x1B => some 'e'
  | 0x22 => some '"'
  | 0x5C => some '\\'
  | 0x85 => some 'N'
  | 0xA0 => some '_'
  | 0x2028 => some 'L'
  | 0x2029 => some 'P'
  | _ => none

/-- a character by its code, in the shortest of three widths -/
def codeForm (c : Char) : List Char :=
  let n := c.toNat
  if n < 0x100 then 'x' :: Text.hexDigitsUpper 2 n
  else if n < 0x10000 then 'u' :: Text.hexDigitsUpper 4 n
  else 'U' :: Text.hexDigitsUpper 8 n

/-- how a character is escaped, none if it stands for itself -/
def escape? (c : Char) : Option (List Char) :=
  match escapeLetter? c with
  | some letter => some ['\\', letter]
  | none => if isPlainAscii c then none else some ('\\' :: codeForm c)

/-- break the line in front of a text that starts with `next` -/
def foldLine (n : Nat) (next : Option Char) (p : Pen) : Pen :=
  let p := { (p.put ['\\']).indent n with spaced := false, fresh := false }
  if next = some ' ' then p.put ['\\'] else p

/-- Write characters, in lines that start at column `n`. A line is broken in front of a blank or of what follows an
escape, never next to the first or the last character; `escaped` says whether an escape stands right in front. -/
def writeEscaped (n : Nat) (folds : Bool) : Bool → Bool → List Char → Pen → Pen
  | _, _, [], p => p
  | first, escaped, c :: rest, p =>
    let inner := folds && !first && !rest.isEmpty
    match escape? c with
    | some form =>
      let p := p.put form
      let p := if inner && foldColumn + 1 < p.column then foldLine n rest.head? p else p
      writeEscaped n folds false true rest p
    | none =>
      let p := if inner && (c = ' ' || escaped) && foldColumn < p.column then foldLine n (some c) p else p
      writeEscaped n folds false false rest (p.put [c])

def writeDouble (n : Nat) (folds : Bool) (cs : List Char) (p : Pen) : Pen :=
  (writeEscaped n folds true false cs (p.mark ['"'])).attach ['"']

/-! ## In lines of their own -/

/-- Lines as they are, each from column `n` on; for texts that end in a line feed and have no empty line. -/
def writeLines (n : Nat) (cs : List Char) (p : Pen) : Pen :=
  (Run.split cs).foldl (fun p run =>
    match run with
    | .word cs => (p.indent n).put cs
    | .blanks k => p.put (List.replicate k ' ')
    | .breaks k => breakLines k p) ((p.mark ['|']).breakLine)

/-! ## All forms -/

/-- a scalar in a given form -/
def writeScalar (n : Nat) (folds : Bool) (style : Style) (cs : List Char) (p : Pen) : Pen :=
  match style with
  | .plain => writePlain n folds cs p
  | .single => writeSingle n folds cs p
  | .literal => writeLines n cs p
  | _ => writeDouble n folds cs p

end LinePrompt.Yaml.Printer
