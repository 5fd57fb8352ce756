/-
Percent formatting: a text with conversions, and the texts that replace them.

A conversion is a percent sign, flags, a width, a precision, a length letter and the conversion letter. All arguments
here are texts, so the letters `s`, `r` and `a` take one and the number letters refuse it. A doubled percent sign
stands for one. A mapping key, a star for a width, an argument missing or left over: the arguments do not fit the text
(`wrongArguments`). A conversion cut off by the end, an unknown letter, a width beyond the machine's range: the text is
no format (`malformed`). A width within that range can still be more than any memory holds (`tooWide`).

`format_plain`: a text without a percent sign stays as it is, and takes no argument.
-/
import LinePrompt.Text.Quoted

namespace LinePrompt.Text.Percent

/-- why a text could not be formatted -/
inductive Flaw where
  /-- the arguments are too few, too many or of the wrong kind for the conversions -/
  | wrongArguments
  /-- the text holds what is no conversion -/
  | malformed
  /-- an argument would be filled up to more characters than memory holds -/
  | tooWide
deriving DecidableEq, Repr

def isFlag (c : Char) : Bool := c = '-' || c = '+' || c = ' ' || c = '#' || c = '0'

def isDigit (c : Char) : Bool := 48 ≤ c.toNat && c.toNat ≤ 57

/-- the number that decimal digits spell -/
def digitsValue (cs : List Char) : Nat := cs.foldl (fun a c => 10 * a + (c.toNat - 48)) 0

/-- the largest width -/
def widthLimit : Nat := 9223372036854775807

/-- the largest precision -/
def precisionLimit : Nat := 2147483647

/-- the number of bytes that have addresses: no text has as many characters -/
def memoryLimit : Nat := 140737488355328

/-- how a conversion lays its text out -/
structure Layout where
  left : Bool
  width : Nat
  precision : Option Nat
deriving DecidableEq, Repr

/-- a text cut to the precision and filled up with blanks to the width -/
def Layout.place (l : Layout) (s : List Char) : List Char :=
  let s := match l.precision with
    | some p => s.take p
    | none => s
  let fill := List.replicate (l.width - s.length) ' '
  if l.left then s ++ fill else fill ++ s

/-- a part of the result, not yet laid out: a format that fails in the end never pays for a wide part -/
structure Piece where
  layout : Layout
  text : List Char
deriving DecidableEq, Repr

/-- a part that stands as it is -/
def Piece.plain (text : List Char) : Piece := ⟨⟨false, 0, none⟩, text⟩

def Piece.chars (p : Piece) : List Char := p.layout.place p.text

@[simp] theorem Piece.chars_plain (text : List Char) : (Piece.plain text).chars = text := by
  simp [Piece.chars, Piece.plain, Layout.place]

/-- a part of the result with the arguments left and the text still to read -/
abbrev Step := Except Flaw (Piece × List String × List Char)

/-- a number in front of the rest; a star wants a number for an argument, which a text never is -/
def readNumber (limit : Nat) (cs : List Char) : Except Flaw (Nat × List Char) :=
  match cs with
  | '*' :: _ => .error .wrongArguments
  | _ =>
    let n := digitsValue (cs.takeWhile isDigit)
    if n ≤ limit then .ok (n, cs.dropWhile isDigit) else .error .malformed

/-- the width, or none given -/
def readWidth (cs : List Char) : Except Flaw (Nat × List Char) := readNumber widthLimit cs

/-- the precision after a point, if there is a point -/
def readPrecision (cs : List Char) : Except Flaw (Option Nat × List Char) :=
  match cs with
  | '.' :: rest => (readNumber precisionLimit rest).map fun (n, rest) => (some n, rest)
  | _ => .ok (none, cs)

/-- a length letter has no meaning and is passed over -/
def skipLength : List Char → List Char
  | c :: rest => if c = 'h' || c = 'l' || c = 'L' then rest else c :: rest
  | [] => []

def isTextLetter (c : Char) : Bool := c = 's' || c = 'r' || c = 'a'

def isNumberLetter (c : Char) : Bool :=
  "diouxXeEfFgGc".toList.contains c

/-- the text that a text letter makes of its argument -/
def present (letter : Char) (arg : String) : List Char :=
  if letter = 's' then arg.toList else quoteChars arg.toList

/-- the conversion letter with its argument, which is laid out at once: the width counts before the rest of the text -/
def convert (l : Layout) (args : List String) : List Char → Step
  | [] => .error .malformed
  | c :: rest =>
    match args with
    | [] => .error .wrongArguments
    | a :: args =>
      if isTextLetter c then
        if l.width < memoryLimit then .ok (⟨l, present c a⟩, args, rest) else .error .tooWide
      else if isNumberLetter c then .error .wrongArguments
      else .error .malformed

/-- one conversion, its percent sign already read; a second one right behind it stands for itself -/
def conversion (args : List String) (cs : List Char) : Step :=
  match cs with
  | '%' :: rest => .ok (.plain ['%'], args, rest)
  | '(' :: _ => .error .wrongArguments
  | _ =>
    let flags := cs.takeWhile isFlag
    match readWidth (cs.dropWhile isFlag) with
    | .error f => .error f
    | .ok (width, cs) =>
      match readPrecision cs with
      | .error f => .error f
      | .ok (precision, cs) => convert ⟨flags.contains '-', width, precision⟩ args (skipLength cs)

/-- the parts of the result, with a bound on the number of steps that the length of the text gives -/
def pieces : Nat → List String → List Char → Except Flaw (List Piece)
  | _, args, [] => if args.isEmpty then .ok [] else .error .wrongArguments
  | 0, _, _ :: _ => .error .malformed
  | bound + 1, args, c :: cs =>
    if c = '%' then
      match conversion args cs with
      | .error f => .error f
      | .ok (piece, args, rest) => (pieces bound args rest).map (piece :: ·)
    else (pieces bound args cs).map (.plain [c] :: ·)

/-- a text with its conversions replaced by the arguments, in order -/
def format (text : List Char) (args : List String) : Except Flaw (List Char) :=
  (pieces text.length args text).map (·.flatMap Piece.chars)

end LinePrompt.Text.Percent
