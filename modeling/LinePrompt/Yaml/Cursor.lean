/-
A place in a YAML text: what is still to read, and how far in, how far down and how far right it stands.

The text has its line ends already turned into line feeds; next line, line separator and paragraph separator break
lines as well. A byte order mark takes no column.
-/
namespace LinePrompt.Yaml

/-! ## Classes of characters -/

def isBreak (c : Char) : Bool := c = '\n' || c = '\u0085' || c = '\u2028' || c = '\u2029'

/-- blank, tab or break -/
def isWhite (c : Char) : Bool := c = ' ' || c = '\t' || isBreak c

/-- the end of the text, or a character of a class, stands here -/
def endOr (p : Char → Bool) : Option Char → Bool
  | none => true
  | some c => p c

/-- end, blank, tab or break -/
def endsWord (c : Option Char) : Bool := endOr isWhite c

/-- end or break -/
def endsLine (c : Option Char) : Bool := endOr isBreak c

/-- end, blank or break, but no tab -/
def endsIndicator (c : Option Char) : Bool := endOr (fun c => c = ' ' || isBreak c) c

/-- letters, digits, hyphen and low line -/
def isNameChar (c : Char) : Bool := c.isAlphanum || c = '-' || c = '_'

/-- may the character stand in a YAML text at all? -/
def isAllowed (c : Char) : Bool :=
  let n := c.toNat
  n = 9 || n = 10 || n = 13 || (0x20 ≤ n && n ≤ 0x7E) || n = 0x85 || (0xA0 ≤ n && n ≤ 0xD7FF) ||
    (0xE000 ≤ n && n ≤ 0xFFFD) || 0x10000 ≤ n

/-! ## Places -/

structure Cursor where
  rest : List Char
  index : Nat
  line : Nat
  column : Nat
deriving DecidableEq, Repr

namespace Cursor

/-- the beginning of a text -/
def start (text : List Char) : Cursor := ⟨text, 0, 0, 0⟩

def peek (c : Cursor) : Option Char := c.rest.head?

/-- the character `n` places further on -/
def peekAt (c : Cursor) (n : Nat) : Option Char := c.rest[n]?

/-- past one character -/
def next (c : Cursor) : Cursor :=
  match c.rest with
  | [] => c
  | ch :: rest =>
    if isBreak ch then ⟨rest, c.index + 1, c.line + 1, 0⟩
    else if ch = '\ufeff' then ⟨rest, c.index + 1, c.line, c.column⟩
    else ⟨rest, c.index + 1, c.line, c.column + 1⟩

/-- past `n` characters -/
def skip : Nat → Cursor → Cursor
  | 0, c => c
  | n + 1, c => skip n c.next

/-- the characters in front that satisfy a test -/
def run (c : Cursor) (p : Char → Bool) : List Char := c.rest.takeWhile p

/-- past the characters in front that satisfy a test -/
def skipRun (c : Cursor) (p : Char → Bool) : Cursor := c.skip (c.run p).length

/-- does a given text stand here? -/
def startsWith (c : Cursor) (s : List Char) : Bool := s.isPrefixOf c.rest

/-- the line break here as it counts in a text: one that is not a separator of its own counts as a line feed -/
def lineBreak? (c : Cursor) : Option Char :=
  match c.peek with
  | some '\n' => some '\n'
  | some '\u0085' => some '\n'
  | some '\u2028' => some '\u2028'
  | some '\u2029' => some '\u2029'
  | _ => none

/-- three hyphens or three points with nothing attached: the mark between documents -/
def atDocumentMark (c : Cursor) : Bool :=
  (c.startsWith ['-', '-', '-'] || c.startsWith ['.', '.', '.']) && endsWord (c.peekAt 3)

theorem next_length (c : Cursor) : c.next.rest.length = c.rest.length - 1 := by
  unfold next
  split
  · simp_all
  · rename_i h
    rw [h]
    split
    · simp
    · split <;> simp

theorem skip_rest (n : Nat) (c : Cursor) : (skip n c).rest = c.rest.drop n := by
  induction n generalizing c with
  | zero => rfl
  | succ n ih =>
    rw [skip, ih]
    unfold next
    split
    · simp_all
    · rename_i h
      rw [h]
      split
      · simp
      · split <;> simp

end Cursor

end LinePrompt.Yaml
