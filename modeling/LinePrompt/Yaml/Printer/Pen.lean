/-
A pen that writes a YAML text from left to right.

It knows the column it stands at, whether the next word needs a blank in front, and whether the line holds nothing yet
but indentation and the marks of entries. Nothing written is ever taken back.
-/
namespace LinePrompt.Yaml.Printer

structure Pen where
  /-- what was written, last character first -/
  ink : List Char
  column : Nat
  /-- a word can follow without a blank in front -/
  spaced : Bool
  /-- the line holds only indentation and marks of entries -/
  fresh : Bool
deriving DecidableEq, Repr

namespace Pen

def start : Pen := ⟨[], 0, true, true⟩

def written (p : Pen) : String := String.ofList p.ink.reverse

/-- write characters of the current line -/
def put (p : Pen) (cs : List Char) : Pen := { p with ink := cs.reverse ++ p.ink, column := p.column + cs.length }

def breakLine (p : Pen) : Pen := ⟨'\n' :: p.ink, 0, true, true⟩

/-- blanks up to a column -/
def pad (p : Pen) (n : Nat) : Pen :=
  if p.column < n then { p.put (List.replicate (n - p.column) ' ') with spaced := true } else p

/-- start a line at a column, unless the pen stands there with nothing written on the line -/
def indent (p : Pen) (n : Nat) : Pen :=
  if !p.fresh || n < p.column || (p.column == n && !p.spaced) then p.breakLine.pad n else p.pad n

/-- write a mark or a name, set apart by a blank -/
def mark (p : Pen) (cs : List Char) : Pen :=
  { p.put (if p.spaced then cs else ' ' :: cs) with spaced := false, fresh := false }

/-- write the mark of an entry: an entry inside it can follow on the same line -/
def entryMark (p : Pen) (c : Char) : Pen :=
  { p.put (if p.spaced then [c] else [' ', c]) with spaced := false }

/-- write characters right behind what stands there -/
def attach (p : Pen) (cs : List Char) : Pen := { p.put cs with spaced := false, fresh := false }

end Pen

end LinePrompt.Yaml.Printer
