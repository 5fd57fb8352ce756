/-
The one-line field of a prompt's dialog: a text, a caret and a selection between the caret and its anchor.
-/
namespace LinePrompt.Screen

/-- a line of text under edit -/
structure Field where
  chars : List Char
  caret : Nat
  /-- the other end of the selection; equal to the caret when nothing is selected -/
  anchor : Nat
deriving DecidableEq, Repr

/-- what a key does to the field -/
inductive Edit where
  | insert (c : Char)
  | left
  | right
  | home
  | goEnd
  | backspace
  | delete
deriving DecidableEq, Repr

namespace Field

/-- a field with a text and its caret at `caret`, or at the end if that is beyond it -/
def ofText (text : String) (caret : Nat) : Field :=
  let chars := text.toList
  let caret := min caret chars.length
  ⟨chars, caret, caret⟩

def text (f : Field) : String := String.ofList f.chars

/-- first selected position -/
def first (f : Field) : Nat := min f.caret f.anchor

/-- position after the last selected character -/
def last (f : Field) : Nat := max f.caret f.anchor

/-- the caret alone at a position -/
def moveTo (f : Field) (i : Nat) : Field := { f with caret := i, anchor := i }

/-- the characters between two positions replaced, the caret after the new ones -/
def replace (f : Field) (i j : Nat) (new : List Char) : Field :=
  ⟨f.chars.take i ++ new ++ f.chars.drop j, i + new.length, i + new.length⟩

def selectAll (f : Field) : Field := { f with caret := f.chars.length, anchor := 0 }

/-- the field as it is found again on a screen that comes back to the top: the caret stays, the selection goes -/
def deselect (f : Field) : Field := { f with anchor := f.caret }

/-- one edit -/
def edit (f : Field) : Edit → Field
  | .insert c => f.replace f.first f.last [c]
  | .left => f.moveTo (if f.caret = f.anchor then f.caret - 1 else f.first)
  | .right => f.moveTo (if f.caret = f.anchor then min (f.caret + 1) f.chars.length else f.last)
  | .home => f.moveTo 0
  | .goEnd => f.moveTo f.chars.length
  | .backspace => if f.caret = f.anchor then f.replace (f.caret - 1) f.caret [] else f.replace f.first f.last []
  | .delete => if f.caret = f.anchor then f.replace f.caret (f.caret + 1) [] else f.replace f.first f.last []

/-- the whole text replaced from outside: a caret at the end stays at the end, any other stays where it can -/
def setText (f : Field) (text : String) : Field :=
  let chars := text.toList
  if f.caret = f.chars.length then ⟨chars, chars.length, chars.length⟩
  else ⟨chars, min f.caret chars.length, min f.anchor chars.length⟩

end Field

end LinePrompt.Screen
