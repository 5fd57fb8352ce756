/-
Paths as they are written, and the places they are written for.

A path is kept without empty parts and without points that stand for no step; two points are kept, because what they
step back from is known only where the path is followed. Two slashes in front are not the same as one, three or more
are. A location is what a path leads to: the names from a directory up to the root.
-/
namespace LinePrompt.Files

/-- where a path starts -/
inductive Origin where
  | here
  | root
  | doubleRoot
deriving DecidableEq, Repr

structure Path where
  origin : Origin
  parts : List String
deriving DecidableEq, Repr

/-- a place in the tree of files: its name, then its directory's name, up to the root -/
abbrev Location := List String

/-- a location and those above it, without the root -/
def Location.upward (l : Location) : List Location := (List.range l.length).map fun n => l.drop n

/-- the step to the directory above -/
def up : String := ".."

namespace Path

/-- the parts of a path's text that are steps -/
def steps (s : String) : List String := (s.splitOn "/").filter fun p => p != "" && p != "."

def ofText (s : String) : Path :=
  let slashes := (s.toList.takeWhile (· = '/')).length
  ⟨if slashes = 0 then .here else if slashes = 2 then .doubleRoot else .root, steps s⟩

def originText : Origin → String
  | .here => ""
  | .root => "/"
  | .doubleRoot => "//"

def text (p : Path) : String :=
  if p.origin = .here ∧ p.parts = [] then "." else originText p.origin ++ "/".intercalate p.parts

/-- the path without its last part, or itself if it has none -/
def parent (p : Path) : Path := { p with parts := p.parts.dropLast }

def child (p : Path) (name : String) : Path := { p with parts := p.parts ++ [name] }

/-- the path to a location -/
def ofLocation (l : Location) : Path := ⟨.root, l.reverse⟩

/-- steps taken without a look at what is there: two points take back the step in front -/
def collapse (l : Location) (parts : List String) : Location :=
  parts.foldl (fun l part => if part = up then l.tail else part :: l) l

/-- the path from the root, for the directory that relative paths start at -/
def absolute (p : Path) (cwd : Location) : Path :=
  match p.origin with
  | .here => ofLocation (collapse cwd p.parts)
  | o => ⟨o, (collapse [] p.parts).reverse⟩

@[simp] theorem parent_child (p : Path) (name : String) : (p.child name).parent = p := by
  simp [parent, child]

theorem length_parent (p : Path) : p.parent.parts.length = p.parts.length - 1 := by
  simp [parent]

end Path

end LinePrompt.Files
