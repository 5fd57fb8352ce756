/-
A tree of directories and files.

A file is a number under which its bytes are kept; its name in the tree is a separate thing, so that bytes can be added
to a file that has been renamed or removed since it was opened. Numbers are never given twice: a tree carries that no
two of its names have one number, and that its next number is new.
-/
import LinePrompt.Files.Fault
import LinePrompt.Files.Path

namespace LinePrompt.Files

inductive Entry where
  | directory
  | file (number : Nat)
deriving DecidableEq, Repr

def Entry.number? : Entry → Option Nat
  | .directory => none
  | .file n => some n

/-- the numbers of the files that have a name -/
def numbersIn (entries : List (Location × Entry)) : List Nat := entries.filterMap (·.2.number?)

structure Tree where
  entries : List (Location × Entry)
  bytes : List (Nat × ByteArray)
  /-- the number of the next new file -/
  next : Nat
  nodup : (numbersIn entries).Nodup
  lt_next : ∀ n ∈ numbersIn entries, n < next

/-- names taken away leave the others their numbers -/
theorem numbersIn_filter_sublist (p : Location × Entry → Bool) (entries : List (Location × Entry)) :
    (numbersIn (entries.filter p)).Sublist (numbersIn entries) :=
  List.filter_sublist.filterMap _

namespace Tree

/-- a tree with nothing in it but its root -/
def empty : Tree := ⟨[], [], 0, .nil, List.forall_mem_nil _⟩

/-- what stands at a location; the root is always a directory -/
def node? (t : Tree) (l : Location) : Option Entry := if l = [] then some .directory else t.entries.lookup l

/-- the bytes of a file -/
def content (t : Tree) (number : Nat) : ByteArray := (t.bytes.lookup number).getD .empty

/-- the bytes of the file at a location -/
def contentAt? (t : Tree) (l : Location) : Option ByteArray :=
  match t.node? l with
  | some (.file n) => some (t.content n)
  | _ => none

/-- take a name out of the tree -/
def erase (t : Tree) (l : Location) : Tree :=
  { t with
    entries := t.entries.filter (·.1 != l)
    nodup := t.nodup.sublist (numbersIn_filter_sublist _ _)
    lt_next := fun n hn => t.lt_next n ((numbersIn_filter_sublist _ _).subset hn) }

/-- a directory at a location -/
def putDirectory (t : Tree) (l : Location) : Tree :=
  { t.erase l with entries := (l, .directory) :: (t.erase l).entries }

def setContent (t : Tree) (number : Nat) (bytes : ByteArray) : Tree :=
  { t with bytes := (number, bytes) :: t.bytes.filter (·.1 != number) }

/-- add bytes at the end of a file -/
def append (t : Tree) (number : Nat) (bytes : ByteArray) : Tree :=
  t.setContent number (t.content number ++ bytes)

/-- a new file at a location, its bytes still to come -/
def putFile (t : Tree) (l : Location) : Tree :=
  { t with
    entries := (l, .file t.next) :: (t.erase l).entries
    next := t.next + 1
    nodup := List.nodup_cons.2 ⟨fun hn => Nat.lt_irrefl _ ((t.erase l).lt_next _ hn), (t.erase l).nodup⟩
    lt_next := by
      intro n hn
      rcases List.mem_cons.1 hn with rfl | hn
      · exact Nat.lt_succ_self _
      · exact Nat.lt_succ_of_lt ((t.erase l).lt_next n hn) }

/-- a new file without bytes -/
def create (t : Tree) (l : Location) : Nat × Tree := (t.next, (t.putFile l).setContent t.next .empty)

/-- a location once what stands at `source` has moved to `target` -/
def moved (source target l : Location) : Location :=
  if source.isSuffixOf l then l.take (l.length - source.length) ++ target else l

/-- what moves keeps its number -/
theorem numbersIn_map_moved (source target : Location) (entries : List (Location × Entry)) :
    numbersIn (entries.map fun (l, e) => (moved source target l, e)) = numbersIn entries :=
  List.filterMap_map

/-- give what stands at a location another place, with everything in it; what stands there already is lost -/
def move (t : Tree) (source target : Location) : Tree :=
  if source = target then t
  else
    { t.erase target with
      entries := (t.erase target).entries.map fun (l, e) => (moved source target l, e)
      nodup := by rw [numbersIn_map_moved]; exact (t.erase target).nodup
      lt_next := by rw [numbersIn_map_moved]; exact (t.erase target).lt_next }

/-- how many bytes a name may take -/
def nameLimit : Nat := 255

/-- follow steps from a place: each place that a step is taken from has to be a directory -/
def follow (t : Tree) : Location → List String → Except Cause Location
  | l, [] => .ok l
  | l, step :: rest =>
    match t.node? l with
    | none => .error .missing
    | some (.file _) => .error .notDirectory
    | some .directory =>
      if step = up then t.follow l.tail rest
      else if nameLimit < step.utf8ByteSize then .error .nameTooLong
      else t.follow (step :: l) rest

theorem content_setContent (t : Tree) (n : Nat) (b : ByteArray) : (t.setContent n b).content n = b := by
  simp [content, setContent]

theorem node?_putDirectory (t : Tree) (l : Location) : (t.putDirectory l).node? l = some .directory := by
  simp [node?, putDirectory]

theorem node?_putFile (t : Tree) {l : Location} (h : l ≠ []) : (t.putFile l).node? l = some (.file t.next) := by
  simp [node?, putFile, h]

theorem follow_nil (t : Tree) (l : Location) : t.follow l [] = .ok l := rfl

end Tree

end LinePrompt.Files
