/-
What a program finds around it: files, the directory it works in, its environment, the accounts of the machine and the
time; and what it does to files by their paths.

Directories above a new one are made on the way (`makeDirectories`); a directory that is there already is none too
many. A file opened for writing starts empty, one opened for adding keeps what it has (`openToWrite`, `openToAdd`).
-/
import LinePrompt.Files.Tree

namespace LinePrompt.Files

structure Surroundings where
  tree : Tree
  cwd : Location
  environment : List (String × String)
  /-- the accounts of the machine, with their home directories -/
  accounts : List (String × String)
  /-- the account that the program runs for -/
  account : String
  /-- the date and time, as lines of a log give it -/
  clock : String

namespace Surroundings

/-! ## The environment -/

def value? (s : Surroundings) (name : String) : Option String := s.environment.lookup name

/-- a variable's value unless it is missing or empty -/
def given? (s : Surroundings) (name : String) : Option String := (s.value? name).filter (· != "")

def setVariable (s : Surroundings) (name : String) (value : Option String) : Surroundings :=
  let others := s.environment.filter (·.1 != name)
  { s with environment :=
      match value with
      | some v => (name, v) :: others
      | none => others }

def dropTrailingSlashes (text : String) : String :=
  String.ofList (text.toList.reverse.dropWhile (· = '/')).reverse

/-- The text of the home directory that a part with a tilde in front stands for: without a name behind the tilde the
environment goes before the account. -/
def homeText? (s : Surroundings) (part : String) : Option String :=
  let found :=
    if part = "~" then (s.value? "HOME").or (s.accounts.lookup s.account)
    else s.accounts.lookup (String.ofList part.toList.tail)
  (found.map fun t => if dropTrailingSlashes t = "" then "/" else dropTrailingSlashes t).filter
    fun t => t.toList.head? != some '~'

/-- a path with a tilde in front replaced by the home directory it stands for; none if there is no such directory -/
def expandHome? (s : Surroundings) (p : Path) : Option Path :=
  match p.origin, p.parts with
  | .here, first :: rest =>
    if first.toList.head? = some '~' then
      (s.homeText? first).map fun home =>
        let base := Path.ofText home
        { base with parts := base.parts ++ rest }
    else some p
  | _, _ => some p

/-! ## Looking at files -/

/-- how many bytes a path may take -/
def pathLimit : Nat := 4095

/-- the location that a path leads to, there or not -/
def locate (s : Surroundings) (p : Path) : Except Cause Location :=
  if p.text.toList.contains (Char.ofNat 0) then .error .nullByte
  else if pathLimit < p.text.utf8ByteSize then .error .nameTooLong
  else s.tree.follow (if p.origin = .here then s.cwd else []) p.parts

/-- the location and what stands there -/
def find (s : Surroundings) (p : Path) : Except Cause (Location × Entry) := do
  let l ← s.locate p
  match s.tree.node? l with
  | some e => pure (l, e)
  | none => throw .missing

/-- a cause made a fault of a path -/
def blame {α : Type} (p : Path) (r : Except Cause α) : Except Fault α := r.mapError (⟨·, p.text⟩)

/-- Does anything stand at the path? A way that ends early is a no; only a name that is too long is a fault. -/
def isThere (s : Surroundings) (p : Path) : Except Fault Bool :=
  match s.find p with
  | .ok _ => .ok true
  | .error .nameTooLong => .error ⟨.nameTooLong, p.text⟩
  | .error _ => .ok false

/-- does a directory stand at the path? -/
def isDirectory (s : Surroundings) (p : Path) : Except Fault Bool :=
  match s.find p with
  | .ok (_, .directory) => .ok true
  | .ok _ => .ok false
  | .error .nameTooLong => .error ⟨.nameTooLong, p.text⟩
  | .error _ => .ok false

/-- the bytes of a file -/
def read (s : Surroundings) (p : Path) : Except Fault ByteArray :=
  match blame p (s.find p) with
  | .ok (_, .file n) => .ok (s.tree.content n)
  | .ok (_, .directory) => .error ⟨.isDirectory, p.text⟩
  | .error f => .error f

/-! ## Changing files -/

/-- make one directory -/
def makeDirectory (s : Surroundings) (p : Path) : Except Cause Surroundings := do
  let l ← s.locate p
  match s.tree.node? l with
  | some _ => throw .taken
  | none => pure { s with tree := s.tree.putDirectory l }

/-- a directory that could not be made is none too many if it is there -/
def orPresent (s : Surroundings) (p : Path) (c : Cause) : Except Fault Surroundings := do
  if c = .nullByte then throw ⟨c, p.text⟩
  if ← s.isDirectory p then pure s else throw ⟨c, p.text⟩

/-- make a directory and, at most so many, directories above it that are missing; what was made stays also when a later
step fails -/
def makeDirectoriesUpTo : Nat → Path → Surroundings → Except Fault Surroundings × Surroundings
  | 0, p, s => (.error ⟨.missing, p.text⟩, s)
  | bound + 1, p, s =>
    match s.makeDirectory p with
    | .ok made => (.ok made, made)
    | .error .missing =>
      if p.parts = [] then (.error ⟨.missing, p.text⟩, s)
      else
        match makeDirectoriesUpTo bound p.parent s with
        | (.error f, s) => (.error f, s)
        | (.ok _, s) =>
          match s.makeDirectory p with
          | .ok made => (.ok made, made)
          | .error c => (s.orPresent p c, s)
    | .error c => (s.orPresent p c, s)

/-- Make a directory and the missing ones above it: the surroundings, and the fault if there was one. A path has as many
directories above it as parts. -/
def makeDirectories (s : Surroundings) (p : Path) : Option Fault × Surroundings :=
  match makeDirectoriesUpTo (p.parts.length + 1) p s with
  | (.ok made, _) => (none, made)
  | (.error f, s) => (some f, s)

/-- the number of the file at a path, made if nothing stands there -/
def openToAdd (s : Surroundings) (p : Path) : Except Fault (Nat × Surroundings) := do
  let l ← blame p (s.locate p)
  match s.tree.node? l with
  | some (.file n) => pure (n, s)
  | some .directory => throw ⟨.isDirectory, p.text⟩
  | none =>
    let (n, tree) := s.tree.create l
    pure (n, { s with tree })

/-- the number of the file at a path, made or emptied -/
def openToWrite (s : Surroundings) (p : Path) : Except Fault (Nat × Surroundings) := do
  let (n, s) ← s.openToAdd p
  pure (n, { s with tree := s.tree.setContent n .empty })

def append (s : Surroundings) (number : Nat) (bytes : ByteArray) : Surroundings :=
  { s with tree := s.tree.append number bytes }

/-- take a file's name out of the tree -/
def remove (s : Surroundings) (p : Path) : Except Fault Surroundings :=
  match blame p (s.find p) with
  | .ok (l, .file _) => .ok { s with tree := s.tree.erase l }
  | .ok (_, .directory) => .error ⟨.isDirectory, p.text⟩
  | .error f => .error f

/-- Give a file another path, which loses what it leads to. A directory takes the one that is worked in along. -/
def rename (s : Surroundings) (source target : Path) : Except Fault Surroundings := do
  let (l, _) ← blame source (s.find source)
  let m ← blame target (s.locate target)
  pure { s with tree := s.tree.move l m, cwd := Tree.moved l m s.cwd }

/-- go to another directory -/
def enter (s : Surroundings) (p : Path) : Except Fault Surroundings :=
  match blame p (s.find p) with
  | .ok (l, .directory) => .ok { s with cwd := l }
  | .ok (_, .file _) => .error ⟨.notDirectory, p.text⟩
  | .error f => .error f

end Surroundings

end LinePrompt.Files
