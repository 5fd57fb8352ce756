/-
The words of a command line: options with their values, and what is left.

An option stands behind two hyphens, by its whole name, its value behind an equals sign or in the next word; or behind
one hyphen by one character, several of them in one word, the rest of which is the value of the first that takes one.
The next word is the value whatever it looks like. Two hyphens alone end the options.
-/
import LinePrompt.Text.Similar

namespace LinePrompt.CommandLine

inductive Parameter where
  | logLevel
  | logFile
  | version
  | help
  | initial
  | primary
  | alternate
  | cancel
  | json
  | config
deriving DecidableEq, Repr

def Parameter.takesValue : Parameter → Bool
  | version => false
  | help => false
  | json => false
  | _ => true

/-- the options of a command -/
structure Grammar where
  /-- the spellings of the options -/
  spellings : List (String × Parameter)
  /-- can options stand behind other words? -/
  mixed : Bool
deriving Repr

/-- why words make no sense -/
inductive WordFault where
  | unknown (name : String) (similar : List String)
  | valueMissing (name : String)
  | valueUnwanted (name : String)
deriving DecidableEq, Repr

/-- an option that was given, with its value, which is empty if it takes none -/
abbrev Given := Parameter × String

/-- what words come to -/
structure Parsed where
  given : List Given
  operands : List String
deriving DecidableEq, Repr

/-- what one word comes to: options, and the last one may wait for its value -/
structure Reading where
  given : List Given
  waiting : Option (Parameter × String)
deriving DecidableEq, Repr

namespace Grammar

def isLong (name : String) : Bool := ['-', '-'].isPrefixOf name.toList

def longNames (g : Grammar) : List String := (g.spellings.map (·.1)).filter isLong

/-- the option that is spelled so -/
def find? (g : Grammar) (name : String) : Option Parameter := g.spellings.lookup name

/-- is the word one or more options? -/
def isOption (word : String) : Bool := word.toList.head? = some '-' && 1 < word.length

/-- a word cut at its first equals sign -/
def cut (word : String) : String × Option String :=
  let cs := word.toList
  if cs.contains '=' then
    (String.ofList (cs.takeWhile (· != '=')), some (String.ofList ((cs.dropWhile (· != '=')).drop 1)))
  else (word, none)

/-- the characters of a word of short options -/
def readShort (g : Grammar) (given : List Given) : List Char → Except WordFault Reading
  | [] => .ok ⟨given, none⟩
  | c :: rest =>
    let name := String.ofList ['-', c]
    match g.find? name with
    | none => .error (.unknown name [])
    | some p =>
      if !p.takesValue then g.readShort (given ++ [(p, "")]) rest
      else if rest.isEmpty then .ok ⟨given, some (p, name)⟩
      else .ok ⟨given ++ [(p, String.ofList rest)], none⟩

/-- a word of options -/
def readWord (g : Grammar) (word : String) : Except WordFault Reading :=
  let (name, value) := cut word
  match (if isLong name then g.find? name else none) with
  | some p =>
    match p.takesValue, value with
    | true, some v => .ok ⟨[(p, v)], none⟩
    | true, none => .ok ⟨[], some (p, name)⟩
    | false, some _ => .error (.valueUnwanted name)
    | false, none => .ok ⟨[(p, "")], none⟩
  | none =>
    if isLong word then .error (.unknown name (Text.closest name g.longNames))
    else g.readShort [] (word.toList.drop 1)

/-- words one after another -/
def readWords (g : Grammar) : List String → Except WordFault Parsed
  | [] => .ok ⟨[], []⟩
  | word :: rest =>
    if word = "--" then .ok ⟨[], rest⟩
    else if isOption word then
      match g.readWord word with
      | .error f => .error f
      | .ok ⟨given, none⟩ => (g.readWords rest).map fun p => { p with given := given ++ p.given }
      | .ok ⟨given, some (p, name)⟩ =>
        match rest with
        | [] => .error (.valueMissing name)
        | value :: rest => (g.readWords rest).map fun q => { q with given := given ++ (p, value) :: q.given }
    else if g.mixed then (g.readWords rest).map fun p => { p with operands := word :: p.operands }
    else .ok ⟨[], word :: rest⟩

end Grammar

namespace Parsed

/-- the value of an option: the last one counts -/
def value? (p : Parsed) (o : Parameter) : Option String := (p.given.reverse.find? (·.1 == o)).map (·.2)

def has (p : Parsed) (o : Parameter) : Bool := p.given.any (·.1 == o)

end Parsed

end LinePrompt.CommandLine
