/-
The program: a command line, run on the machine it is started on.

What the command may look at is read before it runs, and the files it leaves otherwise than it found them are written
back. The prompt is a line of input: the line is put into the field and entered, an empty line enters what the field
starts with, and the end of input dismisses the prompt.
-/
import LinePrompt.CommandLine.Run
import Std.Time

namespace LinePrompt.Main

open LinePrompt.Files LinePrompt.Log LinePrompt.CommandLine LinePrompt.Screen

/-! ## What is looked at -/

/-- the variables of the environment that have a meaning -/
def variableNames : List String :=
  ["HOME", "TEXTPROMPT_LOG_LEVEL", "TEXTPROMPT_LOG_FILE", "TEXTPROMPT_CANCEL_LABEL", "TEXTPROMPT_ESCAPE_DISMISSES"]

/-- the texts that a word may hold as an option's value: itself, and what stands behind an option in it -/
def valuesIn (word : String) : List String :=
  [word, String.ofList (word.toList.drop 2)] ++ (Grammar.cut word).2.toList

/-- the paths of settings that a command may read -/
def settingsPaths (s : Surroundings) (words : List String) : List Path :=
  (words.flatMap valuesIn).map .ofText ++ (Settings.usualPaths s).toOption.getD []

/-- the paths that a log writes to -/
def logPaths (log : Logbook) : List Path :=
  log.handlers.flatMap fun
    | .file p _ => [p, backup p 1, backup p 2]
    | .terminal _ => []

/-! ## What is left -/

/-- a file's new bytes, or none if the file is gone -/
abbrev Change := Path × Option ByteArray

/-- the directories of a tree that another one has not -/
def newDirectories (before after : Tree) : List Path :=
  after.entries.filterMap fun (l, e) =>
    if e = .directory ∧ before.node? l ≠ some .directory then some (.ofLocation l) else none

/-- the files that are not in both trees with the same bytes -/
def changes (before after : Tree) : List Change :=
  (before.entries ++ after.entries).filterMap fun (l, _) =>
    let found := before.contentAt? l
    let left := after.contentAt? l
    if found == left then none else some (.ofLocation l, left)

/-! ## The prompt -/

/-- what a line of input does to the prompt -/
def gesturesOf (line : String) : List Gesture :=
  if line = "" then [.one .quit]
  else
    let typed := String.ofList (line.toList.reverse.dropWhile (· == '\n')).reverse
    if typed = "" then [.one (.key .enter)] else [.one (.setField typed), .one (.key .enter)]

/-- the prompt as a line of the terminal -/
def promptLine (a : Application) : String :=
  let initial := (a.question.initialValue.map fun t => " [" ++ t ++ "]").getD ""
  a.question.title ++ initial ++ ": "

/-! ## The machine -/

/-- take what stands at a location of the machine into a tree -/
def takeIn (t : Tree) (l : Location) : IO Tree := do
  if (t.node? l).isSome then return t
  match ← (IO.FS.realPath (Path.ofLocation l).text).toBaseIO with
  | .error _ => return t
  | .ok path =>
    if ← path.isDir then return t.putDirectory l
    match ← (IO.FS.readBinFile path).toBaseIO with
    | .error _ => return t
    | .ok bytes =>
      let (n, t) := t.create l
      return t.setContent n bytes

/-- take in what stands at paths, and the directories above -/
def look (s : Surroundings) (paths : List Path) : IO Surroundings := do
  let places := (s.cwd :: paths.map fun p => (p.absolute s.cwd).parts.reverse).flatMap Location.upward
  return { s with tree := ← places.foldlM takeIn s.tree }

/-- the accounts that the machine's table of accounts lists, with their home directories -/
def accountsIn (table : String) : List (String × String) :=
  (table.splitOn "\n").filterMap fun line =>
    match line.splitOn ":" with
    | name :: _ :: _ :: _ :: _ :: home :: _ => some (name, home)
    | _ => none

/-- the surroundings, without any files yet -/
def surroundings : IO Surroundings := do
  let cwd := (Path.ofText (← IO.currentDir).toString).parts.reverse
  let values ← variableNames.mapM fun name => return (← IO.getEnv name).map ((name, ·))
  let clock := (← Std.Time.PlainDateTime.now).format "uuuu-MM-dd HH:mm:ss"
  let accounts ← (IO.FS.readFile "/etc/passwd").toBaseIO
  let account := (← IO.getEnv "LOGNAME").getD ""
  return ⟨.empty, cwd, values.filterMap id, (accounts.map accountsIn).toOption.getD [], account, clock⟩

/-- make the machine's files what a tree has them be -/
def settle (before after : Tree) : IO Unit := do
  for p in newDirectories before after do
    IO.FS.createDirAll p.text
  for (p, bytes) in changes before after do
    match bytes with
    | some bytes => IO.FS.writeBinFile p.text bytes
    | none => IO.FS.removeFile p.text

/-- what the user does when the prompt is up; nothing is asked if it does not come to that -/
def ask (application : Option Application) : IO Play := do
  match application with
  | none => return .given none
  | some a =>
    IO.eprint (promptLine a)
    return .gestures (gesturesOf (← (← IO.getStdin).getLine))

/-- Run a command line. A rehearsal tells where the log goes and whether the prompt comes up. -/
def perform (words : List String) : IO UInt32 := do
  let s ← surroundings
  let s ← look s (settingsPaths s words)
  let s ← look s (logPaths (run words (.given none) .untouched s).log)
  let play ← ask (run words (.given none) .untouched s).ending.application
  let finish := run words play .untouched s
  settle s.tree finish.surroundings.tree
  IO.print finish.ending.out
  IO.eprint finish.ending.err
  if let some e := finish.ending.escape then IO.eprintln e.message
  return finish.ending.code.toUInt32

end LinePrompt.Main

def main (words : List String) : IO UInt32 := LinePrompt.Main.perform words
