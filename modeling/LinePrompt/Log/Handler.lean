/-
Where records go: to a file that is rolled over when it grows too long, and to the terminal.

A record's line that would bring the file to the limit goes to a new file instead: each backup becomes the next one, the
last is dropped, and the file itself becomes the first. Without any handler a warning or worse goes to the terminal as
its bare message. A record that cannot be formatted, or whose file cannot be rolled over, is lost to that handler and
counted.
-/
import LinePrompt.Files.Surroundings
import LinePrompt.Log.Record

namespace LinePrompt.Log

open LinePrompt.Files

/-! ## Lines -/

/-- the line a record is written as, at a date and time -/
def lineOf (clock : String) (r : Record) (message : String) : String :=
  clock ++ " [" ++ r.severity.name ++ "] " ++ r.logger ++ ": " ++ message ++ "\n"

/-! ## Handlers -/

inductive Handler where
  /-- a file by its path from the root, and its number while it is open -/
  | file (path : Path) (number : Option Nat)
  /-- the terminal, as long as the command lasts that it belongs to -/
  | terminal (live : Bool)
deriving DecidableEq, Repr

/-- what became of a record: the surroundings, what the terminal shows, and how many handlers lost it -/
structure Effect where
  surroundings : Surroundings
  shown : String
  lost : Nat

def Effect.none (s : Surroundings) : Effect := ⟨s, "", 0⟩

/-! ## The file -/

/-- how long a file may grow: its bytes and the characters of the next line stay below this -/
def sizeLimit : Nat := 1024 * 1024

/-- how many backups are kept -/
def backupCount : Nat := 2

/-- the path of a backup -/
def backup (p : Path) (n : Nat) : Path := .ofText (p.text ++ "." ++ toString n)

/-- does anything stand at the path, as far as can be told? -/
def present (s : Surroundings) (p : Path) : Bool := (s.find p).toOption.isSome

/-- give a file another path, in place of a file that has it -/
def replace (s : Surroundings) (source target : Path) : Except Fault Surroundings × Surroundings :=
  if !present s source then (.ok s, s)
  else
    match (if present s target then s.remove target else .ok s) with
    | .error f => (.error f, s)
    | .ok s =>
      match s.rename source target with
      | .error f => (.error f, s)
      | .ok s => (.ok s, s)

/-- make a backup the next one, unless there has been a fault -/
def moveBackup (p : Path) : Option Fault × Surroundings → Nat → Option Fault × Surroundings
  | (some f, s), _ => (some f, s)
  | (none, s), n =>
    match replace s (backup p n) (backup p (n + 1)) with
    | (.error f, s) => (some f, s)
    | (.ok _, s) => (none, s)

/-- Roll a file over: the surroundings, and the fault if one stopped it on the way. A first backup that could not be
moved on is removed. -/
def rollOver (p : Path) (s : Surroundings) : Option Fault × Surroundings :=
  match (List.range' 1 (backupCount - 1)).reverse.foldl (moveBackup p) (none, s) with
  | (some f, s) => (some f, s)
  | (none, s) =>
    match (if present s (backup p 1) then s.remove (backup p 1) else .ok s) with
    | .error f => (some f, s)
    | .ok s =>
      if !present s p then (none, s)
      else
        match s.rename p (backup p 1) with
        | .error f => (some f, s)
        | .ok s => (none, s)

/-- does a directory stand where the file should? Then it is left alone. -/
def blocked (s : Surroundings) (p : Path) : Bool := (s.isDirectory p).toOption == some true

/-- is it time to roll over, for the next line? -/
def isFull (s : Surroundings) (p : Path) (number : Nat) (line : String) : Bool :=
  !blocked s p && sizeLimit ≤ (s.tree.content number).size + line.length

/-- the number of the file, opened now if it is not open -/
def opened (p : Path) (number : Option Nat) (s : Surroundings) : Except Fault (Nat × Surroundings) :=
  match number with
  | some n => .ok (n, s)
  | none => s.openToAdd p

/-- write a line at the end of a file -/
def writeLine (p : Path) (number : Option Nat) (line : String) (s : Surroundings) : Handler × Effect :=
  match opened p number s with
  | .error _ => (.file p none, ⟨s, "", 1⟩)
  | .ok (n, s) =>
    if isFull s p n line then
      match rollOver p s with
      | (some _, s) => (.file p none, ⟨s, "", 1⟩)
      | (none, s) =>
        match s.openToAdd p with
        | .error _ => (.file p none, ⟨s, "", 1⟩)
        | .ok (n, s) => (.file p (some n), ⟨s.append n line.toUTF8, "", 0⟩)
    else (.file p (some n), ⟨s.append n line.toUTF8, "", 0⟩)

/-! ## Records -/

/-- one handler with one record -/
def Handler.handle (h : Handler) (r : Record) (s : Surroundings) : Handler × Effect :=
  match h, r.message with
  | h, .error _ => (h, ⟨s, "", 1⟩)
  | .file p number, .ok message => writeLine p number (lineOf s.clock r message) s
  | .terminal true, .ok message => (h, ⟨s, lineOf s.clock r message, 0⟩)
  | .terminal false, .ok _ => (h, ⟨s, "", 1⟩)

/-- all handlers, one after another -/
def handleAll (r : Record) : List Handler → Surroundings → List Handler × Effect
  | [], s => ([], .none s)
  | h :: rest, s =>
    let (h, e) := h.handle r s
    let (rest, later) := handleAll r rest e.surroundings
    (h :: rest, ⟨later.surroundings, e.shown ++ later.shown, e.lost + later.lost⟩)

/-- what becomes of a record without any handler -/
def lastResort (r : Record) (s : Surroundings) : Effect :=
  if r.severity.rank < Severity.warning.rank then .none s
  else
    match r.message with
    | .ok message => ⟨s, message ++ "\n", 0⟩
    | .error _ => ⟨s, "", 1⟩

/-! ## The log -/

/-- a log: the threshold it was given, and its handlers -/
structure Logbook where
  threshold : Nat
  handlers : List Handler
deriving DecidableEq, Repr

namespace Logbook

/-- a log that nothing has been said about -/
def untouched : Logbook := ⟨0, []⟩

/-- the threshold in force: a log without one lets warnings pass -/
def effective (b : Logbook) : Nat := if b.threshold = 0 then Severity.warning.rank else b.threshold

/-- one record -/
def add (b : Logbook) (r : Record) (s : Surroundings) : Logbook × Effect :=
  if r.severity.rank < b.effective then (b, .none s)
  else if b.handlers.isEmpty then (b, lastResort r s)
  else
    let (handlers, e) := handleAll r b.handlers s
    ({ b with handlers }, e)

/-- records one after another -/
def addAll (b : Logbook) : List Record → Surroundings → Logbook × Effect
  | [], s => (b, .none s)
  | r :: rest, s =>
    let (b, e) := b.add r s
    let (b, later) := b.addAll rest e.surroundings
    (b, ⟨later.surroundings, e.shown ++ later.shown, e.lost + later.lost⟩)

/-- the terminal of a command that has ended -/
def endCommand (b : Logbook) : Logbook :=
  { b with handlers := b.handlers.map fun
      | .terminal _ => .terminal false
      | h => h }

end Logbook

end LinePrompt.Log
