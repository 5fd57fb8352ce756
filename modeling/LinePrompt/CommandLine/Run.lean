/-
Running a command: what it prints, how it ends, and what it leaves behind.

`ask` loads the settings, lets the environment override them, sets up the log, and only then brings the prompt up; it
ends with 0 for the primary button, 3 for the alternate one and 1 otherwise, which goes for an application without a
result too. `validate` sets up the log before it loads
the settings, so that it does not make the directory whose absence it should report.
-/
import LinePrompt.CommandLine.Task
import LinePrompt.Log.Setup
import LinePrompt.Screen.App
import LinePrompt.Settings.Load
import LinePrompt.Text.Json

namespace LinePrompt.CommandLine

open LinePrompt.Files LinePrompt.Log LinePrompt.Prompt LinePrompt.Screen

/-! ## The application -/

/-- what the application is built from -/
structure Application where
  question : Question
  settings : Settings
deriving Repr

namespace Application

/-- an empty alternate label offers no alternate button -/
def hasAlternate (a : Application) : Bool := (Settings.nonempty? a.question.alternateLabel).isSome

/-- the request that the application shows: it keeps the text its handlers are given, and ends when the prompt closes -/
def request (a : Application) : Request :=
  { title := a.question.title
    primaryLabel := a.question.primaryLabel
    onPrimary := [.keep]
    initialValue := a.question.initialValue
    alternateLabel := a.question.alternateLabel
    onAlternate := if a.hasAlternate then some [.keep] else none
    cancelLabel := a.question.cancelLabel
    onCancel := none
    onClosed := some [.finish] }

def scene (a : Application) (threshold : Nat) : Scene :=
  { request := fun _ => a.request
    surface := fun _ => ⟨[], []⟩
    threshold
    cancelLabel := a.settings.cancelLabel
    escapeDismisses := a.settings.escapeDismisses }

end Application

/-- what the application is to go through -/
inductive Play where
  /-- it is not run, and this is its result -/
  | given (result : Option (Outcome × String))
  | gestures (gs : List Gesture)
deriving Repr

/-- what came of the application: its result and its records -/
structure Played where
  result : Option (Outcome × String)
  records : List Record

/-- the records among marks -/
def recordsOf (marks : List Mark) : List Record :=
  marks.filterMap fun
    | .logged r => some r
    | _ => none

/-- the application, run or not; one that ends by a fault gives no result -/
def Application.play (a : Application) (threshold : Nat) : Play → Played
  | .given result => ⟨result, []⟩
  | .gestures gs =>
    let showing := playSession (a.scene threshold) [a.question.title] gs
    ⟨if showing.crash.isSome then none else showing.stage.result, recordsOf (Stage.empty.marksSince showing.stage)⟩

/-! ## What is printed -/

/-- a character that ends an escape sequence of the terminal -/
def endsSequence (c : Char) : Bool := c.isAlpha

def isSequenceArgument (c : Char) : Bool := c.isDigit || c = ';' || c = '?'

/-- the characters behind an escape sequence, if one starts here -/
def behindSequence? (cs : List Char) : Option (List Char) :=
  match cs with
  | '\x1b' :: '[' :: rest =>
    match rest.dropWhile isSequenceArgument with
    | c :: rest => if endsSequence c then some rest else none
    | [] => none
  | _ => none

/-- a text without the escape sequences of a terminal; each round takes a character, so the length bounds them -/
def withoutSequences : Nat → List Char → List Char
  | 0, cs => cs
  | _ + 1, [] => []
  | bound + 1, c :: rest =>
    match behindSequence? (c :: rest) with
    | some behind => withoutSequences bound behind
    | none => c :: withoutSequences bound rest

/-- a text as it is printed to what is no terminal, as standard output is taken to be -/
def printed (s : String) : String := String.ofList (withoutSequences s.length s.toList)

/-- outcome and text as one line of JSON -/
def resultLine (o : Outcome) (text : String) : String :=
  String.ofList ("\x7b\"outcome\": ".toList ++ Text.Json.string o.name.toList ++ ", \"text\": ".toList ++
    Text.Json.string text.toList ++ "\x7d\n".toList)

/-- what `ask` prints of a result -/
def answerText (asJson : Bool) (o : Outcome) (text : String) : String :=
  if asJson then resultLine o text
  else
    match o with
    | .primary => text ++ "\n"
    | .alternate => text ++ "\n"
    | _ => ""

/-- the number `ask` ends with -/
def exitCode : Outcome → Nat
  | .primary => 0
  | .alternate => 3
  | _ => 1

/-! ## Commands -/

/-- how a command ends -/
structure Ending where
  code : Nat
  out : String
  err : String
  /-- the trouble that the command did not report but ended by -/
  escape : Option Settings.Trouble
  /-- the application, if it came to that -/
  application : Option Application
deriving Repr

/-- The ending with the log and the surroundings it leaves. Nothing is said of the records that handlers lose: all are
made while the application has the terminal, and what the log would print about them comes to nothing. -/
structure Finish where
  ending : Ending
  log : Logbook
  surroundings : Surroundings

/-- an ending without anything printed, by trouble that is not reported -/
def Ending.escaped (t : Settings.Trouble) : Ending := ⟨1, "", "", some t, none⟩

/-- an ending by trouble: that of the settings' own kinds is reported -/
def Ending.troubled (t : Settings.Trouble) : Ending :=
  if t.isOwn then ⟨1, "", printed ("Error: " ++ t.message ++ "\n"), none, none⟩ else .escaped t

/-- an ending before anything is done -/
def Ending.refused : Refusal → Ending
  | .help c => ⟨0, c.help, "", none, none⟩
  | .version => ⟨0, versionText, "", none, none⟩
  | .silence => ⟨2, "", Command.main.help, none, none⟩
  | .complaint command c => ⟨2, "", printed (c.report command), none, none⟩
  | .nullByte => .escaped (.files ⟨.nullByte, ""⟩)

/-- the settings in force for a command -/
def settingsFor (s : Surroundings) (config : Option String) : Except Settings.Trouble Settings :=
  (Settings.load s config).map (·.overridden s)

def runAsk (g : Globals) (q : Question) (play : Play) (log : Logbook) (s : Surroundings) : Finish :=
  match settingsFor s q.config with
  | .error t => ⟨.troubled t, log, s⟩
  | .ok c =>
    match setUp (some c) ⟨g.level, g.logFile, false⟩ s with
    | (some t, log, s) => ⟨.escaped t, log, s⟩
    | (none, log, s) =>
      let application : Application := ⟨q, c⟩
      let played := application.play log.effective play
      let (log, effect) := log.addAll played.records s
      let (o, text) := played.result.getD (.dismissed, "")
      ⟨⟨exitCode o, printed (answerText q.asJson o text), "", none, some application⟩, log, effect.surroundings⟩

/-- the path of the settings' file, or what stands in for one -/
def sourceName (c : Settings) : String := (Settings.nonempty? c.source).getD "built-in defaults"

/-- what `validate` ends with, by the errors of the settings -/
def verdict (c : Settings) : List String → Ending
  | [] => ⟨0, printed ("Config OK: " ++ sourceName c ++ "\n"), "", none, none⟩
  | errors =>
    let lines := ("Found " ++ toString errors.length ++ " error(s):") :: errors.map ("  x " ++ ·)
    ⟨1, "", printed (String.join (lines.map (· ++ "\n"))), none, none⟩

def runValidate (g : Globals) (config : Option String) (s : Surroundings) : Finish :=
  match setUp none ⟨g.level, g.logFile, true⟩ s with
  | (some t, log, s) => ⟨.escaped t, log, s⟩
  | (none, log, s) =>
    let ending :=
      match settingsFor s config with
      | .error t => .troubled t
      | .ok c =>
        match c.errors s with
        | .error t => .escaped t
        | .ok errors => verdict c errors
    ⟨ending, log, s⟩

/-- a command line, run -/
def run (words : List String) (play : Play) (log : Logbook) (s : Surroundings) : Finish :=
  match Task.ofWords s words with
  | .error r => ⟨.refused r, log, s⟩
  | .ok (.ask g q) => runAsk g q play log s
  | .ok (.validate g config) =>
    let finish := runValidate g config s
    { finish with log := finish.log.endCommand }

end LinePrompt.CommandLine
