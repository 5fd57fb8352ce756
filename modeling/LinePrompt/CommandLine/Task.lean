/-
From the words of a command line to what is to be done.

What is wrong with the words in front of the command shows before anything about the command itself. Asking for help or
for the version comes before all checks, but not before a word that makes no sense.
-/
import LinePrompt.CommandLine.Command
import LinePrompt.Files.Surroundings

namespace LinePrompt.CommandLine

open LinePrompt.Files

/-- what is said in front of the command -/
structure Globals where
  level : Option String
  logFile : Option String
deriving DecidableEq, Repr

/-- what `ask` is told -/
structure Question where
  title : String
  initialValue : Option String
  primaryLabel : String
  alternateLabel : Option String
  cancelLabel : Option String
  asJson : Bool
  config : Option String
deriving DecidableEq, Repr

inductive Task where
  | ask (globals : Globals) (question : Question)
  | validate (globals : Globals) (config : Option String)
deriving DecidableEq, Repr

/-- why there is nothing to be done -/
inductive Refusal where
  | help (command : Command)
  | version
  /-- nothing was said at all -/
  | silence
  | complaint (command : Command) (complaint : Complaint)
  /-- a path holds the character of code zero -/
  | nullByte
deriving DecidableEq, Repr

/-! ## Values -/

/-- the level that a value names, none if it names none -/
def level? (value : String) : Option String := levelChoices.find? fun c => c.toLower == value.toLower

/-- must what stands at the path's text be a directory, by the way the text ends? -/
def namesDirectory (text : String) : Bool :=
  let parts := text.splitOn "/"
  parts.getLast? == some "" || parts.getLast? == some "."

/-- does anything stand at a path, taken as it is written? -/
def stands (s : Surroundings) (text : String) : Except Refusal Bool :=
  if text = "" then .ok false
  else
    match s.find (.ofText text) with
    | .ok (_, .directory) => .ok true
    | .ok (_, .file _) => .ok (!namesDirectory text)
    | .error .nullByte => .error .nullByte
    | .error _ => .ok false

/-! ## In front of the command -/

/-- the first option that asks for something to be printed -/
def firstRequest (p : Parsed) (command : Command) : Except Refusal Unit :=
  match p.given.find? fun g => g.1 == .help || g.1 == .version with
  | some (.help, _) => .error (.help command)
  | some (.version, _) => .error .version
  | _ => .ok ()

/-- an option's value, else that of a variable -/
def valueOr (p : Parsed) (o : Parameter) (s : Surroundings) (name : String) : Option String :=
  (p.value? o).or (s.given? name)

/-- a value checked: a level has to be one, and the file for the log to be a possible path -/
def checkGlobal (o : Parameter) (p : Parsed) (s : Surroundings) : Except Refusal Unit :=
  match o with
  | .logLevel =>
    match valueOr p .logLevel s "TEXTPROMPT_LOG_LEVEL" with
    | some v => if (level? v).isSome then .ok () else .error (.complaint .main (.badLevel v))
    | none => .ok ()
  | .logFile =>
    match valueOr p .logFile s "TEXTPROMPT_LOG_FILE" with
    | some v => (stands s v).map fun _ => ()
    | none => .ok ()
  | _ => .ok ()

/-- the words in front of the command, checked in the order they came in: what they say, and the words left -/
def readGlobals (s : Surroundings) (words : List String) : Except Refusal (Globals × List String) :=
  if words = [] then .error .silence
  else
    match Command.main.grammar.readWords words with
    | .error f => .error (.complaint .main (.word f))
    | .ok p => do
      firstRequest p .main
      for o in (p.given.map Prod.fst ++ [Parameter.logLevel, Parameter.logFile]).eraseDups do
        checkGlobal o p s
      pure (⟨(valueOr p .logLevel s "TEXTPROMPT_LOG_LEVEL").bind level?,
        valueOr p .logFile s "TEXTPROMPT_LOG_FILE"⟩, p.operands)

/-- does the word start with neither letter nor digit? -/
def startsWithMark (word : String) : Bool :=
  match word.toList.head? with
  | some c => c.toNat < 128 && !c.isAlphanum
  | none => false

/-- The command that the words name. Words that start with a mark could be options of the program, and are looked at as
such before they are refused. -/
def chooseCommand (s : Surroundings) : List String → Except Refusal (Command × List String)
  | [] => .error (.complaint .main .missingCommand)
  | name :: rest =>
    match Command.ofName? name with
    | some c => .ok (c, rest)
    | none => do
      if startsWithMark name then
        let _ ← readGlobals s (name :: rest)
      throw (.complaint .main (.unknownCommand name (Text.closest name Command.names)))

/-! ## The commands -/

/-- the file with the settings: it has to be there -/
def checkConfig (command : Command) (p : Parsed) (s : Surroundings) : Except Refusal (Option String) :=
  match p.value? .config with
  | none => .ok none
  | some v => do
    if ← stands s v then pure (some v) else throw (.complaint command (.noSuchPath v))

/-- the words behind a command -/
def readOwn (command : Command) (words : List String) : Except Refusal Parsed :=
  match command.grammar.readWords words with
  | .error f => .error (.complaint command (.word f))
  | .ok p => (firstRequest p command).map fun _ => p

def readQuestion (s : Surroundings) (words : List String) : Except Refusal Question := do
  let p ← readOwn .ask words
  let config ← checkConfig .ask p s
  match p.operands with
  | [] => throw (.complaint .ask .missingTitle)
  | [title] =>
    pure ⟨title, p.value? .initial, (p.value? .primary).getD "OK", p.value? .alternate, p.value? .cancel,
      p.has .json, config⟩
  | _ :: extra => throw (.complaint .ask (.extraWords extra))

def readCheck (s : Surroundings) (words : List String) : Except Refusal (Option String) := do
  let p ← readOwn .validate words
  let config ← checkConfig .validate p s
  if p.operands.isEmpty then pure config else throw (.complaint .validate (.extraWords p.operands))

/-- what the words ask for -/
def Task.ofWords (s : Surroundings) (words : List String) : Except Refusal Task := do
  let (globals, rest) ← readGlobals s words
  let (command, rest) ← chooseCommand s rest
  match command with
  | .ask => pure (.ask globals (← readQuestion s rest))
  | _ => pure (.validate globals (← readCheck s rest))

end LinePrompt.CommandLine
