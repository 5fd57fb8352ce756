/-
Log records, and the tag that ties a record to the prompt it is about.

The tag stands in front of the message before the message is formatted, so a percent sign in a title takes part in
the formatting when the message has arguments (`tagged`); a message without arguments is taken as it is. A record
whose text could not be formatted keeps the flaw in place of its message.
-/
import LinePrompt.Log.Level
import LinePrompt.Text.Percent

namespace LinePrompt.Log

open LinePrompt.Text

/-- one record, before any handler has seen it -/
structure Record where
  severity : Severity
  /-- the name of the logger it went through -/
  logger : String
  /-- the finished message, or why there is none -/
  message : Except Percent.Flaw String

/-- what stands in front of every message about the prompt with this title -/
def tag (title : String) : String := "prompt " ++ quoted title ++ ": "

/-- a message with its prompt's tag -/
def tagged (title message : String) : String := tag title ++ message

/-- the finished message: formatted if there are arguments, as it is if there are none -/
def finish (text : String) (args : List String) : Except Percent.Flaw String :=
  if args.isEmpty then .ok text else (Percent.format text.toList args).map String.ofList

/-- a record about the prompt with this title -/
def Record.about (severity : Severity) (logger title message : String) (args : List String) : Record :=
  ⟨severity, logger, finish (tagged title message) args⟩

@[simp] theorem finish_nil (text : String) : finish text [] = .ok text := rfl

end LinePrompt.Log
