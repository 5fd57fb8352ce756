/-
YAML documents: from a text to its value.

A text holds one document; one that holds nothing has the null value. A fault in the form of the text shows before one
of a value in it. How deeply collections stand in each other is no matter here: nothing is said of where a machine's
stack ends.
-/
import LinePrompt.Yaml.Token.Scan
import LinePrompt.Yaml.Value.Build

namespace LinePrompt.Yaml

/-- a character list with its line ends turned into line feeds -/
def unifyBreaks : List Char → List Char
  | '\r' :: '\n' :: rest => '\n' :: unifyBreaks rest
  | '\r' :: rest => '\n' :: unifyBreaks rest
  | c :: rest => c :: unifyBreaks rest
  | [] => []

/-- the value of a text -/
def Value.parse (text : List Char) : Except Fault Value := do
  let tokens ← Token.scan (unifyBreaks text)
  let events ← Event.ofTokens tokens
  match ← Graph.ofEvents events with
  | none => pure null
  | some g => Value.ofGraph g

end LinePrompt.Yaml
