/-
What a prompt's dialog shows: a title, a hint and its buttons.

Title, labels and hint come from the caller and are escaped before they are put between style tags. The alternate
button is there when the request has a handler for it; the cancel button always is.
-/
import LinePrompt.Prompt.Stage
import LinePrompt.Screen.Markup

namespace LinePrompt.Screen

open LinePrompt.Prompt

structure ButtonLabel where
  widget : Widget
  /-- the emphasis it is drawn with -/
  variant : String
  text : String
deriving DecidableEq, Repr

/-- the texts of a dialog as they are read on the screen -/
structure Labels where
  title : String
  hint : String
  buttons : List ButtonLabel
deriving DecidableEq, Repr

/-- the text of a label that consists of fixed markup around a caller's text -/
def labelText (before text after : String) : Except Markup.Flaw String :=
  (Markup.display (before.toList ++ Markup.escape text.toList ++ after.toList)).map String.ofList

/-- the controls of a dialog, in the order the focus goes round -/
def controls (r : Request) : List Widget :=
  if r.hasAlternate then [.primary, .alternate, .cancel] else [.primary, .cancel]

/-- the label a caller or the configuration gives a control -/
def controlLabel (sc : Scene) (r : Request) : Widget → String
  | .input => ""
  | .primary => r.primaryLabel
  | .alternate => r.alternateLabel.getD ""
  | .cancel => r.resolvedCancelLabel sc.cancelLabel

def variant : Widget → String
  | .primary => "primary"
  | _ => "default"

/-- the texts of a request's dialog -/
def labels (sc : Scene) (r : Request) : Except Markup.Flaw Labels := do
  let title ← labelText "[bold]" r.title "[/bold]"
  let hint ← labelText "[dim]enter: " r.primaryLabel "[/dim]"
  let buttons ← (controls r).mapM fun w => do
    pure ⟨w, variant w, ← labelText "" (controlLabel sc r w) ""⟩
  pure ⟨title, hint, buttons⟩

end LinePrompt.Screen
