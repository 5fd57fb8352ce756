import LinePrompt.Main
import LinePrompt.Session.Step
import LinePrompt.Proofs.CommandLine.Checking
import LinePrompt.Proofs.CommandLine.Choices
import LinePrompt.Proofs.CommandLine.JsonAnswer
import LinePrompt.Proofs.CommandLine.Precedence
import LinePrompt.Proofs.CommandLine.Records
import LinePrompt.Proofs.Log.Shelf
import LinePrompt.Proofs.Log.Tags
import LinePrompt.Proofs.Prompt.Accounts
import LinePrompt.Proofs.Prompt.Faults
import LinePrompt.Proofs.Prompt.Groups
import LinePrompt.Proofs.Prompt.Lifecycle
import LinePrompt.Proofs.Prompt.Synonyms
import LinePrompt.Proofs.Prompt.Thresholds
import LinePrompt.Proofs.Screen.Departures
import LinePrompt.Proofs.Screen.FirstPress
import LinePrompt.Proofs.Screen.Labels
import LinePrompt.Proofs.Screen.OnlyControls
import LinePrompt.Proofs.Screen.WaysToClose
import LinePrompt.Proofs.Session.Workplace
import LinePrompt.Proofs.Settings.Typed
import LinePrompt.Proofs.Settings.Usable
import LinePrompt.Proofs.Settings.Validation
