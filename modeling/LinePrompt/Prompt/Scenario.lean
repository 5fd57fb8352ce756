/-
Runs of calls from outside: each call is answered, and reported with the marks it made.

A fault of one call does not stop the run; the next call finds the stage as the fault left it.
-/
import LinePrompt.Prompt.Run

namespace LinePrompt.Prompt

/-- the answer to one call with what happened during it -/
structure Report where
  answer : Except Fault Answer
  /-- the marks of this call, oldest first -/
  marks : List Mark
  /-- the stage it left -/
  stage : Stage

/-- what was noted since an earlier stage of the same run, oldest first -/
def Stage.marksSince (before after : Stage) : List Mark :=
  (after.history.take (after.history.length - before.history.length)).reverse

/-- one call from outside, reported -/
def report (sc : Scene) (c : Call) (st : Stage) : Report :=
  let r := run sc c st
  ⟨r.answer, st.marksSince r.stage, r.stage⟩

/-- the stage after a sequence of calls -/
def runAll (sc : Scene) (calls : List Call) (st : Stage) : Stage :=
  calls.foldl (fun st c => (run sc c st).stage) st

/-- the reports of a sequence of calls -/
def reports (sc : Scene) : List Call → Stage → List Report
  | [], _ => []
  | c :: rest, st =>
    let r := report sc c st
    r :: reports sc rest r.stage

@[simp] theorem report_stage (sc : Scene) (c : Call) (st : Stage) : (report sc c st).stage = (run sc c st).stage := rfl

@[simp] theorem length_reports (sc : Scene) (calls : List Call) (st : Stage) :
    (reports sc calls st).length = calls.length := by
  induction calls generalizing st with
  | nil => rfl
  | cons c rest ih => simp [reports, ih]

end LinePrompt.Prompt
