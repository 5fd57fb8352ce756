/-
Sets of characters given as runs of code points. A set is a flat list `first, last, first, last, ...` in ascending
order; `inRuns` looks a code point up and stops at the first run that starts above it.
-/
namespace LinePrompt.Text

/-- is the code point in one of the runs? The runs ascend. -/
def inRuns : List Nat → Nat → Bool
  | first :: last :: rest, n => if n < first then false else decide (n ≤ last) || inRuns rest n
  | _, _ => false

@[simp] theorem inRuns_nil (n : Nat) : inRuns [] n = false := rfl

end LinePrompt.Text
