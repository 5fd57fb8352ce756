/-
Texts as they are looked at: times masked, and long texts cut down to their ends.
-/
namespace LinePrompt.Session

/-- does a character fit a place of a time's form, in which a zero stands for any digit? -/
def fits (form c : Char) : Bool := if form = '0' then c.isDigit else form = c

/-- how a line with a time starts -/
def timeForm : List Char := "0000-00-00 00:00:00 ".toList

/-- does a line start with a time? -/
def startsWithTime (cs : List Char) : Bool :=
  timeForm.length ≤ cs.length && (timeForm.zip cs).all fun (f, c) => fits f c

/-- a line, its time masked -/
def maskLine (line : String) : String :=
  let cs := line.toList
  if startsWithTime cs then String.ofList ("<time> ".toList ++ cs.drop timeForm.length) else line

/-- a text, the times at the beginnings of its lines masked -/
def masked (s : String) : String := "\n".intercalate ((s.splitOn "\n").map maskLine)

/-- a text with every line end a line feed -/
def unified (s : String) : String := (s.replace "\r\n" "\n").replace "\r" "\n"

/-- a text as it is looked at -/
inductive Excerpt where
  | whole (text : String)
  /-- the number of characters and of line feeds, and what stands at both ends -/
  | ends (characters lines : Nat) (head tail : String)
deriving DecidableEq, Repr

/-- how long a text may be to be shown whole -/
def wholeLimit : Nat := 4000

/-- how much is shown of either end -/
def endLength : Nat := 60

def Excerpt.of (s : String) : Excerpt :=
  let n := s.length
  if n ≤ wholeLimit then .whole s
  else
    let cs := s.toList
    .ends n (cs.count '\n') (String.ofList (cs.take endLength)) (String.ofList (cs.drop (n - endLength)))

end LinePrompt.Session
