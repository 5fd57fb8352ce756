/-
How alike two words are, and which words of a list are close to a given one.

The likeness of two words is twice the number of characters that match, over the number of all their characters. What
matches is the longest common stretch, then in the same way what lies in front of it and what lies behind it.
-/
namespace LinePrompt.Text

/-- how many characters two lists have in common at their beginning -/
def commonStart : List Char → List Char → Nat
  | a :: as, b :: bs => if a = b then commonStart as bs + 1 else 0
  | _, _ => 0

/-- a stretch that two lists have in common, by its two places and its length -/
structure Stretch where
  left : Nat
  right : Nat
  length : Nat
deriving DecidableEq, Repr

/-- of two stretches the longer, of two that are equally long the first -/
def Stretch.better (s t : Stretch) : Stretch := if s.length < t.length then t else s

/-- the longest common stretch, the first in the left list, then in the right one -/
def longestStretch (as bs : List Char) : Stretch :=
  ((List.range as.length).flatMap fun i =>
    (List.range bs.length).map fun j => (⟨i, j, commonStart (as.drop i) (bs.drop j)⟩ : Stretch)).foldl
      Stretch.better ⟨0, 0, 0⟩

/-- how many characters match; each round takes one stretch, so the length of either list bounds the depth -/
def matching : Nat → List Char → List Char → Nat
  | 0, _, _ => 0
  | bound + 1, as, bs =>
    let s := longestStretch as bs
    if s.length = 0 then 0
    else
      matching bound (as.take s.left) (bs.take s.right) + s.length +
        matching bound (as.drop (s.left + s.length)) (bs.drop (s.right + s.length))

/-- two words compared: matching characters, and all characters -/
structure Likeness where
  matched : Nat
  total : Nat
deriving DecidableEq, Repr

def likeness (a b : String) : Likeness :=
  ⟨matching (a.length + 1) a.toList b.toList, a.length + b.length⟩

/-- three characters in five match, or more -/
def Likeness.isClose (l : Likeness) : Bool := 6 * l.total ≤ 20 * l.matched

/-- is the first at least as close as the second? -/
def Likeness.atLeast (l m : Likeness) : Bool := m.matched * l.total ≤ l.matched * m.total

/-- does the first candidate go before the second? The closer one does, and of two as close the later in the
alphabet. -/
def goesBefore (word a b : String) : Bool :=
  let l := likeness a word
  let m := likeness b word
  if l.atLeast m && m.atLeast l then decide (b ≤ a) else l.atLeast m

/-- the three closest of the candidates that are close to a word, in alphabetical order -/
def closest (word : String) (candidates : List String) : List String :=
  ((((candidates.filter fun c => (likeness c word).isClose).mergeSort (goesBefore word)).take 3).mergeSort
    fun a b => decide (a ≤ b))

end LinePrompt.Text
