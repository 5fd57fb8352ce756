/-
Which written form a text takes.

Bare if that cannot be taken for anything else; between apostrophes if each of its line feeds stands apart from
blanks; else between double quotes, with escapes. A text with any character that is not ASCII, or with a control
character other than the line feed, always takes double quotes.
-/
import LinePrompt.Yaml.Tag
import LinePrompt.Yaml.Token

namespace LinePrompt.Yaml.Printer

/-- printable ASCII -/
def isPlainAscii (c : Char) : Bool := 0x20 ≤ c.toNat && c.toNat ≤ 0x7E

/-- characters that mean something else where a scalar starts -/
def startMarks : List Char :=
  ['#', ',', '[', ']', '\x7b', '\x7d', '&', '*', '!', '|', '>', '\x27', '"', '%', '@', '\x60']

/-- a blank or the end stands in front of the rest -/
def blankOrEnd : List Char → Bool
  | [] => true
  | c :: _ => c = ' '

/-- does the text start like something else than a bare scalar? -/
def startsAsMark (cs : List Char) : Bool :=
  ['-', '-', '-'].isPrefixOf cs || ['.', '.', '.'].isPrefixOf cs ||
    match cs with
    | [] => false
    | c :: rest => startMarks.contains c || ((c = '?' || c = ':' || c = '-') && blankOrEnd rest)

/-- does the text hold a colon that ends a key, or a comment, behind its first character? -/
def holdsMark : List Char → Bool
  | ':' :: rest => blankOrEnd rest || holdsMark rest
  | ' ' :: '#' :: _ => true
  | _ :: rest => holdsMark rest
  | [] => false

/-- can the text stand bare? -/
def canBePlain (cs : List Char) : Bool :=
  cs.all isPlainAscii && cs.head? != some ' ' && cs.getLast? != some ' ' && !startsAsMark cs && !holdsMark cs.tail

/-- a blank right before or right behind a line feed -/
def blankAtBreak : List Char → Bool
  | ' ' :: '\n' :: _ => true
  | '\n' :: ' ' :: _ => true
  | _ :: rest => blankAtBreak rest
  | [] => false

/-- can the text stand between apostrophes? -/
def canBeSingle (cs : List Char) : Bool := (cs.all fun c => c = '\n' || isPlainAscii c) && !blankAtBreak cs

/-- the form for a text whose type is given: bare only if that reads as the type -/
def formFor (tag : Tag) (cs : List Char) : Style :=
  if resolveChars cs = tag && canBePlain cs then .plain
  else if canBeSingle cs then .single
  else .double

end LinePrompt.Yaml.Printer
