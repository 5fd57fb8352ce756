/-
From a YAML text to its tokens.

The scanner holds the place in the text, the columns of the open blocks, how many brackets are open, and for each
bracket level the token that may turn out to be a key: a key that is not marked as one is known only at its colon,
which must stand on the same line and within 1024 characters. Where a key must stand (at the column of a block) and no
colon comes, the text is unreadable.

Tokens are collected newest first. `Scanner.fetch` reads one token with what the layout around it stands for.

Tokens are asked for one after another by those who read them, and what these find wrong shows before what is wrong with
the tokens behind. Of faults in the form of the text it is all one which of them shows. Another fault stands as a token
of its own behind those that were read off before it was met (`Scanner.settled`).
-/
import LinePrompt.Yaml.Token.Block
import LinePrompt.Yaml.Token.Plain

namespace LinePrompt.Yaml

/-- a token that may turn out to be a key -/
structure KeyCandidate where
  /-- how many tokens stand before it -/
  position : Nat
  /-- nothing but a key can stand here -/
  required : Bool
  index : Nat
  line : Nat
  column : Nat
deriving DecidableEq, Repr

structure Scanner where
  cursor : Cursor
  /-- how many brackets are open -/
  flow : Nat
  /-- the column of the innermost block, -1 outside of all -/
  indent : Int
  /-- the columns of the blocks around it, innermost first -/
  outer : List Int
  /-- may a key start here? -/
  keyAllowed : Bool
  /-- the candidates by bracket level -/
  candidates : List (Nat × KeyCandidate)
  /-- newest first -/
  tokens : List Token
  finished : Bool

namespace Scanner

def start (text : List Char) : Scanner := ⟨.start text, 0, -1, [], true, [], [], false⟩

def inFlow (s : Scanner) : Bool := s.flow != 0

def emit (s : Scanner) (t : Token) : Scanner := { s with tokens := t :: s.tokens }

/-- put a token where `position` tokens stand before it -/
def insertAt (s : Scanner) (position : Nat) (t : Token) : Scanner :=
  let later := s.tokens.length - position
  { s with tokens := s.tokens.take later ++ t :: s.tokens.drop later }

/-- past `n` characters -/
def skip (s : Scanner) (n : Nat) : Scanner := { s with cursor := s.cursor.skip n }

/-- a bound on the loops over the rest of the text -/
def bound (s : Scanner) : Nat := s.cursor.rest.length + 1

/-! ## Layout -/

/-- past blanks, comments and line breaks; a new line outside brackets may start with a key -/
def toNextToken : Nat → Scanner → Scanner
  | 0, s => s
  | bound + 1, s =>
    let cursor := skipComment (s.cursor.skipRun (· = ' '))
    match cursor.lineBreak? with
    | none => { s with cursor }
    | some _ =>
      toNextToken bound { s with cursor := cursor.next, keyAllowed := s.keyAllowed || !s.inFlow }

/-- past a byte order mark at the very beginning -/
def skipMark (s : Scanner) : Scanner :=
  if s.cursor.index = 0 && s.cursor.peek = some '\ufeff' then s.skip 1 else s

/-- close the blocks that are indented deeper than a column -/
def unwind (column : Int) : Nat → Scanner → Scanner
  | 0, s => s
  | bound + 1, s =>
    if !s.inFlow && s.indent > column then
      unwind column bound { s.emit .blockEnd with indent := s.outer.headD (-1), outer := s.outer.tail }
    else s

/-- the same with the number of open blocks as a bound -/
def unwindTo (s : Scanner) (column : Int) : Scanner := unwind column (s.outer.length + 1) s

/-- open a block at a column unless one is open there or deeper; the answer tells whether one was opened -/
def indentTo (s : Scanner) (column : Nat) : Bool × Scanner :=
  if s.indent < column then (true, { s with indent := column, outer := s.indent :: s.outer }) else (false, s)

/-! ## Key candidates -/

def isStale (s : Scanner) (k : KeyCandidate) : Bool :=
  k.line != s.cursor.line || s.cursor.index - k.index > 1024

/-- forget the candidates whose colon can no longer come -/
def dropStale (s : Scanner) : Except Fault Scanner :=
  if s.candidates.any fun (_, k) => s.isStale k && k.required then .error .unreadable
  else .ok { s with candidates := s.candidates.filter fun (_, k) => !s.isStale k }

def candidate? (s : Scanner) : Option KeyCandidate := s.candidates.lookup s.flow

def forget (s : Scanner) : Scanner := { s with candidates := s.candidates.filter fun (level, _) => level != s.flow }

/-- forget the candidate of this bracket level; a required key must not be forgotten -/
def dropCandidate (s : Scanner) : Except Fault Scanner :=
  if s.candidate?.any (·.required) then .error .unreadable else .ok s.forget

/-- the token read next may be a key -/
def saveCandidate (s : Scanner) : Except Fault Scanner :=
  if s.keyAllowed then do
    let required := !s.inFlow && s.indent == s.cursor.column
    let s ← s.dropCandidate
    let k := ⟨s.tokens.length, required, s.cursor.index, s.cursor.line, s.cursor.column⟩
    pure { s with candidates := (s.flow, k) :: s.candidates }
  else .ok s

/-! ## Tokens -/

def fetchEnd (s : Scanner) : Except Fault Scanner := do
  let s ← (s.unwindTo (-1)).dropCandidate
  pure { s with finished := true, candidates := [] }

def fetchDirective (s : Scanner) : Except Fault Scanner := do
  let s ← (s.unwindTo (-1)).dropCandidate
  let (token, cursor) ← readDirective s.cursor
  pure ({ s with cursor, keyAllowed := false }.emit token)

def fetchDocumentMark (s : Scanner) (token : Token) : Except Fault Scanner := do
  let s ← (s.unwindTo (-1)).dropCandidate
  pure ({ s with keyAllowed := false }.skip 3 |>.emit token)

def fetchFlowStart (s : Scanner) (token : Token) : Except Fault Scanner := do
  let s ← s.saveCandidate
  pure ({ s with flow := s.flow + 1, keyAllowed := true }.skip 1 |>.emit token)

def fetchFlowEnd (s : Scanner) (token : Token) : Except Fault Scanner := do
  let s ← s.dropCandidate
  pure ({ s with flow := s.flow - 1, keyAllowed := false }.skip 1 |>.emit token)

def fetchFlowEntry (s : Scanner) : Except Fault Scanner := do
  let s ← s.dropCandidate
  pure ({ s with keyAllowed := true }.skip 1 |>.emit .flowEntry)

/-- open a block for an entry or key that stands here, outside brackets -/
def openBlock (s : Scanner) (token : Token) : Except Fault Scanner :=
  if s.inFlow then .ok s
  else if !s.keyAllowed then .error .unreadable
  else
    let (opened, s) := s.indentTo s.cursor.column
    .ok (if opened then s.emit token else s)

def fetchBlockEntry (s : Scanner) : Except Fault Scanner := do
  let s ← s.openBlock .blockSequenceStart
  let s ← { s with keyAllowed := true }.dropCandidate
  pure (s.skip 1 |>.emit .blockEntry)

def fetchKey (s : Scanner) : Except Fault Scanner := do
  let s ← s.openBlock .blockMappingStart
  let s ← { s with keyAllowed := !s.inFlow }.dropCandidate
  pure (s.skip 1 |>.emit .key)

/-- a colon: it makes a key of the candidate of its bracket level, if there is one -/
def fetchValue (s : Scanner) : Except Fault Scanner :=
  match s.candidate? with
  | some k =>
    let s := s.forget.insertAt k.position .key
    let (opened, s) := if s.inFlow then (false, s) else s.indentTo k.column
    let s := if opened then s.insertAt k.position .blockMappingStart else s
    .ok ({ s with keyAllowed := false }.skip 1 |>.emit .value)
  | none => do
    let s ← s.openBlock .blockMappingStart
    let s ← { s with keyAllowed := !s.inFlow }.dropCandidate
    pure (s.skip 1 |>.emit .value)

/-- a token that may be a key, given its reader -/
def fetchWord (s : Scanner) (reader : Cursor → Except Fault (Token × Cursor)) : Except Fault Scanner := do
  let s ← s.saveCandidate
  let (token, cursor) ← reader s.cursor
  pure ({ s with cursor, keyAllowed := false }.emit token)

def fetchBlockScalar (s : Scanner) : Except Fault Scanner := do
  let s ← { s with keyAllowed := true }.dropCandidate
  let (token, cursor) ← readBlock s.indent s.cursor
  pure ({ s with cursor }.emit token)

def fetchPlain (s : Scanner) : Except Fault Scanner := do
  let s ← s.saveCandidate
  let (token, broken, cursor) := readPlain s.inFlow s.indent s.cursor
  pure ({ s with cursor, keyAllowed := broken }.emit token)

/-- the token that starts at the place reached -/
def dispatch (s : Scanner) : Except Fault Scanner :=
  let c := s.cursor
  let wordEnds := endsWord (c.peekAt 1)
  match c.peek with
  | none => s.fetchEnd
  | some ch =>
    if ch = '%' && c.column = 0 then s.fetchDirective
    else if ch = '-' && c.column = 0 && c.atDocumentMark then s.fetchDocumentMark .documentStart
    else if ch = '.' && c.column = 0 && c.atDocumentMark then s.fetchDocumentMark .documentEnd
    else if ch = '[' then s.fetchFlowStart .flowSequenceStart
    else if ch = '\x7b' then s.fetchFlowStart .flowMappingStart
    else if ch = ']' then s.fetchFlowEnd .flowSequenceEnd
    else if ch = '\x7d' then s.fetchFlowEnd .flowMappingEnd
    else if ch = ',' then s.fetchFlowEntry
    else if ch = '-' && wordEnds then s.fetchBlockEntry
    else if ch = '?' && (s.inFlow || wordEnds) then s.fetchKey
    else if ch = ':' && (s.inFlow || wordEnds) then s.fetchValue
    else if ch = '*' then s.fetchWord fun c => (readAnchor c).map fun (name, c) => (.alias name, c)
    else if ch = '&' then s.fetchWord fun c => (readAnchor c).map fun (name, c) => (.anchor name, c)
    else if ch = '!' then s.fetchWord fun c => (readTag c).map fun (name, c) => (.tag name, c)
    else if (ch = '|' || ch = '>') && !s.inFlow then s.fetchBlockScalar
    else if ch = '\x27' || ch = '"' then s.fetchWord readQuoted
    else if startsPlain s.inFlow c then s.fetchPlain
    else .error .unreadable

/-- the next token, with what the layout before it stands for -/
def fetch (s : Scanner) : Except Fault Scanner := do
  let s := s.skipMark
  let s ← (s.toNextToken s.bound).dropStale
  (s.unwindTo s.cursor.column).dispatch

/-- tokens to the end of the text. Each one takes a character, so the bound is never met. -/
def fetchAll : Nat → Scanner → Except Fault Scanner
  | 0, s => .ok s
  | bound + 1, s => if s.finished then .ok s else s.fetch.bind (fetchAll bound)

/-- as far as tokens can be fetched -/
def reached : Nat → Scanner → Scanner
  | 0, s => s
  | bound + 1, s =>
    match s.fetch with
    | .ok s => reached bound s
    | .error _ => s

/-- the tokens that are read off before the next one is fetched: those in front of the first that may still turn out to
be a key -/
def settled (s : Scanner) : List Token :=
  let positions := (s.candidates.filter fun (_, k) => !s.isStale k).map (·.2.position)
  s.tokens.reverse.take (positions.foldl min s.tokens.length)

end Scanner

/-- the tokens of a text -/
def Token.scan (text : List Char) : Except Fault (List Token) :=
  if text.all isAllowed then
    match Scanner.fetchAll (text.length + 2) (.start text) with
    | .ok s => .ok s.tokens.reverse
    | .error .unreadable => .error .unreadable
    | .error fault => .ok ((Scanner.reached (text.length + 2) (.start text)).settled ++ [.broken fault])
  else .error .unreadable

end LinePrompt.Yaml
