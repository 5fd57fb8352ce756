/-
Style markup in labels: how a caller's text is escaped before it is put between tags, and what text a label with
markup shows.

A tag is a bracket, words and a closing bracket. Escaping knows complete tags alone: in front of one that starts with
a small letter, a hash sign, a slash or an at sign it puts a backslash and doubles the backslashes already there; a
single backslash at the very end is doubled too. All else is left alone, so an unclosed bracket can still run into
the tag that follows the text.

A label shows its text with `\[` as a bracket and without its tags. What starts like a tag and holds anything but
words is shown as it stands. A closing tag must close a tag that is open.
-/
import LinePrompt.Text.Quoted

namespace LinePrompt.Screen.Markup

/-! ## Escaping -/

/-- can this character open a tag that is escaped? -/
def opensTag (c : Char) : Bool := ('a' ≤ c && c ≤ 'z') || c = '#' || c = '/' || c = '@'

/-- is what follows a bracket the rest of a complete tag? -/
def completesTag : List Char → Bool
  | [] => false
  | c :: rest => opensTag c && (rest.dropWhile fun c => c != '[' && c != ']').head? == some ']'

/-- escaping, with the number of backslashes just read -/
def escapeAfter (backslashes : Nat) : List Char → List Char
  | [] => List.replicate backslashes '\\'
  | c :: rest =>
    if c = '\\' then escapeAfter (backslashes + 1) rest
    else if c = '[' && completesTag rest then
      List.replicate (2 * backslashes + 1) '\\' ++ '[' :: escapeAfter 0 rest
    else List.replicate backslashes '\\' ++ c :: escapeAfter 0 rest

/-- does the text end in a backslash that has no backslash in front of it? -/
def endsInSingle (s : List Char) : Bool :=
  match s.reverse with
  | ['\\'] => true
  | '\\' :: c :: _ => c != '\\'
  | _ => false

/-- a text made safe to stand between tags -/
def escape (s : List Char) : List Char :=
  let s := escapeAfter 0 s
  if endsInSingle s then s ++ ['\\'] else s

/-! ## Display -/

/-- controls that a label never shows -/
def isDropped (c : Char) : Bool :=
  c.toNat = 7 || c.toNat = 8 || c.toNat = 11 || c.toNat = 12 || c.toNat = 13

def isWordChar (c : Char) : Bool := c.isAlpha || c = '_' || c = '-'

def isHex (c : Char) : Bool := (Text.hexValue? c).isSome

/-- the length of a percentage in front, with its sign; 0 if there is none -/
def percentLength (cs : List Char) : Nat :=
  let body := match cs with
    | '-' :: rest => rest
    | _ => cs
  let signs := cs.length - body.length
  let whole := (body.takeWhile Char.isDigit).length
  let afterWhole := body.drop whole
  let point := if afterWhole.head? = some '.' then 1 else 0
  let part := ((afterWhole.drop point).takeWhile Char.isDigit).length
  if whole = 0 then 0
  else if (afterWhole.drop (point + part)).head? = some '%' then signs + whole + point + part + 1
  else 0

/-- the length of a colour in hexadecimal digits in front; 0 if there is none -/
def colourLength (cs : List Char) : Nat :=
  match cs with
  | '#' :: rest =>
    let digits := (rest.takeWhile isHex).length
    if 8 ≤ digits then 9 else if 6 ≤ digits then 7 else if 4 ≤ digits then 5 else if 3 ≤ digits then 4 else 0
  | _ => 0

/-- the length of a variable in front; 0 if there is none -/
def variableLength (cs : List Char) : Nat :=
  match cs with
  | '$' :: rest =>
    let name := (rest.takeWhile fun c => isWordChar c || c.isDigit).length
    if name = 0 then 0 else name + 1
  | _ => 0

/-- the length of a name with an equals sign in front; 0 if there is none -/
def keyLength (cs : List Char) : Nat :=
  match cs with
  | c :: rest =>
    if isWordChar c || c = '@' then
      let name := (rest.takeWhile fun c => isWordChar c || c.isDigit).length
      if (rest.drop name).head? = some '=' then name + 2 else 0
    else 0
  | [] => 0

/-- the length of the piece of a tag in front; 0 if what stands there is no part of a tag -/
def pieceLength (cs : List Char) : Nat :=
  let percent := percentLength cs
  let colour := colourLength cs
  let word := (cs.takeWhile isWordChar).length
  let reference := variableLength cs
  if 0 < percent then percent
  else if 0 < colour then colour
  else if 0 < word then word
  else if 0 < reference then reference
  else (cs.takeWhile Char.isWhitespace).length

/-- why a label cannot be shown -/
inductive Flaw where
  | unmatchedClosing (tag : String)
  | nothingToClose
  | badValue
deriving DecidableEq, Repr

def Flaw.message : Flaw → String
  | unmatchedClosing tag => "closing tag '[/" ++ tag ++ "]' does not match any open tag"
  | nothingToClose => "auto closing tag ('[/]') has nothing to close"
  | badValue => "Expected markup value"

/-- the inside of a tag up to its closing bracket -/
structure Tag where
  body : List Char
  /-- it holds something that is no part of a tag -/
  foreign : Bool
  /-- the text ended before the tag did -/
  cut : Bool
  rest : List Char

/-- the value of a key in a tag, up to and with the closing bracket -/
def readValue : Nat → Char → List Char → List Char → Except Flaw Tag
  | 0, _, body, cs => .ok ⟨body, false, true, cs⟩
  | _ + 1, _, body, [] => .ok ⟨body, false, true, []⟩
  | bound + 1, before, body, c :: rest =>
    if c = ']' && before != '\\' then .ok ⟨body, false, false, rest⟩
    else if c.isAlphanum || c = '_' || c = '.' || c = '(' || c = '[' || c = '\x7b' || c = ',' || c.isWhitespace then
      readValue bound c (body ++ [c]) rest
    else if c = '"' || c = '\x27' then
      let inside := rest.takeWhile (· != c)
      match rest.dropWhile (· != c) with
      | q :: rest => readValue bound q (body ++ c :: inside ++ [q]) rest
      | [] => .error .badValue
    else .error .badValue

/-- the inside of a tag; `before` is the character in front, which may escape a bracket -/
def readTag : Nat → Char → List Char → Bool → List Char → Except Flaw Tag
  | 0, _, body, foreign, cs => .ok ⟨body, foreign, true, cs⟩
  | _ + 1, _, body, foreign, [] => .ok ⟨body, foreign, true, []⟩
  | bound + 1, before, body, foreign, c :: rest =>
    if c = ']' && before != '\\' then .ok ⟨body, foreign, false, rest⟩
    else
      let key := keyLength (c :: rest)
      let piece := pieceLength (c :: rest)
      if 0 < key then
        (readValue bound '=' (body ++ (c :: rest).take key) ((c :: rest).drop key)).map fun t =>
          { t with foreign := t.foreign || foreign }
      else if 0 < piece then
        let taken := (c :: rest).take piece
        readTag bound (taken.getLastD c) (body ++ taken) foreign ((c :: rest).drop piece)
      else readTag bound c (body ++ [c]) true rest

/-- the text up to the next bracket that is not escaped, and what starts there -/
def splitText : Char → List Char → List Char × List Char
  | _, [] => ([], [])
  | before, c :: rest =>
    if c = '[' && before != '\\' then ([], c :: rest)
    else
      let (text, more) := splitText c rest
      (c :: text, more)

/-- the text with its escaped brackets plain -/
def unescape : List Char → List Char
  | '\\' :: '[' :: rest => '[' :: unescape rest
  | c :: rest => c :: unescape rest
  | [] => []

/-- the words that follow, with the one that has begun -/
def wordsAfter (begun : List Char) : List Char → List String
  | [] => if begun.isEmpty then [] else [String.ofList begun]
  | c :: rest =>
    if c = ' ' then (if begun.isEmpty then [] else [String.ofList begun]) ++ wordsAfter [] rest
    else wordsAfter (begun ++ [c]) rest

/-- the words of a text, blanks between them dropped -/
def words (s : List Char) : List String := wordsAfter [] s

/-- the name of a tag, on which the order of its words has no bearing -/
def tagName (body : List Char) : List String := (words body).mergeSort (· ≤ ·)

def isBlank (s : List Char) : Bool := s.all Char.isWhitespace

/-- the open tags after a closing tag -/
def closeTag (tag : List Char) (opened : List (List String)) : Except Flaw (List (List String)) :=
  let name := tagName tag
  if name.isEmpty then
    match opened with
    | [] => .error .nothingToClose
    | _ :: opened => .ok opened
  else if opened.contains name then .ok (opened.erase name)
  else .error (.unmatchedClosing ((String.ofList tag).trimAscii.toString))

/-- the text that a label shows, given the tags open so far, newest first -/
def shown : Nat → Char → List (List String) → List Char → Except Flaw (List Char)
  | 0, _, _, cs => .ok cs
  | bound + 1, before, opened, cs =>
    let (text, more) := splitText before cs
    match more with
    | [] => .ok (unescape text)
    | _ :: '/' :: rest =>
      match readTag bound '/' [] false rest with
      | .error f => .error f
      | .ok tag =>
        match closeTag tag.body opened with
        | .error f => .error f
        | .ok opened => (shown bound ']' opened tag.rest).map (unescape text ++ ·)
    | _ :: rest =>
      match readTag bound '[' [] false rest with
      | .error f => .error f
      | .ok tag =>
        if tag.foreign || tag.cut || isBlank tag.body then
          (shown bound ']' opened tag.rest).map
            (unescape text ++ '[' :: tag.body ++ (if tag.cut then [] else [']']) ++ ·)
        else (shown bound ']' (tagName tag.body :: opened) tag.rest).map (unescape text ++ ·)

/-- the text that a label with this markup shows -/
def display (markup : List Char) : Except Flaw (List Char) :=
  let markup := markup.filter fun c => !isDropped c
  if markup.contains '[' then shown (markup.length + 1) ' ' [] markup else .ok markup

end LinePrompt.Screen.Markup
