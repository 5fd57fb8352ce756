/-
The text of a value.

A text shows as itself when it is the whole value, and quoted inside a collection or a message. A collection inside
itself shows as dots. A number of more than 4300 digits has no text.
-/
import LinePrompt.Decimal.Numeral
import LinePrompt.Decimal.Shortest
import LinePrompt.Yaml.Fault
import LinePrompt.Yaml.Value

namespace LinePrompt.Yaml

open LinePrompt.Decimal

/-! ## Dates and times -/

/-- a number in at least `width` digits -/
def padded (width n : Nat) : String :=
  let digits := toString n
  String.ofList (List.replicate (width - digits.length) '0') ++ digits

/-- year, month and day, divided by hyphens -/
def Date.text (d : Date) : String := padded 4 d.year ++ "-" ++ padded 2 d.month ++ "-" ++ padded 2 d.day

/-- a distance from universal time in hours and minutes -/
def offsetText (minutes : Int) : String :=
  (if minutes < 0 then "-" else "+") ++ padded 2 (minutes.natAbs / 60) ++ ":" ++ padded 2 (minutes.natAbs % 60)

/-- the date and the time, divided by a blank; a fraction of a second and a zone only if there is one -/
def Moment.text (m : Moment) : String :=
  m.date.text ++ " " ++ padded 2 m.hour ++ ":" ++ padded 2 m.minute ++ ":" ++ padded 2 m.second ++
    (if m.micro = 0 then "" else "." ++ padded 6 m.micro) ++
    (match m.offset with
      | none => ""
      | some n => offsetText n)

def callText (name : String) (arguments : List String) : String := name ++ "(" ++ ", ".intercalate arguments ++ ")"

def Date.quoted (d : Date) : String := callText "datetime.date" [toString d.year, toString d.month, toString d.day]

def zoneText (minutes : Int) : String :=
  if minutes = 0 then "datetime.timezone.utc" else callText "datetime.timezone" [spanText minutes]

/-- the parts of a time by number; a zero at the end is left out -/
def Moment.quoted (m : Moment) : String :=
  let parts := [m.date.year, m.date.month, m.date.day, m.hour, m.minute] ++
    (if m.micro = 0 then (if m.second = 0 then [] else [m.second]) else [m.second, m.micro])
  callText "datetime.datetime" (parts.map toString ++
    (match m.offset with
      | none => []
      | some n => ["tzinfo=" ++ zoneText n]))

/-! ## Values -/

def intText (n : Int) : Except Fault String :=
  if tenTo digitLimit ≤ n.natAbs then .error .longText else .ok (toString n)

def Scalar.quoted : Scalar → Except Fault String
  | .null => .ok "None"
  | .bool true => .ok "True"
  | .bool false => .ok "False"
  | .int n => intText n
  | .float x => .ok x.text
  | .text s => .ok (Text.quoted s)
  | .bytes bs => .ok (Text.quotedBytes bs)

namespace Value

def enclosed (opening closing : String) (parts : List String) : String :=
  opening ++ ", ".intercalate parts ++ closing

/-- the quoted text of what stands at one place, inside the collections `around` it -/
def itemQuoted (v : Value) : Nat → List Nat → Item → Except Fault String
  | 0, _, _ => .ok "..."
  | _ + 1, _, .scalar s => s.quoted
  | bound + 1, around, .cell n =>
    let item := v.itemQuoted bound (n :: around)
    let inside := around.contains n
    match v.cell? n with
    | some (.sequence items) =>
      if inside then .ok "[...]" else (items.mapM item).map (enclosed "[" "]")
    | some (.pairs items) =>
      if inside then .ok "[...]"
      else (items.mapM fun (a, b) => do pure (enclosed "(" ")" [← item a, ← item b])).map (enclosed "[" "]")
    | some (.mapping entries) =>
      if inside then .ok "\x7b...\x7d"
      else (entries.mapM fun (k, e) => do pure ((← item k) ++ ": " ++ (← item e))).map (enclosed "\x7b" "\x7d")
    | some (.set items) =>
      if items.isEmpty then .ok "set()" else (items.mapM item).map (enclosed "\x7b" "\x7d")
    | some (.date d) => .ok d.quoted
    | some (.moment m) => .ok m.quoted
    | none => .ok "None"

/-- The quoted text of a value. A collection on the way down is never entered again, so their number bounds the
depth. -/
def quoted (v : Value) : Except Fault String := v.itemQuoted (v.cells.length + 2) [] v.root

/-- the text of a value -/
def text (v : Value) : Except Fault String :=
  match v.root with
  | .scalar (.text s) => .ok s
  | .cell n =>
    match v.cell? n with
    | some (.date d) => .ok d.text
    | some (.moment m) => .ok m.text
    | _ => v.quoted
  | _ => v.quoted

end Value

end LinePrompt.Yaml
