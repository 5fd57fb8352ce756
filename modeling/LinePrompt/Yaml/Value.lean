/-
The values of YAML documents.

A scalar stands where it is. Collections, dates and times stand in numbered cells, because a document can use one of
them at several places and even inside itself, and what is written back shows that.
-/
import LinePrompt.Decimal.Binary

namespace LinePrompt.Yaml

open LinePrompt.Decimal

structure Date where
  year : Nat
  month : Nat
  day : Nat
deriving DecidableEq, Repr

structure Moment where
  date : Date
  hour : Nat
  minute : Nat
  second : Nat
  micro : Nat
  /-- minutes from universal time, none if no zone is named -/
  offset : Option Int
deriving DecidableEq, Repr

inductive Scalar where
  | null
  | bool (b : Bool)
  | int (n : Int)
  | float (x : Binary)
  | text (s : String)
  | bytes (bs : List UInt8)
deriving DecidableEq, Repr

/-- what stands at one place of a value -/
inductive Item where
  | scalar (s : Scalar)
  | cell (number : Nat)
deriving DecidableEq, Repr

inductive Cell where
  | sequence (items : List Item)
  /-- a sequence of pairs -/
  | pairs (items : List (Item × Item))
  | mapping (entries : List (Item × Item))
  | set (items : List Item)
  | date (date : Date)
  | moment (moment : Moment)
deriving DecidableEq, Repr

/-- a value with the cells it refers to -/
structure Value where
  cells : List (Nat × Cell)
  root : Item
deriving DecidableEq, Repr

def null : Value := ⟨[], .scalar .null⟩

/-- a text as a value -/
def Value.ofText (s : String) : Value := ⟨[], .scalar (.text s)⟩

namespace Value

def cell? (v : Value) (number : Nat) : Option Cell := v.cells.lookup number

/-- the value that stands at a place inside this one -/
def within (v : Value) (i : Item) : Value := { v with root := i }

/-- the name of a value's type, as messages name it -/
def typeName (v : Value) : String :=
  match v.root with
  | .scalar .null => "NoneType"
  | .scalar (.bool _) => "bool"
  | .scalar (.int _) => "int"
  | .scalar (.float _) => "float"
  | .scalar (.text _) => "str"
  | .scalar (.bytes _) => "bytes"
  | .cell n =>
    match v.cell? n with
    | some (.sequence _) => "list"
    | some (.pairs _) => "list"
    | some (.mapping _) => "dict"
    | some (.set _) => "set"
    | some (.date _) => "date"
    | some (.moment _) => "datetime"
    | none => "NoneType"

/-- does the value count as nothing: null, false, zero, or without any content? -/
def isBlank (v : Value) : Bool :=
  match v.root with
  | .scalar .null => true
  | .scalar (.bool b) => !b
  | .scalar (.int n) => n == 0
  | .scalar (.float x) => x.isZero
  | .scalar (.text s) => s == ""
  | .scalar (.bytes bs) => bs.isEmpty
  | .cell n =>
    match v.cell? n with
    | some (.sequence items) => items.isEmpty
    | some (.pairs items) => items.isEmpty
    | some (.mapping entries) => entries.isEmpty
    | some (.set items) => items.isEmpty
    | _ => false

/-- the entries of a mapping -/
def entries? (v : Value) : Option (List (Item × Item)) :=
  match v.root with
  | .cell n =>
    match v.cell? n with
    | some (.mapping entries) => some entries
    | _ => none
  | _ => none

/-- the value that a mapping has for a text as its key -/
def get? (v : Value) (key : String) : Option Value :=
  match v.entries? with
  | none => none
  | some entries => ((entries.find? fun e => e.1 == .scalar (.text key)).map fun e => v.within e.2)

end Value

end LinePrompt.Yaml
