/-
Severities of log records, and the numbers that a threshold compares them with.

A record passes a threshold when its rank reaches it. Names are matched as they stand, in capitals; `WARN` and `FATAL`
are second names of `WARNING` and `CRITICAL`, and `NOTSET` names the threshold 0.
-/
namespace LinePrompt.Log

/-- how serious a record is -/
inductive Severity where
  | debug
  | info
  | warning
  | error
  | critical
deriving DecidableEq, Repr

namespace Severity

/-- the number a threshold is compared with -/
def rank : Severity → Nat
  | debug => 10
  | info => 20
  | warning => 30
  | error => 40
  | critical => 50

/-- the name written in a log line -/
def name : Severity → String
  | debug => "DEBUG"
  | info => "INFO"
  | warning => "WARNING"
  | error => "ERROR"
  | critical => "CRITICAL"

/-- the severity a name stands for -/
def ofName? : String → Option Severity
  | "DEBUG" => some debug
  | "INFO" => some info
  | "WARNING" => some warning
  | "WARN" => some warning
  | "ERROR" => some error
  | "CRITICAL" => some critical
  | "FATAL" => some critical
  | _ => none

@[simp] theorem ofName?_name (s : Severity) : ofName? s.name = some s := by
  cases s <;> rfl

end Severity

/-- the threshold a name stands for -/
def thresholdOfName? (name : String) : Option Nat :=
  if name = "NOTSET" then some 0 else (Severity.ofName? name).map Severity.rank

end LinePrompt.Log
